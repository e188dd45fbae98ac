import NodeCall.Endpoint
import NodeCall.Proofs.Url.Userinfo

/-!
# Credentials in endpoint URLs

A user name and a password that are written into a URL are taken out again, and what is left is the
URL without them.  They are read by the rules for forms, though they were written by the rules for
URLs: there a plus sign and an ampersand stand for themselves, but in a form the one is a space and
the other ends the value.
-/

namespace NodeCall

/-! ### What is read of a user name or a password -/

namespace Credentials

/-- The credentials that a user name and a password make; an empty password counts as none. -/
def of (username : String) (password : Option String) : Option Credentials :=
  let password := password.filter (· ≠ "")
  if username = "" ∧ password = none then none else some ⟨username, password⟩

/-- A text up to the first ampersand, with spaces for its plus signs. -/
def formText (s : String) : String :=
  String.ofList ((s.toList.takeWhile (· ≠ '&')).map fun c => if c = '+' then ' ' else c)

def asForm (credentials : Credentials) : Credentials :=
  ⟨formText credentials.username, credentials.password.map formText⟩

/-- A text in which no character means something else in a form. -/
def Unmistakable (s : String) : Prop := ∀ c ∈ s.toList, c ≠ '+' ∧ c ≠ '&'

instance (s : String) : Decidable (Unmistakable s) := List.decidableBAll _ _

theorem decodePart_written (s : String) : decodePart (Url.written s.toList) = formText s := by
  have apart (x : Char) (part : Text.Percent.isEscape x = true ∨ Url.hidden x = true) :
      (if x = '+' then ' ' else x) = x := by
    refine if_neg ?_
    rintro rfl
    rcases part with part | part <;> exact absurd part (by decide)
  have plain (x : Char) (ordinary : x ≠ '%') : (if x = '+' then ' ' else x) ≠ '%' := by
    split
    · decide
    · exact ordinary
  rw [decodePart, Url.written, Text.Percent.takeWhile_encode (by decide) (by decide),
    Text.Form.decode, Text.Percent.decode_map_encode (by decide) (fun x part => apart x (.inl part))
      (fun x part => apart x (.inr part)) plain, Text.Utf8.decode_encode]
  rfl

theorem isEmpty_written (s : String) : (Url.written s.toList).isEmpty = decide (s = "") := by
  rw [Bool.eq_iff_iff, List.isEmpty_iff, Url.written, Text.Percent.encode_eq_nil, decide_eq_true_eq]
  exact String.toList_eq_nil_iff

/-- What is taken out of a URL is what was written into it, read as a form. -/
theorem ofUrl_withUserinfo (username : String) (password : Option String) (url : Url) :
    ofUrl (url.withUserinfo username.toList (password.map String.toList)) =
      (of username password).map asForm := by
  have secret : (password.map String.toList).getD [] = (password.getD "").toList := by
    cases password <;> rfl
  simp only [ofUrl, Url.withUserinfo, secret, isEmpty_written, decodePart_written,
    decide_eq_true_eq, Bool.and_eq_true]
  cases password with
  | none =>
    by_cases name : username = "" <;> simp [of, asForm, name]
  | some password =>
    by_cases name : username = "" <;> by_cases key : password = "" <;>
      simp [of, asForm, name, key, Option.filter]

theorem map_formText_eq_self (l : List Char) :
    ((l.takeWhile (· ≠ '&')).map fun c => if c = '+' then ' ' else c) = l ↔
      ∀ c ∈ l, c ≠ '+' ∧ c ≠ '&' := by
  induction l with
  | nil => simp
  | cons c rest ih =>
    rw [List.forall_mem_cons, ← ih]
    by_cases ampersand : c = '&'
    · simp [ampersand]
    · by_cases plus : c = '+' <;> simp [ampersand, plus]

theorem formText_eq_self {s : String} : formText s = s ↔ Unmistakable s := by
  rw [Unmistakable, ← map_formText_eq_self, ← String.toList_inj, formText, String.toList_ofList]

theorem unmistakable_empty : Unmistakable "" := nofun

theorem asForm_of {username : String} {password : Option String} :
    (of username password).map asForm = of username password ↔
      Unmistakable username ∧ ∀ p, password = some p → Unmistakable p := by
  cases password with
  | none =>
    by_cases name : username = ""
    · simp [of, name, unmistakable_empty]
    · simp [of, asForm, name, formText_eq_self]
  | some password =>
    by_cases name : username = "" <;> by_cases key : password = "" <;>
      simp [of, asForm, name, key, Option.filter, formText_eq_self, unmistakable_empty]

end Credentials

/-! ### Taking them out of an endpoint -/

namespace Endpoint

/-- The text of an endpoint with a user name and a password before the place that it names. -/
def textWith (scheme : String) (username : String) (password : Option String) (place : String) :
    String :=
  scheme ++ "://" ++ String.ofList (Url.userinfo username.toList (password.map String.toList)) ++
    "@" ++ place

def textWithout (scheme place : String) : String := scheme ++ "://" ++ place

variable {scheme place : String}

theorem toList_textWithout (scheme place : String) :
    (textWithout scheme place).toList = scheme.toList ++ ':' :: '/' :: '/' :: place.toList := by
  simp [textWithout]

theorem toList_textWith (scheme username : String) (password : Option String) (place : String) :
    (textWith scheme username password place).toList = scheme.toList ++ ':' :: '/' :: '/' ::
      (Url.userinfo username.toList (password.map String.toList) ++ '@' :: place.toList) := by
  simp [textWith]

theorem parse_textWith (web : Url.schemeClass (scheme.toList.map Char.toLower) = .web)
    (follows : Url.FollowsUserinfo place.toList) (username : String) (password : Option String) :
    Url.parseChars (Text.trim (textWith scheme username password place).toList) =
      (Url.parseChars (Text.trim (textWithout scheme place).toList)).map
        (Url.withUserinfo username.toList (password.map String.toList)) := by
  rw [toList_textWith, toList_textWithout]
  exact Url.parseChars_userinfo web follows _ _

theorem split_eq {raw : String} (some : Text.trim raw.toList ≠ []) :
    split raw = match Url.parseChars (Text.trim raw.toList) with
      | .error e => .error (.config ("invalid endpoint URL: " ++ e.message))
      | .ok url => .ok (stripped url, Credentials.ofUrl url) := by
  unfold split
  exact if_neg (by simpa using some)

/-- With a user name and a password before its place, a web URL is an endpoint just if it is one
without them.  What is left of it is then the URL without them, and what is taken out of it is what
was written, read as a form: that is what was meant if and only if there is no plus sign and no
ampersand in it. -/
theorem credentials_exact_iff (web : Url.schemeClass (scheme.toList.map Char.toLower) = .web)
    (follows : Url.FollowsUserinfo place.toList) (username : String) (password : Option String) :
    (∀ e, split (textWithout scheme place) = .error e →
      split (textWith scheme username password place) = .error e) ∧
    ∀ url found, split (textWithout scheme place) = .ok (url, found) →
      found = none ∧ url.username = [] ∧ url.password = [] ∧
      Url.parseChars (Text.trim (textWith scheme username password place).toList) =
        .ok (url.withUserinfo username.toList (password.map String.toList)) ∧
      split (textWith scheme username password place) =
        .ok (url, (Credentials.of username password).map Credentials.asForm) ∧
      (split (textWith scheme username password place) =
          .ok (url, Credentials.of username password) ↔
        Credentials.Unmistakable username ∧
          ∀ p, password = some p → Credentials.Unmistakable p) := by
  have bare := @split_eq (textWithout scheme place) (by
    rw [toList_textWithout]
    exact Url.trim_web web _)
  have full := @split_eq (textWith scheme username password place) (by
    rw [toList_textWith]
    exact Url.trim_web web _)
  have parsed := parse_textWith web follows username password
  rw [parsed] at full ⊢
  cases read : Url.parseChars (Text.trim (textWithout scheme place).toList) with
  | error e =>
    rw [read] at bare full
    rw [bare, full]
    exact ⟨fun _ same => same, fun _ _ => nofun⟩
  | ok url =>
    have clean : url.username = [] ∧ url.password = [] := by
      rw [toList_textWithout] at read
      exact Url.userinfo_of_parseChars web follows read
    have same : stripped url = url := by
      obtain ⟨_, _, _, _, _, _, _, _⟩ := url
      obtain ⟨rfl, rfl⟩ := clean
      rfl
    have none : Credentials.ofUrl url = .none := by
      rw [Credentials.ofUrl, clean.1, clean.2]
      rfl
    rw [read] at bare full
    have taken : split (textWith scheme username password place) =
        .ok (url, (Credentials.of username password).map Credentials.asForm) := by
      rw [full]
      show Except.ok (stripped url, _) = _
      rw [same, Credentials.ofUrl_withUserinfo]
    rw [bare, taken]
    refine ⟨fun _ => nofun, fun url' found eq => ?_⟩
    obtain ⟨rfl, rfl⟩ := Prod.mk.inj (Except.ok.inj eq)
    rw [same]
    refine ⟨none, clean.1, clean.2, rfl, rfl, ?_⟩
    rw [Except.ok.injEq, Prod.mk.injEq, Credentials.asForm_of]
    exact and_iff_right rfl

/-- A password in which a percent sign, a colon, an at sign and an umlaut are escaped. -/
theorem credentials_exact_escaped :
    (Url.schemeClass ("HTTPS".toList.map Char.toLower) = .web ∧
      Url.FollowsUserinfo "[::1]:8545/@v1".toList) ∧
    textWith "HTTPS" "alice" (some "50%:\u00FC@$") "[::1]:8545/@v1" =
      "HTTPS://alice:50%25%3A%C3%BC%40$@[::1]:8545/@v1" ∧
    ∃ url, url.text = "https://[::1]:8545/@v1" ∧
      split (textWith "HTTPS" "alice" (some "50%:\u00FC@$") "[::1]:8545/@v1") =
        .ok (url, some ⟨"alice", some "50%:\u00FC@$"⟩) := by
  have web : Url.schemeClass ("HTTPS".toList.map Char.toLower) = .web := by decide
  have follows : Url.FollowsUserinfo "[::1]:8545/@v1".toList :=
    ⟨by decide, fun _ first => by rw [← Option.some.inj first]; rfl⟩
  have bare : (split (textWithout "HTTPS" "[::1]:8545/@v1")).toOption.map
      (fun found => (found.1.text, found.2)) = some ("https://[::1]:8545/@v1", none) := by
    decide +kernel
  refine ⟨⟨web, follows⟩, by decide +kernel, ?_⟩
  cases read : split (textWithout "HTTPS" "[::1]:8545/@v1") with
  | error e =>
    rw [read] at bare
    cases bare
  | ok found =>
    rw [read] at bare
    obtain ⟨url, _⟩ := found
    have exact :=
      ((credentials_exact_iff web follows "alice" (some "50%:\u00FC@$")).2 url _ read).2.2.2.2.2
    refine ⟨url, congrArg Prod.fst (Option.some.inj bare), exact.mpr ⟨by decide, ?_⟩⟩
    rintro _ ⟨⟩
    decide

/-- A plus sign is taken for a space, and what follows an ampersand is lost. -/
theorem plus_and_ampersand_misread :
    textWith "https" "a+b" (some "c&d") "[::1]/v1" = "https://a+b:c&d@[::1]/v1" ∧
    (split "https://a+b:c&d@[::1]/v1").toOption.map (fun found => (found.1.text, found.2)) =
      some ("https://[::1]/v1", some ⟨"a b", some "c"⟩) := by
  exact ⟨by decide +kernel, by decide +kernel⟩

end Endpoint
end NodeCall
