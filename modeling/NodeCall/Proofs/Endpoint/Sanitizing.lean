import NodeCall.Endpoint
import NodeCall.Proofs.Text.Form
import NodeCall.Proofs.Url.Reparsing
import Mathlib.Data.List.Forall2

/-!
# URLs without their secrets

A URL that may be shown says of its password only that there is one, and of a value under a
sensitive key nothing.  All else can still be told from it: two URLs are shown alike just if they
differ in nothing but their secrets, and what is shown is read as the URL with its secrets hidden.
-/

namespace NodeCall.Endpoint

open Text (Form.Pair)

variable {u v : Url} {p q : Form.Pair} {pairs others : List Form.Pair}

/-- The names and values in the query of a URL. -/
def queryPairs (url : Url) : List Form.Pair := Text.Form.parse (url.query.getD [])

/-! ### Pairs -/

/-- The same name, and the same value unless it is a secret. -/
def SamePair (p q : Form.Pair) : Prop := p.1 = q.1 ∧ (isSensitive p.1 = true ∨ p.2 = q.2)

instance (p q : Form.Pair) : Decidable (SamePair p q) := instDecidableAnd

theorem masked_fst (pair : Form.Pair) : (masked pair).1 = pair.1 := by
  unfold masked
  split <;> rfl

theorem masked_eq_iff : masked p = masked q ↔ SamePair p q := by
  obtain ⟨name, value⟩ := p
  obtain ⟨name', value'⟩ := q
  constructor
  · intro same
    have names : name = name' := by
      have := congrArg Prod.fst same
      rwa [masked_fst, masked_fst] at this
    refine ⟨names, ?_⟩
    cases secret : isSensitive name with
    | true => exact .inl rfl
    | false => exact .inr (by simpa [masked, ← names, secret] using same)
  · rintro ⟨rfl, secret | same⟩
    · dsimp only at secret
      simp [masked, secret]
    · rw [show value = value' from same]

theorem map_masked_eq_iff :
    pairs.map masked = others.map masked ↔ List.Forall₂ SamePair pairs others := by
  induction pairs generalizing others with
  | nil => cases others <;> simp
  | cons p rest ih => cases others <;> simp [masked_eq_iff, ih]

/-! ### URLs -/

/-- The same URL but for the content of a password and the values under sensitive keys. -/
structure Alike (u v : Url) : Prop where
  scheme : u.scheme = v.scheme
  username : u.username = v.username
  password : u.password = [] ↔ v.password = []
  host : u.host = v.host
  port : u.port = v.port
  path : u.path = v.path
  query : u.query = v.query ∨
    queryPairs u ≠ [] ∧ List.Forall₂ SamePair (queryPairs u) (queryPairs v)
  fragment : u.fragment = v.fragment

def shownPassword (url : Url) : List Char :=
  if url.password.isEmpty then [] else Credentials.mask.toList

def shownQuery (url : Url) : Option (List Char) :=
  if (queryPairs url).isEmpty then url.query
  else some (Text.Form.serialize ((queryPairs url).map masked))

theorem sanitized_eq (url : Url) :
    sanitized url = { url with password := shownPassword url, query := shownQuery url } := rfl

theorem shownPassword_eq_nil : shownPassword u = [] ↔ u.password = [] := by
  unfold shownPassword
  split
  · next empty => exact iff_of_true rfl (List.isEmpty_iff.mp empty)
  · next some => exact iff_of_false (by decide) (mt List.isEmpty_iff.mpr some)

theorem shownPassword_eq_iff :
    shownPassword u = shownPassword v ↔ (u.password = [] ↔ v.password = []) := by
  constructor
  · intro same
    rw [← shownPassword_eq_nil, same, shownPassword_eq_nil]
  · intro same
    unfold shownPassword
    rw [show u.password.isEmpty = v.password.isEmpty by
      rw [Bool.eq_iff_iff, List.isEmpty_iff, List.isEmpty_iff, same]]

/-- The pairs of the query that is shown are those of the URL with their secrets hidden. -/
theorem parse_shownQuery (url : Url) :
    Text.Form.parse ((shownQuery url).getD []) = (queryPairs url).map masked := by
  unfold shownQuery
  split
  · next none =>
    show queryPairs url = _
    rw [List.isEmpty_iff.mp none]
    rfl
  · rw [Option.getD_some, Text.Form.parse_serialize]

theorem shownQuery_of_nil (none : queryPairs u = []) : shownQuery u = u.query := by
  rw [shownQuery, none]
  rfl

theorem shownQuery_of_ne_nil (some : queryPairs u ≠ []) :
    shownQuery u = .some (Text.Form.serialize ((queryPairs u).map masked)) := by
  rw [shownQuery, if_neg (mt List.isEmpty_iff.mp some)]

theorem shownQuery_eq_iff : shownQuery u = shownQuery v ↔
    u.query = v.query ∨ queryPairs u ≠ [] ∧ List.Forall₂ SamePair (queryPairs u) (queryPairs v) := by
  constructor
  · intro same
    have pairs : (queryPairs u).map masked = (queryPairs v).map masked := by
      rw [← parse_shownQuery, same, parse_shownQuery]
    rw [map_masked_eq_iff] at pairs
    by_cases none : queryPairs u = []
    · rw [none, List.forall₂_nil_left_iff] at pairs
      rw [shownQuery_of_nil none, shownQuery_of_nil pairs] at same
      exact .inl same
    · exact .inr ⟨none, pairs⟩
  · rintro (same | ⟨some, pairs⟩)
    · have parts : queryPairs u = queryPairs v := by rw [queryPairs, same, queryPairs]
      rw [shownQuery, shownQuery, same, parts]
    · have some' : queryPairs v ≠ [] := by
        intro none
        rw [none, List.forall₂_nil_right_iff] at pairs
        exact some pairs
      rw [shownQuery_of_ne_nil some, shownQuery_of_ne_nil some', map_masked_eq_iff.mpr pairs]

theorem sanitized_eq_iff : sanitized u = sanitized v ↔ Alike u v := by
  rw [sanitized_eq, sanitized_eq, Url.mk.injEq, shownPassword_eq_iff, shownQuery_eq_iff]
  exact ⟨fun ⟨scheme, username, password, host, port, path, query, fragment⟩ =>
      ⟨scheme, username, password, host, port, path, query, fragment⟩,
    fun ⟨scheme, username, password, host, port, path, query, fragment⟩ =>
      ⟨scheme, username, password, host, port, path, query, fragment⟩⟩

/-- Two URLs that differ in nothing but their secrets are shown as the same text.  Nothing else is
hidden: only such URLs are the same without their secrets. -/
theorem sanitize_hides_secrets {a b : String} (ha : Url.parse a = .ok u) (hb : Url.parse b = .ok v) :
    (Alike u v → sanitize a = sanitize b) ∧ (sanitized u = sanitized v ↔ Alike u v) := by
  refine ⟨fun alike => ?_, sanitized_eq_iff⟩
  rw [sanitize, sanitize, ha, hb]
  exact congrArg Url.text (sanitized_eq_iff.mpr alike)

/-- A URL with a secret under a name that is written with an escape, and twice. -/
def keyedUrl (password key : String) : Url :=
  ⟨"https".toList, "bob".toList, password.toList, some (.ipv6 [0, 0, 0, 0, 0, 0, 0, 1]), none,
    .rooted ["v2".toList], some key.toList, none⟩

theorem sanitize_hides_secrets_twice :
    (Url.parse "https://bob:hunter2@[::1]/v2?A%50Ikey=abc&chain=1&APIkey=%ff" =
        .ok (keyedUrl "hunter2" "A%50Ikey=abc&chain=1&APIkey=%ff") ∧
      Url.parse "https://bob:x@[::1]/v2?APIkey&chain=1&AP%49key=+" =
        .ok (keyedUrl "x" "APIkey&chain=1&AP%49key=+")) ∧
    sanitize "https://bob:hunter2@[::1]/v2?A%50Ikey=abc&chain=1&APIkey=%ff" =
      sanitize "https://bob:x@[::1]/v2?APIkey&chain=1&AP%49key=+" ∧
    sanitize "https://bob:x@[::1]/v2?APIkey&chain=1&AP%49key=+" =
      "https://bob:***@[::1]/v2?APIkey=***&chain=1&APIkey=***" := by
  have first : Url.parse "https://bob:hunter2@[::1]/v2?A%50Ikey=abc&chain=1&APIkey=%ff" =
      .ok (keyedUrl "hunter2" "A%50Ikey=abc&chain=1&APIkey=%ff") := by decide +kernel
  have second : Url.parse "https://bob:x@[::1]/v2?APIkey&chain=1&AP%49key=+" =
      .ok (keyedUrl "x" "APIkey&chain=1&AP%49key=+") := by decide +kernel
  have alike : Alike (keyedUrl "hunter2" "A%50Ikey=abc&chain=1&APIkey=%ff")
      (keyedUrl "x" "APIkey&chain=1&AP%49key=+") :=
    ⟨rfl, rfl, by decide, rfl, rfl, rfl, .inr (by decide +kernel), rfl⟩
  exact ⟨⟨first, second⟩, (sanitize_hides_secrets first second).1 alike, by decide +kernel⟩

/-! ### Reading what is shown -/

theorem masked_masked (pair : Form.Pair) : masked (masked pair) = masked pair := by
  unfold masked
  cases secret : isSensitive pair.1 <;> simp [secret]

theorem queryPairs_sanitized (url : Url) :
    queryPairs (sanitized url) = (queryPairs url).map masked := parse_shownQuery url

theorem alike_sanitized (url : Url) : Alike (sanitized url) url where
  scheme := rfl
  username := rfl
  password := shownPassword_eq_nil
  host := rfl
  port := rfl
  path := rfl
  query := by
    by_cases none : queryPairs url = []
    · exact .inl (shownQuery_of_nil none)
    · rw [queryPairs_sanitized, ← map_masked_eq_iff, List.map_map]
      exact .inr ⟨mt List.map_eq_nil_iff.mp none,
        List.map_congr_left fun pair _ => masked_masked pair⟩
  fragment := rfl

theorem sanitized_sanitized (url : Url) : sanitized (sanitized url) = sanitized url :=
  sanitized_eq_iff.mpr (alike_sanitized url)

theorem specialQuery_of_mem_serialize {c : Char} (there : c ∈ Text.Form.serialize pairs) :
    Text.Percent.specialQuery c = false := by
  have all : ∀ n < 123, Text.Form.isEncoded (Char.ofNat n) = true →
      Text.Percent.specialQuery (Char.ofNat n) = false := by decide
  rcases Text.Form.mem_serialize there with encoded | rfl | rfl
  · have small : c.toNat < 123 := by
      simp only [Text.Form.isEncoded, Text.Form.isPlain, Bool.or_eq_true, decide_eq_true_eq]
        at encoded
      rcases encoded with (((((letter | rfl) | rfl) | rfl) | rfl) | rfl) | rfl
      · exact Url.toNat_of_isSchemeChar (by simp [Url.isSchemeChar, letter])
      all_goals decide
    have shown := all c.toNat small
    rw [Char.ofNat_toNat] at shown
    exact shown encoded
  · rfl
  · rfl

theorem reparses_sanitized (reads : Url.Reparses u) : Url.Reparses (sanitized u) := by
  have shown : Url.Reparses { u with query := shownQuery u } := by
    by_cases none : queryPairs u = []
    · rwa [shownQuery_of_nil none]
    · obtain ⟨query, some⟩ : ∃ query, u.query = some query := by
        refine Option.ne_none_iff_exists'.mp fun missing => none ?_
        rw [queryPairs, missing]
        rfl
      rw [shownQuery_of_ne_nil none]
      exact reads.withQuery some fun c => specialQuery_of_mem_serialize
  by_cases empty : u.password = []
  · have same : shownPassword u = u.password := by rw [empty, shownPassword, empty]; rfl
    rw [sanitized_eq, same]
    exact shown
  · have hidden : shownPassword u = Credentials.mask.toList := if_neg (by simpa using empty)
    rw [sanitized_eq, hidden]
    refine shown.withPassword empty (by decide) fun c star => ?_
    obtain rfl : c = '*' := by simpa [Credentials.mask] using star
    decide

/-- A URL that is shown is read with the names and values of the original, but for the values under
sensitive names, and with the same other parts.  Showing it again changes nothing. -/
theorem sanitize_keeps_rest {raw : String}
    (reparses : ∀ url, Url.parse raw = .ok url → Url.parse url.text = .ok url) :
    (∀ url, Url.parse raw = .ok url → ∃ shown, Url.parse (sanitize raw) = .ok shown ∧
      queryPairs shown = (queryPairs url).map masked ∧
      shown.scheme = url.scheme ∧ shown.username = url.username ∧
      (shown.password = [] ↔ url.password = []) ∧ shown.host = url.host ∧
      shown.port = url.port ∧ shown.path = url.path ∧ shown.fragment = url.fragment) ∧
    sanitize (sanitize raw) = sanitize raw := by
  have again (url : Url) (read : Url.parse raw = .ok url) :
      sanitize raw = (sanitized url).text ∧
        Url.parse (sanitized url).text = .ok (sanitized url) := by
    refine ⟨by rw [sanitize, read], ?_⟩
    have reads : Url.Reparses url := by
      have reads := reparses url read
      rwa [Url.parse, Url.text, String.toList_ofList] at reads
    rw [Url.parse, Url.text, String.toList_ofList]
    exact reparses_sanitized reads
  constructor
  · intro url read
    obtain ⟨text, reread⟩ := again url read
    rw [text]
    exact ⟨sanitized url, reread, queryPairs_sanitized url, rfl, rfl, shownPassword_eq_nil, rfl,
      rfl, rfl, rfl⟩
  · cases read : Url.parse raw with
    | error e =>
      have placeholder : sanitize raw = invalidText := by rw [sanitize, read]
      rw [placeholder]
      decide +kernel
    | ok url =>
      obtain ⟨text, reread⟩ := again url read
      rw [text, sanitize, reread]
      exact congrArg Url.text (sanitized_sanitized url)

theorem sanitize_keeps_rest_repeated :
    (∀ url, Url.parse "wss://bob:p@[::1]:8546/a%20b?token=%ff&x&x=+1&&ToKen=2#f" = .ok url →
      Url.parse url.text = .ok url) ∧
    sanitize "wss://bob:p@[::1]:8546/a%20b?token=%ff&x&x=+1&&ToKen=2#f" =
      "wss://bob:***@[::1]:8546/a%20b?token=***&x=&x=+1&ToKen=***#f" ∧
    sanitize "wss://bob:***@[::1]:8546/a%20b?token=***&x=&x=+1&ToKen=***#f" =
      "wss://bob:***@[::1]:8546/a%20b?token=***&x=&x=+1&ToKen=***#f" := by
  have reparses (url : Url)
      (read : Url.parse "wss://bob:p@[::1]:8546/a%20b?token=%ff&x&x=+1&&ToKen=2#f" = .ok url) :
      Url.parse url.text = .ok url := by
    have parsed : Url.parse "wss://bob:p@[::1]:8546/a%20b?token=%ff&x&x=+1&&ToKen=2#f" =
        .ok ⟨"wss".toList, "bob".toList, "p".toList, some (.ipv6 [0, 0, 0, 0, 0, 0, 0, 1]),
          some 8546, .rooted ["a%20b".toList], some "token=%ff&x&x=+1&&ToKen=2".toList,
          some "f".toList⟩ := by decide +kernel
    obtain rfl := Except.ok.inj (parsed.symm.trans read)
    decide +kernel
  have shown : sanitize "wss://bob:p@[::1]:8546/a%20b?token=%ff&x&x=+1&&ToKen=2#f" =
      "wss://bob:***@[::1]:8546/a%20b?token=***&x=&x=+1&ToKen=***#f" := by decide +kernel
  refine ⟨reparses, shown, ?_⟩
  have again := (sanitize_keeps_rest reparses).2
  rwa [shown] at again

end NodeCall.Endpoint
