import NodeCall.Proofs.Results
import NodeCall.Proofs.Text.Percent
import NodeCall.Url.Parser
import Mathlib.Data.List.DropRight
import Mathlib.Data.List.TakeWhile

/-!
# User names and passwords in URLs

A user name and a password are written before the host with all characters escaped that may not
stand there, and percent signs as well.  The URL is then read as it would be without them, and they
stand in it as they were written.
-/

namespace NodeCall.Url

open Text (Percent.Class)

variable {scheme s host front place : List Char} {c : Char}

/-! ### Writing -/

/-- The characters that are escaped in a user name or a password: those that may not stand there,
and percent signs. -/
def hidden : Percent.Class := Percent.Class.with Text.Percent.userinfo ['%']

def written (part : List Char) : List Char := Text.Percent.encode hidden part

/-- What is written before the host; there is a colon just if there is a password. -/
def userinfo (username : List Char) (password : Option (List Char)) : List Char :=
  written username ++ markedText ':' (password.map written)

/-- A URL with a user name and a password as they are written. -/
def withUserinfo (username : List Char) (password : Option (List Char)) (url : Url) : Url :=
  { url with username := written username, password := written (password.getD []) }

theorem hidden_of_userinfo (there : Text.Percent.userinfo c = true) : hidden c = true := by
  rw [hidden, Percent.Class.with, there]
  rfl

theorem not_mem_written (there : hidden c = true) (apart : Text.Percent.isEscape c = false)
    (part : List Char) : c ∉ written part :=
  Text.Percent.not_mem_encode there apart part

theorem userinfo_of_isEscape (part : Text.Percent.isEscape c = true) :
    Text.Percent.userinfo c = false := by
  have all : "%0123456789ABCDEF".toList.all (!Text.Percent.userinfo ·) = true := by decide
  exact Bool.not_eq_true' _ ▸ List.all_eq_true.mp all c (List.contains_iff_mem.mp part)

theorem encode_written (part : List Char) :
    Text.Percent.encode Text.Percent.userinfo (written part) = written part := by
  refine Text.Percent.encode_encode (fun x shown => ?_) (fun x => userinfo_of_isEscape) part
  exact Bool.eq_false_iff.mpr fun escaped =>
    Bool.false_ne_true (shown.symm.trans (hidden_of_userinfo escaped))

/-- Neither what ends an authority nor a line break stands in what is written before the host. -/
theorem not_mem_userinfo (username : List Char) (password : Option (List Char)) :
    ∀ c ∈ ['/', '\\', '?', '#', '\t', '\n', '\r'], c ∉ userinfo username password ++ ['@'] := by
  have outside : ['/', '\\', '?', '#', '\t', '\n', '\r'].all (fun c =>
      hidden c ∧ Text.Percent.isEscape c = false ∧ c ≠ ':' ∧ c ≠ '@') = true := by decide
  intro c among there
  obtain ⟨escaped, apart, colon, sign⟩ :=
    of_decide_eq_true (List.all_eq_true.mp outside c among)
  rcases List.mem_append.mp there with inside | last
  · rcases List.mem_append.mp inside with name | rest
    · exact not_mem_written escaped apart username name
    · cases password with
      | none => cases rest
      | some password =>
        rcases List.mem_cons.mp rest with here | secret
        · exact colon here
        · exact not_mem_written escaped apart password secret
  · exact sign (List.mem_singleton.mp last)

/-! ### Taking apart what is before the path -/

theorem splitUserinfo_of_not_mem (none : '@' ∉ s) : splitUserinfo s = .none := by
  rw [splitUserinfo, if_neg (by simpa using none)]

/-- The last at sign stands before the host. -/
theorem splitUserinfo_append (front : List Char) (none : '@' ∉ host) :
    splitUserinfo (front ++ '@' :: host) = some (front, host) := by
  have last : ((front ++ '@' :: host).reverse.takeWhile (· ≠ '@')).reverse = host := by
    rw [List.reverse_append, List.reverse_cons, List.append_assoc,
      List.takeWhile_append_of_pos fun x there => ?_]
    · simp
    · rw [decide_eq_true_eq]
      rintro rfl
      exact none (List.mem_reverse.mp there)
  rw [splitUserinfo, if_pos (by simp)]
  simp only [last, Option.some.injEq, Prod.mk.injEq, and_true]
  rw [List.length_append, List.length_cons,
    show front.length + (host.length + 1) - host.length - 1 = front.length by omega,
    List.take_left]

theorem credentialsOf_userinfo (username : List Char) (password : Option (List Char)) :
    credentialsOf (userinfo username password) =
      (written username, written (password.getD [])) := by
  have before : ∀ x ∈ written username, decide (x ≠ ':') = true := by
    intro x there
    rw [decide_eq_true_eq]
    rintro rfl
    exact not_mem_written (by decide) (by decide) username there
  rw [credentialsOf, userinfo, List.takeWhile_append_of_pos before,
    List.dropWhile_append_of_pos before]
  cases password with
  | none =>
    simp only [Option.map_none, markedText, List.takeWhile_nil, List.dropWhile_nil, List.drop_nil,
      List.append_nil, encode_written]
    rfl
  | some password =>
    simp [markedText, encode_written]

/-- The host and the port in what follows the userinfo of a web URL, and what is left over. -/
def hostAndPort (scheme s : List Char) :
    Except ParseError (Host × Option Nat × List Char) := do
  let (hostText, after) := splitHost false s
  if hostText.isEmpty then throw .emptyHost
  let host ← domainHost hostText
  let (port, left) ← portOf scheme after
  return (host, port, left)

/-- In a web URL the userinfo says nothing about the rest of the authority. -/
theorem authorityOf_web (web : schemeClass scheme = .web) (s : List Char) (more : Bool) :
    authorityOf scheme s more =
      (hostAndPort scheme ((splitUserinfo s).getD ([], s)).2).map fun found =>
        (⟨(credentialsOf ((splitUserinfo s).getD ([], s)).1).1,
          (credentialsOf ((splitUserinfo s).getD ([], s)).1).2, found.1, found.2.1⟩,
          found.2.2) := by
  unfold authorityOf hostAndPort
  generalize (splitUserinfo s).getD ([], s) = parts
  obtain ⟨userinfo, rest⟩ := parts
  generalize hsplit : splitHost false rest = split
  obtain ⟨hostText, after⟩ := split
  cases hostText with
  | nil =>
    -- without a host it is the same failure whichever check comes first
    simp only [hsplit, web, decide_true, Bool.true_and, List.isEmpty_nil, if_true]
    split <;> rfl
  | cons c host =>
    have some : rest.isEmpty = false := by
      cases rest with
      | nil => cases hsplit
      | cons _ _ => rfl
    simp only [hsplit, web, some, decide_true, Bool.and_false, Bool.false_and,
      Bool.false_eq_true, List.isEmpty_cons, if_true, if_false]
    cases domainHost (c :: host) with
    | error e => rfl
    | ok found =>
      cases portOf scheme after with
      | error e => simp [bind, Except.bind, Except.map]
      | ok port => simp [bind, Except.bind, Except.map, pure, Except.pure]

/-! ### The path and what follows it -/

/-- Where the authority of a web URL ends. -/
def endsAuthority (c : Char) : Bool := isSlash .web c || endsPath c

theorem endsAuthority_iff : endsAuthority c = true ↔ c ∈ ['/', '\\', '?', '#'] := by
  simp [endsAuthority, isSlash, endsPath, or_assoc]

theorem userinfo_within (username : List Char) (password : Option (List Char)) :
    ∀ x ∈ userinfo username password ++ ['@'], endsAuthority x = false := by
  intro x there
  refine Bool.eq_false_iff.mpr fun ends => not_mem_userinfo username password x ?_ there
  exact List.mem_append_left ['\t', '\n', '\r'] (endsAuthority_iff.mp ends)

/-- The parts of a URL that do not depend on its userinfo. -/
def urlOf (scheme : List Char) (found : Authority × List Char) (s : List Char) : Url :=
  let rest := found.2 ++ s.dropWhile (!endsAuthority ·)
  let suffix := suffixOf .web (rest.dropWhile (!endsPath ·))
  ⟨scheme, found.1.username, found.1.password, some found.1.host, found.1.port,
    .rooted (Path.segments (isSlash .web) (rest.takeWhile (!endsPath ·))), suffix.1, suffix.2⟩

theorem withAuthority_web (web : schemeClass scheme = .web) (s : List Char) :
    withAuthority scheme s =
      (authorityOf scheme (s.takeWhile (!endsAuthority ·)) (s.any endsAuthority)).map
        (urlOf scheme · s) := by
  unfold withAuthority
  simp only [web]
  show (authorityOf scheme (s.takeWhile (!endsAuthority ·)) (s.any endsAuthority) >>= _) = _
  cases authorityOf scheme (s.takeWhile (!endsAuthority ·)) (s.any endsAuthority) <;> rfl

/-- With a user name and a password before its host, a web URL is read as it is without them. -/
theorem withAuthority_userinfo (web : schemeClass scheme = .web)
    (last : '@' ∉ place.takeWhile (!endsAuthority ·)) (username : List Char)
    (password : Option (List Char)) :
    withAuthority scheme (userinfo username password ++ '@' :: place) =
      (withAuthority scheme place).map (withUserinfo username password) := by
  have within : ∀ x ∈ userinfo username password ++ ['@'], (!endsAuthority x) = true :=
    fun x there => by rw [userinfo_within username password x there]; rfl
  have front : userinfo username password ++ '@' :: place =
      (userinfo username password ++ ['@']) ++ place := by simp
  have takes : (userinfo username password ++ '@' :: place).takeWhile (!endsAuthority ·) =
      userinfo username password ++ '@' :: place.takeWhile (!endsAuthority ·) := by
    rw [front, List.takeWhile_append_of_pos within, List.append_assoc, List.singleton_append]
  have drops : (userinfo username password ++ '@' :: place).dropWhile (!endsAuthority ·) =
      place.dropWhile (!endsAuthority ·) := by
    rw [front, List.dropWhile_append_of_pos within]
  rw [withAuthority_web web, withAuthority_web web, authorityOf_web web, authorityOf_web web,
    splitUserinfo_of_not_mem last, takes, splitUserinfo_append _ last]
  simp only [Option.getD_some, Option.getD_none, credentialsOf_userinfo]
  cases hostAndPort scheme (place.takeWhile (!endsAuthority ·)) with
  | error e => rfl
  | ok found =>
    simp only [Except.map, urlOf, drops]
    rfl

theorem userinfo_of_withAuthority (web : schemeClass scheme = .web)
    (last : '@' ∉ place.takeWhile (!endsAuthority ·)) {url : Url}
    (read : withAuthority scheme place = .ok url) : url.username = [] ∧ url.password = [] := by
  rw [withAuthority_web web, authorityOf_web web, splitUserinfo_of_not_mem last] at read
  obtain ⟨found, inside, rfl⟩ := map_eq_ok.mp read
  obtain ⟨found, -, rfl⟩ := map_eq_ok.mp inside
  exact ⟨rfl, rfl⟩

/-! ### Schemes -/

theorem schemeClass_web (web : schemeClass scheme = .web) :
    scheme ∈ ["http".toList, "https".toList, "ws".toList, "wss".toList, "ftp".toList] := by
  have named (name : String) (same : String.ofList scheme = name) : scheme = name.toList := by
    rw [← same, String.toList_ofList]
  unfold schemeClass at web
  split at web
  case h_6 => cases web
  case h_7 => cases web
  all_goals
    next same =>
      rw [named _ same]
      decide

theorem isAlpha_of_toLower (letter : c.toLower.isAlpha = true) : c.isAlpha = true := by
  by_cases upper : c.val ≥ 'A'.val ∧ c.val ≤ 'Z'.val
  · have capital : c.isUpper = true := decide_eq_true upper
    show (c.isUpper || c.isLower) = true
    rw [capital, Bool.true_or]
  · have same : c.toLower = c := dif_neg upper
    rwa [same] at letter

theorem isAlpha_of_web (web : schemeClass (scheme.map Char.toLower) = .web) :
    scheme ≠ [] ∧ ∀ x ∈ scheme, x.isAlpha = true := by
  have letters : ["http".toList, "https".toList, "ws".toList, "wss".toList, "ftp".toList].all
      (fun name => !name.isEmpty && name.all Char.isAlpha) = true := by decide
  have named := List.all_eq_true.mp letters _ (schemeClass_web web)
  rw [Bool.and_eq_true, List.all_eq_true] at named
  refine ⟨?_, fun x there => isAlpha_of_toLower (named.2 _ (List.mem_map_of_mem there))⟩
  rintro rfl
  cases named.1

/-- A character of a scheme. -/
def isSchemeChar (c : Char) : Bool := c.isAlphanum || c = '+' || c = '-' || c = '.'

theorem splitScheme_append (letter : scheme.head?.any Char.isAlpha = true)
    (chars : ∀ x ∈ scheme, isSchemeChar x = true) (rest : List Char) :
    splitScheme (scheme ++ ':' :: rest) = some (scheme.map Char.toLower, rest) := by
  have within : ∀ x ∈ scheme, (x.isAlphanum || x = '+' || x = '-' || x = '.') = true := chars
  unfold splitScheme
  rw [List.takeWhile_append_of_pos within, List.dropWhile_append_of_pos within,
    List.takeWhile_cons_of_neg (by decide), List.dropWhile_cons_of_neg (by decide),
    List.append_nil]
  exact if_pos letter

theorem splitScheme_letters (some : scheme ≠ []) (letters : ∀ x ∈ scheme, x.isAlpha = true)
    (rest : List Char) :
    splitScheme (scheme ++ ':' :: rest) = .some (scheme.map Char.toLower, rest) := by
  refine splitScheme_append ?_ (fun x there => ?_) rest
  · obtain ⟨c, more, rfl⟩ := List.exists_cons_of_ne_nil some
    exact letters c List.mem_cons_self
  · simp [isSchemeChar, Char.isAlphanum, letters x there]

/-! ### Blanks and line breaks -/

/-- Neither a blank nor a control. -/
def isInk (c : Char) : Bool := !Text.isBlank c && decide (0x20 < c.toNat) && !Path.isBreak c

theorem isInk_iff : isInk c = true ↔
    Text.isBlank c = false ∧ 0x20 < c.toNat ∧ Path.isBreak c = false := by
  simp [isInk, and_assoc]

/-- A text that no trimming and no taking out of line breaks touches, whatever follows it. -/
structure Firm (front : List Char) : Prop where
  opens : ∃ c rest, front = c :: rest ∧ isInk c = true
  closes : ∃ rest c, front = rest ++ [c] ∧ isInk c = true
  solid : ∀ x ∈ front, Path.isBreak x = false

theorem trimBy_append {drop : Char → Bool} (spares : ∀ c, isInk c = true → drop c = false)
    (firm : Firm front) (back : List Char) :
    Text.trimBy drop (front ++ back) = front ++ back.rdropWhile drop := by
  obtain ⟨c, rest, opens, ink⟩ := firm.opens
  obtain ⟨rest', c', closes, ink'⟩ := firm.closes
  have start : (front ++ back).dropWhile drop = front ++ back := by
    rw [opens, List.cons_append, List.dropWhile_cons_of_neg (by simp [spares c ink])]
  have finish : front.reverse.dropWhile drop = front.reverse := by
    rw [closes, List.reverse_append, List.reverse_singleton, List.singleton_append,
      List.dropWhile_cons_of_neg (by simp [spares c' ink'])]
  rw [Text.trimBy, start, List.reverse_append, List.dropWhile_append, finish, List.rdropWhile]
  split
  · next empty => rw [List.isEmpty_iff.mp empty]; simp
  · simp

/-- What is read of a text that follows a firm one. -/
def readPart (back : List Char) : List Char :=
  Path.solid ((back.rdropWhile Text.isBlank).rdropWhile fun c => c.toNat ≤ 0x20)

theorem trim_append (firm : Firm front) (back : List Char) :
    Text.trim (front ++ back) = front ++ back.rdropWhile Text.isBlank :=
  trimBy_append (fun _ ink => (isInk_iff.mp ink).1) firm back

theorem trimmed_append (firm : Firm front) (back : List Char) :
    trimmed (front ++ back) = front ++ back.rdropWhile (fun c => c.toNat ≤ 0x20) := by
  refine trimBy_append (fun c ink => decide_eq_false ?_) firm back
  exact Nat.not_le.mpr (isInk_iff.mp ink).2.1

theorem solid_append (firm : Firm front) (back : List Char) :
    Path.solid (trimmed (Text.trim (front ++ back))) = front ++ readPart back := by
  have still : Path.solid front = front :=
    List.filter_eq_self.mpr fun x there => by rw [firm.solid x there]; rfl
  rw [trim_append firm, trimmed_append firm, Path.solid, List.filter_append]
  exact congrArg (· ++ _) still

theorem readPart_prefix (back : List Char) : readPart back <+: Path.solid back :=
  ((List.rdropWhile_prefix _ _).trans (List.rdropWhile_prefix _ _)).filter _

theorem bounds_of_isAlpha (letter : c.isAlpha = true) : 65 ≤ c.toNat ∧ c.toNat ≤ 122 := by
  rcases Bool.or_eq_true_iff.mp letter with upper | lower
  · have ⟨low, high⟩ : 'A'.val ≤ c.val ∧ c.val ≤ 'Z'.val := of_decide_eq_true upper
    exact ⟨UInt32.le_iff_toNat_le.mp low,
      Nat.le_trans (UInt32.le_iff_toNat_le.mp high) (by decide)⟩
  · obtain ⟨low, high⟩ := Bool.and_eq_true_iff.mp lower
    exact ⟨Nat.le_trans (by decide) (UInt32.le_iff_toNat_le.mp (of_decide_eq_true low)),
      UInt32.le_iff_toNat_le.mp (of_decide_eq_true high)⟩

theorem isInk_of_isAlpha (letter : c.isAlpha = true) : isInk c = true := by
  have bounds := bounds_of_isAlpha letter
  have apart (x : Char) (small : x.toNat < 65) : c ≠ x := by
    rintro rfl
    omega
  refine isInk_iff.mpr ⟨?_, by omega, ?_⟩
  · simp only [Text.isBlank, Bool.or_eq_false_iff, Bool.and_eq_false_iff, decide_eq_false_iff_not]
    omega
  · simp [Path.isBreak, apart]

/-! ### Whole URLs -/

/-- What may follow a userinfo: up to its path there is no further at sign, and no slash stands
before the host.  Line breaks do not count. -/
structure FollowsUserinfo (place : List Char) : Prop where
  last : '@' ∉ (Path.solid place).takeWhile (!endsAuthority ·)
  host : ∀ c, (Path.solid place).head? = some c → isSlash .web c = false

theorem FollowsUserinfo.readPart (follows : FollowsUserinfo place) :
    '@' ∉ (readPart place).takeWhile (!endsAuthority ·) ∧
      (readPart place).dropWhile (isSlash .web) = readPart place := by
  obtain ⟨rest, whole⟩ := readPart_prefix place
  constructor
  · intro there
    refine follows.last ?_
    rw [← whole, List.takeWhile_append]
    split
    · exact List.mem_append_left _ ((List.takeWhile_prefix _).subset there)
    · exact there
  · cases read : Url.readPart place with
    | nil => rfl
    | cons c more =>
      rw [read] at whole
      have host := follows.host c (by rw [← whole]; rfl)
      rw [List.dropWhile_cons_of_neg (by simp [host])]

variable {before : List Char}

theorem firm_web (some : scheme ≠ []) (letters : ∀ x ∈ scheme, x.isAlpha = true)
    (closes : ∃ rest c, '/' :: before = rest ++ [c] ∧ isInk c = true)
    (solid : ∀ x ∈ before, Path.isBreak x = false) :
    Firm (scheme ++ ':' :: '/' :: '/' :: before) where
  opens := by
    obtain ⟨c, more, rfl⟩ := List.exists_cons_of_ne_nil some
    exact ⟨c, _, rfl, isInk_of_isAlpha (letters c List.mem_cons_self)⟩
  closes := by
    obtain ⟨rest, c, last, ink⟩ := closes
    exact ⟨scheme ++ ':' :: '/' :: rest, c, by rw [last]; simp, ink⟩
  solid := by
    intro x there
    simp only [List.mem_append, List.mem_cons] at there
    rcases there with letter | rfl | rfl | rfl | inside
    · exact (isInk_iff.mp (isInk_of_isAlpha (letters x letter))).2.2
    · rfl
    · rfl
    · rfl
    · exact solid x inside

theorem firm_scheme (some : scheme ≠ []) (letters : ∀ x ∈ scheme, x.isAlpha = true) :
    Firm (scheme ++ [':', '/', '/']) :=
  firm_web some letters ⟨[], '/', rfl, by decide⟩ nofun

theorem trim_web (web : schemeClass (scheme.map Char.toLower) = .web) (rest : List Char) :
    Text.trim (scheme ++ ':' :: '/' :: '/' :: rest) ≠ [] := by
  obtain ⟨some, letters⟩ := isAlpha_of_web web
  have trim := trim_append (firm_scheme some letters) rest
  rw [List.append_assoc] at trim
  rw [show ':' :: '/' :: '/' :: rest = [':', '/', '/'] ++ rest from rfl, trim]
  simp

theorem parseChars_web (web : schemeClass (scheme.map Char.toLower) = .web)
    (firm : Firm (scheme ++ ':' :: '/' :: '/' :: before)) (place : List Char) :
    parseChars (Text.trim ((scheme ++ ':' :: '/' :: '/' :: before) ++ place)) =
      withAuthority (scheme.map Char.toLower)
        ((before ++ readPart place).dropWhile (isSlash .web)) := by
  obtain ⟨some, letters⟩ := isAlpha_of_web web
  rw [parseChars, solid_append firm, List.append_assoc, List.cons_append,
    splitScheme_letters some letters]
  simp only [web]
  rfl

theorem parseChars_base (web : schemeClass (scheme.map Char.toLower) = .web)
    (follows : FollowsUserinfo place) :
    parseChars (Text.trim (scheme ++ ':' :: '/' :: '/' :: place)) =
      withAuthority (scheme.map Char.toLower) (readPart place) := by
  obtain ⟨some, letters⟩ := isAlpha_of_web web
  have read := parseChars_web web (firm_scheme some letters) place
  rwa [List.append_assoc, List.nil_append, follows.readPart.2] at read

theorem userinfo_of_parseChars (web : schemeClass (scheme.map Char.toLower) = .web)
    (follows : FollowsUserinfo place) {url : Url}
    (read : parseChars (Text.trim (scheme ++ ':' :: '/' :: '/' :: place)) = .ok url) :
    url.username = [] ∧ url.password = [] := by
  rw [parseChars_base web follows] at read
  exact userinfo_of_withAuthority web follows.readPart.1 read

/-- A web URL with a user name and a password is read as it is without them, but for these. -/
theorem parseChars_userinfo (web : schemeClass (scheme.map Char.toLower) = .web)
    (follows : FollowsUserinfo place) (username : List Char) (password : Option (List Char)) :
    parseChars (Text.trim (scheme ++ ':' :: '/' :: '/' ::
        (userinfo username password ++ '@' :: place))) =
      (parseChars (Text.trim (scheme ++ ':' :: '/' :: '/' :: place))).map
        (withUserinfo username password) := by
  obtain ⟨some, letters⟩ := isAlpha_of_web web
  have breaks : ∀ x ∈ userinfo username password ++ ['@'], Path.isBreak x = false := by
    intro x there
    refine Bool.eq_false_iff.mpr fun breaks => not_mem_userinfo username password x ?_ there
    refine List.mem_append_right ['/', '\\', '?', '#'] ?_
    simpa [Path.isBreak, or_assoc] using breaks
  have firm : Firm (scheme ++ ':' :: '/' :: '/' :: (userinfo username password ++ ['@'])) :=
    firm_web some letters ⟨'/' :: userinfo username password, '@', rfl, by decide⟩ breaks
  -- the slashes that are passed over end with the userinfo, or with the at sign if that is empty
  have slash : ((userinfo username password ++ ['@']) ++ readPart place).dropWhile
      (isSlash .web) = userinfo username password ++ '@' :: readPart place := by
    cases front : userinfo username password with
    | nil => rfl
    | cons x more =>
      have inside : x ∈ userinfo username password ++ ['@'] := by simp [front]
      have ends := userinfo_within username password x inside
      rw [endsAuthority, Bool.or_eq_false_iff] at ends
      simp [ends.1]
  have read := parseChars_web web firm place
  rw [slash, withAuthority_userinfo web follows.readPart.1, ← parseChars_base web follows] at read
  rw [← read]
  simp

end NodeCall.Url
