import NodeCall.Proofs.Url.Userinfo

/-!
# The parts of a URL that has been read

Whatever a URL is read from, each of its parts is made of characters that may stand there: escapes
have taken the place of the others, or the text was refused.  So no part holds what would end it
if the URL were written down and read again.
-/

namespace NodeCall.Url

open Text.Percent (isEscape)

variable {scheme s : List Char} {c : Char} {host : Host}

/-! ### Encoded texts -/

theorem shown_of_mem_encode {escaped : Text.Percent.Class}
    (escapes : ∀ x, isEscape x = true → escaped x = false)
    (there : c ∈ Text.Percent.encode escaped s) : escaped c = false := by
  rcases Text.Percent.mem_encode there with part | ⟨-, shown⟩
  · exact escapes c part
  · exact shown

theorem shown_of_isEscape {escaped : Text.Percent.Class}
    (all : "%0123456789ABCDEF".toList.all (!escaped ·) = true) :
    ∀ x, isEscape x = true → escaped x = false := fun x part =>
  Bool.not_eq_true' _ ▸ List.all_eq_true.mp all x (List.contains_iff_mem.mp part)

theorem userinfo_of_mem_encode (there : c ∈ Text.Percent.encode Text.Percent.userinfo s) :
    Text.Percent.userinfo c = false :=
  shown_of_mem_encode (shown_of_isEscape (by decide)) there

theorem path_of_mem_escaped (there : c ∈ Path.escaped s) : Text.Percent.path c = false :=
  shown_of_mem_encode (shown_of_isEscape (by decide)) there

theorem fragment_of_mem_encode (there : c ∈ Text.Percent.encode Text.Percent.fragment s) :
    Text.Percent.fragment c = false :=
  shown_of_mem_encode (shown_of_isEscape (by decide)) there

theorem le_of_controls (shown : Text.Percent.controls c = false) : 0x20 ≤ c.toNat := by
  simp only [Text.Percent.controls, Bool.or_eq_false_iff, decide_eq_false_iff_not] at shown
  omega

/-- A character that is no control, and no space, is above the space. -/
theorem lt_of_controls (shown : Text.Percent.controls c = false) (space : c ≠ ' ') :
    0x20 < c.toNat := by
  refine Nat.lt_of_le_of_ne (le_of_controls shown) fun same => space ?_
  rw [← Char.ofNat_toNat c, ← same]

theorem controls_of_with {base : Text.Percent.Class} {more : List Char}
    (shown : base.with more c = false) : base c = false ∧ c ∉ more := by
  rw [Text.Percent.Class.with, Bool.or_eq_false_iff] at shown
  exact ⟨shown.1, fun there => Bool.false_ne_true (shown.2.symm.trans (by simpa using there))⟩

/-! ### Hosts -/

/-- A character of a host: above the space, and none that parts the host from what is around it. -/
def isHostChar (c : Char) : Bool :=
  decide (0x20 < c.toNat) && !(['@', '/', '\\', '?', '#'].contains c)

theorem isHostChar_iff :
    isHostChar c = true ↔ 0x20 < c.toNat ∧ c ∉ ['@', '/', '\\', '?', '#'] := by
  simp [isHostChar]

theorem isHostChar_of_mem_toDigits {base n : Nat} (large : 1 < base) (small : base ≤ 16)
    (there : c ∈ Nat.toDigits base n) : isHostChar c = true := by
  have digits : ∀ n < 16, isHostChar (Nat.digitChar n) = true := by decide
  induction n using Nat.strongRecOn with
  | ind n ih =>
    rw [Nat.toDigits_eq_if large] at there
    split at there
    · rw [List.mem_singleton.mp there]
      exact digits n (by omega)
    · rcases List.mem_append.mp there with front | last
      · exact ih (n / base) (Nat.div_lt_self (by omega) large) front
      · rw [List.mem_singleton.mp last]
        exact digits _ (Nat.lt_of_lt_of_le (Nat.mod_lt _ (by omega)) small)

theorem isHostChar_of_ipv4 {address : Nat} (there : c ∈ Address.ipv4Text address) :
    isHostChar c = true := by
  simp only [Address.ipv4Text, List.mem_append, List.mem_cons] at there
  have digit {n : Nat} (there : c ∈ Nat.toDigits 10 n) : isHostChar c = true :=
    isHostChar_of_mem_toDigits (by decide) (by decide) there
  rcases there with ((there | rfl | there) | rfl | there) | rfl | there
  all_goals first | exact digit there | rfl

theorem isHostChar_of_joinPieces {pieces : List Nat} (there : c ∈ Address.joinPieces pieces) :
    isHostChar c = true := by
  obtain ⟨part, among, inside⟩ := List.mem_flatten.mp there
  have parts : part = [':'] ∨ part ∈ pieces.map Text.hex := by
    clear there inside
    generalize pieces.map Text.hex = parts at among
    induction parts using List.twoStepInduction with
    | nil => cases among
    | singleton x => exact .inr among
    | cons_cons x y rest _ ih =>
      rcases List.mem_cons.mp among with rfl | among
      · exact .inr List.mem_cons_self
      rcases List.mem_cons.mp among with rfl | among
      · exact .inl rfl
      · exact (ih y among).imp_right (List.mem_cons_of_mem _)
  rcases parts with rfl | number
  · rw [List.mem_singleton.mp inside]
    rfl
  · obtain ⟨n, -, rfl⟩ := List.mem_map.mp number
    exact isHostChar_of_mem_toDigits (by decide) (by decide) inside

theorem isHostChar_of_ipv6 {pieces : List Nat} (there : c ∈ (Host.ipv6 pieces).text) :
    isHostChar c = true := by
  simp only [Host.text, List.mem_cons, List.mem_append, List.not_mem_nil, or_false,
    Address.ipv6Text] at there
  rcases there with rfl | there | rfl
  · rfl
  · split at there
    · simp only [List.mem_append, List.mem_cons] at there
      rcases there with there | rfl | rfl | there
      all_goals first | exact isHostChar_of_joinPieces there | rfl
    · exact isHostChar_of_joinPieces there
  · rfl

theorem isHostChar_of_toAscii {name : List Char} (read : Domain.toAscii? s = some name)
    (there : c ∈ name) : isHostChar c = true := by
  unfold Domain.toAscii? at read
  obtain ⟨labels, -, read⟩ := Option.bind_eq_some_iff.mp read
  split at read
  · cases read
  dsimp only at read
  split at read
  · cases read
  · next none =>
    obtain rfl := Option.some.inj read
    have allowed : Domain.isForbidden c = false := by
      simpa using fun forbidden => none (List.any_eq_true.mpr ⟨c, there, forbidden⟩)
    simp only [Domain.isForbidden, Bool.or_eq_false_iff, decide_eq_false_iff_not] at allowed
    refine isHostChar_iff.mpr ⟨Nat.not_le.mp allowed.1.1, fun apart => ?_⟩
    refine Bool.false_ne_true (allowed.2.symm.trans (List.contains_iff_mem.mpr ?_))
    simp only [List.mem_cons, List.not_mem_nil, or_false] at apart ⊢
    tauto

theorem bracketed_eq_ok (read : bracketed? s = some (.ok host)) :
    ∃ pieces, host = .ipv6 pieces := by
  unfold bracketed? at read
  split at read
  · have read := Option.some.inj read
    split at read
    · split at read
      · exact ⟨_, (Except.ok.inj read).symm⟩
      · cases read
    · cases read
  · cases read

theorem isHostChar_of_domainHost (read : domainHost s = .ok host) (there : c ∈ host.text) :
    isHostChar c = true := by
  unfold domainHost at read
  split at read
  · next bracketed =>
    rw [read] at bracketed
    obtain ⟨pieces, rfl⟩ := bracketed_eq_ok bracketed
    exact isHostChar_of_ipv6 there
  split at read
  · cases read
  · cases read
  · next name _ ascii =>
    split at read
    · split at read
      · obtain rfl := Except.ok.inj read
        exact isHostChar_of_ipv4 there
      · cases read
    · obtain rfl := Except.ok.inj read
      exact isHostChar_of_toAscii ascii there

theorem isHostChar_of_plainHost (read : plainHost s = .ok host) (there : c ∈ host.text) :
    isHostChar c = true := by
  unfold plainHost at read
  split at read
  · next bracketed =>
    rw [read] at bracketed
    obtain ⟨pieces, rfl⟩ := bracketed_eq_ok bracketed
    exact isHostChar_of_ipv6 there
  split at read
  · cases read
  · next none =>
    obtain rfl := Except.ok.inj read
    rcases Text.Percent.mem_encode there with part | ⟨inside, shown⟩
    · have all : "%0123456789ABCDEF".toList.all isHostChar = true := by decide
      exact List.all_eq_true.mp all c (List.contains_iff_mem.mp part)
    · have allowed : isForbiddenHostChar c = false := by
        simpa using fun forbidden => none (List.any_eq_true.mpr ⟨c, inside, forbidden⟩)
      have apart (x : Char) (forbidden : isForbiddenHostChar x = true) : c ≠ x := by
        rintro rfl
        exact Bool.false_ne_true (allowed.symm.trans forbidden)
      refine isHostChar_iff.mpr ⟨lt_of_controls shown (apart ' ' rfl), ?_⟩
      simp only [List.mem_cons, List.not_mem_nil, or_false, not_or]
      exact ⟨apart _ rfl, apart _ rfl, apart _ rfl, apart _ rfl, apart _ rfl⟩

theorem isHostChar_of_portText {port : Option Nat} (there : c ∈ portText port) :
    isHostChar c = true := by
  cases port with
  | none => cases there
  | some n =>
    rcases List.mem_cons.mp there with rfl | digit
    · rfl
    · exact isHostChar_of_mem_toDigits (by decide) (by decide) digit

/-! ### What stands before the path -/

/-- The host and the port in what follows the userinfo, and what is left over; `bare` tells that
the userinfo is empty. -/
def placeOf (scheme s : List Char) (bare : Bool) :
    Except ParseError (Host × Option Nat × List Char) := do
  let (hostText, after) := splitHost false s
  let web := schemeClass scheme = .web
  if web && hostText.isEmpty then throw .emptyHost
  let host ← if web then domainHost hostText else plainHost hostText
  if hostText.isEmpty && after.head? = some ':' then throw .emptyHost
  let (port, left) ← portOf scheme after
  if hostText.isEmpty && !bare then throw .emptyHost
  return (host, port, left)

def isBare (userinfo : List Char) : Bool :=
  (credentialsOf userinfo).1.isEmpty && (credentialsOf userinfo).2.isEmpty

theorem authorityOf_eq (scheme s : List Char) (more : Bool) :
    authorityOf scheme s more =
      let parts := (splitUserinfo s).getD ([], s)
      if s.head? = some '@' && parts.1.isEmpty && parts.2.isEmpty && more then .error .emptyHost
      else (placeOf scheme parts.2 (isBare parts.1)).map fun found =>
        (⟨(credentialsOf parts.1).1, (credentialsOf parts.1).2, found.1, found.2.1⟩,
          found.2.2) := by
  unfold authorityOf placeOf isBare
  generalize (splitUserinfo s).getD ([], s) = parts
  obtain ⟨userinfo, rest⟩ := parts
  dsimp only
  generalize splitHost false rest = split
  obtain ⟨hostText, after⟩ := split
  dsimp only
  split
  · rfl
  split
  · rfl
  split
  · cases domainHost hostText with
    | error e => rfl
    | ok host =>
      cases portOf scheme after <;> simp only [bind, Except.bind] <;> (repeat' split) <;> rfl
  · cases plainHost hostText with
    | error e => rfl
    | ok host =>
      cases portOf scheme after <;> simp only [bind, Except.bind] <;> (repeat' split) <;> rfl

theorem isHostChar_of_placeOf {bare : Bool} {found : Host × Option Nat × List Char}
    (read : placeOf scheme s bare = .ok found) (there : c ∈ found.1.text) :
    isHostChar c = true := by
  unfold placeOf at read
  dsimp only at read
  split at read
  · cases read
  split at read
  all_goals
    obtain ⟨host, isHost, read⟩ := bind_eq_ok.mp read
    split at read
    · cases read
    obtain ⟨port, -, read⟩ := bind_eq_ok.mp read
    split at read
    · cases read
    obtain rfl := Except.ok.inj read
  · exact isHostChar_of_domainHost isHost there
  · exact isHostChar_of_plainHost isHost there

/-- The parts of an authority hold no character that would end them. -/
structure Authority.Clean (authority : Authority) : Prop where
  username : ∀ c ∈ authority.username, Text.Percent.userinfo c = false
  password : ∀ c ∈ authority.password, Text.Percent.userinfo c = false
  host : ∀ c ∈ authority.host.text, isHostChar c = true

theorem clean_of_authorityOf {more : Bool} {found : Authority × List Char}
    (read : authorityOf scheme s more = .ok found) : found.1.Clean := by
  rw [authorityOf_eq] at read
  dsimp only at read
  split at read
  · cases read
  · obtain ⟨place, located, rfl⟩ := map_eq_ok.mp read
    exact ⟨fun _ => userinfo_of_mem_encode, fun _ => userinfo_of_mem_encode,
      fun _ => isHostChar_of_placeOf located⟩

/-! ### Paths -/

namespace Path

variable {done others : List (List Char)} {segment : List Char}

/-- No segment holds a character that is escaped in paths. -/
def Shown (segments : List (List Char)) : Prop :=
  ∀ segment ∈ segments, ∀ c ∈ segment, Text.Percent.path c = false

theorem shown_nil : Shown [] := nofun

theorem Shown.append (first : Shown done) (second : Shown others) : Shown (done ++ others) :=
  fun _ there => (List.mem_append.mp there).elim (first _) (second _)

theorem shown_singleton (plain : ∀ c ∈ segment, Text.Percent.path c = false) :
    Shown [segment] := fun _ there => List.mem_singleton.mp there ▸ plain

theorem Shown.leave (shown : Shown done) : Shown (leave done) := by
  unfold Path.leave
  split
  · split
    · exact shown
    · exact fun segment there => shown segment (List.dropLast_subset _ there)
  · exact shown

theorem Shown.follow (shown : Shown done) (plain : ∀ c ∈ segment, Text.Percent.path c = false)
    (atEnd : Bool) : Shown (follow done segment atEnd) := by
  have ending : Shown (if atEnd then [[]] else []) := by
    cases atEnd
    · exact shown_nil
    · exact shown_singleton nofun
  unfold Path.follow
  dsimp only
  split
  · exact shown.leave.append ending
  split
  · exact shown.append ending
  · exact shown.append (shown_singleton plain)

theorem Shown.resolve (shown : Shown done) (more : Shown others) : Shown (resolve done others) := by
  induction others generalizing done with
  | nil => exact shown
  | cons segment rest ih =>
    obtain ⟨first, rest'⟩ := List.forall_mem_cons.mp more
    exact ih (shown.follow first rest.isEmpty) rest'

theorem shown_segments (separates : Char → Bool) (s : List Char) :
    Shown (segments separates s) := by
  refine shown_nil.resolve fun segment there => ?_
  obtain ⟨part, -, rfl⟩ := List.mem_map.mp there
  exact fun _ => path_of_mem_escaped

theorem path_of_isAlpha (letter : c.isAlpha = true) : Text.Percent.path c = false := by
  have all : ∀ n < 123, Text.Percent.path (Char.ofNat n) = false ∨
      (Char.ofNat n).isAlpha = false := by decide
  have := bounds_of_isAlpha letter
  rcases all c.toNat (by omega) with plain | other
  · rwa [Char.ofNat_toNat] at plain
  · rw [Char.ofNat_toNat, letter] at other
    cases other

theorem shown_drive {letter : Char} (plain : Text.Percent.path letter = false) :
    ∀ c ∈ [letter, ':'], Text.Percent.path c = false := by
  simp only [List.forall_mem_cons]
  exact ⟨plain, rfl, nofun⟩

theorem shown_tornDrive {segment drive more : List Char}
    (torn : tornDrive? segment = some (drive, more)) :
    ∀ c ∈ drive, Text.Percent.path c = false := by
  unfold tornDrive? at torn
  split at torn
  · split at torn
    · split at torn
      · next tears =>
        obtain ⟨rfl, -⟩ := Prod.mk.inj (Option.some.inj torn)
        simp only [Bool.and_eq_true] at tears
        exact shown_drive (path_of_isAlpha tears.1.1)
      · cases torn
    · cases torn
  · cases torn

theorem shown_enter {path : FilePath} (shown : Shown path.segments) (segment : List Char)
    (atEnd : Bool) : Shown (path.enter segment atEnd).segments := by
  have plain {part : List Char} (same : escaped (solid segment) = part) :
      ∀ c ∈ part, Text.Percent.path c = false := by
    rintro c there
    rw [← same] at there
    exact path_of_mem_escaped there
  unfold FilePath.enter
  split
  · next torn =>
    refine List.forall_mem_cons.mpr ⟨shown_tornDrive torn, ?_⟩
    exact shown_singleton fun _ => path_of_mem_escaped
  · next same =>
    split
    · exact shown_singleton (shown_drive (plain same _ List.mem_cons_self))
    · exact shown_nil.follow (plain same) atEnd
  · exact shown.follow (plain rfl) atEnd

theorem shown_enterAll {path : FilePath} (shown : Shown path.segments)
    (segments : List (List Char)) : Shown (path.enterAll segments).segments := by
  induction segments generalizing path with
  | nil => exact shown
  | cons segment rest ih => exact ih (shown_enter shown segment rest.isEmpty)

theorem shown_ofFile (separates : Char → Bool) (s : List Char) :
    Shown (ofFile separates s).segments := by
  have all : Shown (FilePath.enterAll ⟨[], false⟩ (splitBy separates s)).segments :=
    shown_enterAll shown_nil _
  have fewer (segments : List (List Char)) : withoutEmptyStart segments ⊆ segments := by
    induction segments with
    | nil => exact List.Subset.refl _
    | cons segment rest ih =>
      unfold withoutEmptyStart
      split
      · next same =>
        obtain ⟨-, rfl⟩ := List.cons.inj same
        exact List.Subset.trans ih (List.subset_cons_self _ _)
      · exact List.Subset.refl _
  exact fun segment there => all segment (fewer _ there)

theorem path_of_mem_text {segments : List (List Char)} (shown : Shown segments)
    (there : c ∈ (rooted segments).text) : Text.Percent.path c = false := by
  obtain ⟨segment, among, inside⟩ := List.mem_flatMap.mp there
  rcases List.mem_cons.mp inside with rfl | inside
  · rfl
  · exact shown segment among c inside

end Path

/-! ### Whole URLs -/

theorem endsPath_of_path (shown : Text.Percent.path c = false) : endsPath c = false := by
  refine Bool.eq_false_iff.mpr fun ends => ?_
  rcases Bool.or_eq_true_iff.mp ends with same | same
  all_goals
    rw [of_decide_eq_true same] at shown
    cases shown

theorem query_of_suffixOf {cls : SchemeClass} {query : List Char}
    (some : (suffixOf cls s).1 = .some query) : ∀ c ∈ query, Text.Percent.query c = false := by
  intro c there
  unfold suffixOf at some
  dsimp only at some
  have encoded : ∃ text, query =
      Text.Percent.encode (if cls = .other then Text.Percent.query
        else Text.Percent.specialQuery) text := by
    split at some
    · split at some <;> exact ⟨_, (Option.some.inj some).symm⟩
    · cases some
    · cases some
  obtain ⟨text, rfl⟩ := encoded
  split at there
  · exact shown_of_mem_encode (shown_of_isEscape (by decide)) there
  · exact (controls_of_with (shown_of_mem_encode (shown_of_isEscape (by decide)) there)).1

theorem fragment_of_suffixOf {cls : SchemeClass} {fragment : List Char}
    (some : (suffixOf cls s).2 = .some fragment) :
    ∀ c ∈ fragment, Text.Percent.fragment c = false := by
  unfold suffixOf at some
  dsimp only at some
  split at some
  · split at some
    · obtain rfl := Option.some.inj some
      exact fun _ => fragment_of_mem_encode
    · cases some
  · obtain rfl := Option.some.inj some
    exact fun _ => fragment_of_mem_encode
  · cases some

/-- A scheme as it stands in a URL that has been read. -/
structure IsScheme (scheme : List Char) : Prop where
  letter : scheme.head?.any Char.isAlpha = true
  chars : ∀ c ∈ scheme, isSchemeChar c = true
  lower : scheme.map Char.toLower = scheme

/-- What is known of the parts of a URL that has been read. -/
structure Clean (url : Url) : Prop where
  scheme : IsScheme url.scheme
  username : ∀ c ∈ url.username, Text.Percent.userinfo c = false
  password : ∀ c ∈ url.password, Text.Percent.userinfo c = false
  host : ∀ host, url.host = some host → ∀ c ∈ host.text, isHostChar c = true
  path : ∀ c ∈ url.path.text, endsPath c = false
  rooted : url.password ≠ [] → ∃ host segments,
    url.host = some host ∧ url.path = .rooted segments ∧ Path.Shown segments
  query : ∀ query, url.query = some query → ∀ c ∈ query, Text.Percent.query c = false
  fragment : ∀ fragment, url.fragment = some fragment →
    ∀ c ∈ fragment, Text.Percent.fragment c = false

theorem toNat_of_isSchemeChar (chars : isSchemeChar c = true) : c.toNat < 123 := by
  simp only [isSchemeChar, Char.isAlphanum, Bool.or_eq_true, decide_eq_true_eq] at chars
  rcases chars with (((letter | digit) | rfl) | rfl) | rfl
  · have := bounds_of_isAlpha letter
    omega
  · exact Nat.lt_of_le_of_lt (Char.isDigit_iff_toNat.mp digit).2 (by decide)
  all_goals decide

theorem isScheme_of_splitScheme {rest : List Char} (read : splitScheme s = some (scheme, rest)) :
    IsScheme scheme := by
  have all : ∀ n < 123, isSchemeChar (Char.ofNat n) = true →
      isSchemeChar (Char.ofNat n).toLower = true ∧
      (Char.ofNat n).toLower.toLower = (Char.ofNat n).toLower ∧
      ((Char.ofNat n).isAlpha = true → (Char.ofNat n).toLower.isAlpha = true) := by decide
  have each (c : Char) (chars : isSchemeChar c = true) := by
    have := all c.toNat (toNat_of_isSchemeChar chars)
    rw [Char.ofNat_toNat] at this
    exact this chars
  unfold splitScheme at read
  dsimp only at read
  split at read
  · split at read
    · next letter =>
      obtain ⟨rfl, -⟩ := Prod.mk.inj (Option.some.inj read)
      have chars : ∀ c ∈ s.takeWhile isSchemeChar, isSchemeChar c = true :=
        fun _ there => List.mem_takeWhile_imp there
      change (s.takeWhile isSchemeChar).head?.any Char.isAlpha = true at letter
      show IsScheme ((s.takeWhile isSchemeChar).map Char.toLower)
      generalize s.takeWhile isSchemeChar = name at chars letter
      refine ⟨?_, ?_, ?_⟩
      · cases name with
        | nil => exact letter
        | cons c rest => exact (each c (chars c List.mem_cons_self)).2.2 letter
      · intro c there
        obtain ⟨x, inside, rfl⟩ := List.mem_map.mp there
        exact (each x (chars x inside)).1
      · rw [List.map_map]
        exact List.map_congr_left fun x inside => (each x (chars x inside)).2.1
    · cases read
  · cases read

/-- Where the authority of a URL ends. -/
def endsIn (cls : SchemeClass) (c : Char) : Bool := isSlash cls c || endsPath c

/-- The URL with an authority that has been found at the front of a text. -/
def urlWith (scheme s : List Char) (found : Authority × List Char) : Url :=
  let cls := schemeClass scheme
  let rest := found.2 ++ s.dropWhile (!endsIn cls ·)
  let pathText := rest.takeWhile (!endsPath ·)
  let suffix := suffixOf cls (rest.dropWhile (!endsPath ·))
  let segments :=
    if cls = .other && pathText.isEmpty then [] else Path.segments (isSlash cls) pathText
  ⟨scheme, found.1.username, found.1.password, some found.1.host, found.1.port, .rooted segments,
    suffix.1, suffix.2⟩

theorem withAuthority_eq (scheme s : List Char) : withAuthority scheme s =
    (authorityOf scheme (s.takeWhile (!endsIn (schemeClass scheme) ·))
      (s.any (endsIn (schemeClass scheme)))).map (urlWith scheme s) := by
  show (authorityOf scheme (s.takeWhile (!endsIn (schemeClass scheme) ·))
    (s.any (endsIn (schemeClass scheme))) >>= _) = _
  cases authorityOf scheme (s.takeWhile (!endsIn (schemeClass scheme) ·))
    (s.any (endsIn (schemeClass scheme))) <;> rfl

variable {url : Url}

theorem clean_of_withAuthority (isScheme : IsScheme scheme)
    (read : withAuthority scheme s = .ok url) : url.Clean := by
  rw [withAuthority_eq] at read
  obtain ⟨found, inside, rfl⟩ := map_eq_ok.mp read
  have clean := clean_of_authorityOf inside
  obtain ⟨segments, path, shown⟩ : ∃ segments,
      (urlWith scheme s found).path = .rooted segments ∧ Path.Shown segments := by
    refine ⟨_, rfl, ?_⟩
    split
    · exact Path.shown_nil
    · exact Path.shown_segments _ _
  refine ⟨isScheme, clean.username, clean.password, ?_, fun c there => ?_,
    fun _ => ⟨_, segments, rfl, path, shown⟩, fun _ => query_of_suffixOf,
    fun _ => fragment_of_suffixOf⟩
  · rintro _ ⟨⟩
    exact clean.host
  · rw [path] at there
    exact endsPath_of_path (Path.path_of_mem_text shown there)

theorem clean_of_plain {path : Path} {host : Option Host} {cls : SchemeClass}
    (isScheme : IsScheme scheme)
    (hostChars : ∀ h, host = some h → ∀ c ∈ h.text, isHostChar c = true)
    (pathChars : ∀ c ∈ path.text, endsPath c = false) (s : List Char) :
    Clean (plain scheme host path (suffixOf cls s)) :=
  ⟨isScheme, nofun, nofun, hostChars, pathChars, fun some => absurd rfl some,
    fun _ => query_of_suffixOf, fun _ => fragment_of_suffixOf⟩

theorem isHostChar_of_splitFile {found : Option Host × List Char} (read : splitFile s = .ok found)
    (some : found.1 = .some host) : ∀ c ∈ host.text, isHostChar c = true := by
  unfold splitFile at read
  split at read
  · obtain rfl := Except.ok.inj read
    cases some
  split at read
  · obtain rfl := Except.ok.inj read
    cases some
  dsimp only at read
  split at read
  · obtain rfl := Except.ok.inj read
    cases some
  obtain ⟨named, isHost, read⟩ := bind_eq_ok.mp read
  split at read
  · obtain rfl := Except.ok.inj read
    cases some
  · obtain rfl := Except.ok.inj read
    obtain rfl := Option.some.inj some
    unfold fileHost at isHost
    split at isHost
    · cases isHost
    · obtain ⟨other, isDomain, eq⟩ := bind_eq_ok.mp isHost
      split at eq
      · cases eq
      · obtain rfl := Option.some.inj (Except.ok.inj eq)
        exact fun _ => isHostChar_of_domainHost isDomain

theorem clean_of_fileUrl (isScheme : IsScheme scheme) (read : fileUrl scheme s = .ok url) :
    url.Clean := by
  obtain ⟨⟨host, rest⟩, split, read⟩ := bind_eq_ok.mp read
  obtain rfl := Except.ok.inj read
  refine clean_of_plain isScheme ?_ (fun c there => ?_) _
  · rintro h ⟨⟩
    split
    · exact nofun
    · cases host with
      | none => exact nofun
      | some host => exact isHostChar_of_splitFile split rfl
  · exact endsPath_of_path (Path.path_of_mem_text (Path.shown_ofFile _ _) there)

theorem clean_of_otherUrl (isScheme : IsScheme scheme) (read : otherUrl scheme s = .ok url) :
    url.Clean := by
  unfold otherUrl at read
  split at read
  · exact clean_of_withAuthority isScheme read
  · obtain rfl := Except.ok.inj read
    refine clean_of_plain isScheme ?_ (fun c there => ?_) _
    · exact nofun
    split at there
    · exact endsPath_of_path (Path.path_of_mem_text (Path.shown_segments _ _) there)
    · rcases Text.Percent.mem_encode there with part | ⟨inside, -⟩
      · exact shown_of_isEscape (by decide) c part
      · simpa using List.mem_takeWhile_imp inside

/-- The parts of a URL that has been read hold no character that would end them. -/
theorem clean_of_parse (read : parseChars s = .ok url) : url.Clean := by
  unfold parseChars at read
  split at read
  · cases read
  · next scheme rest split =>
    have isScheme := isScheme_of_splitScheme split
    split at read
    · exact clean_of_withAuthority isScheme read
    · exact clean_of_fileUrl isScheme read
    · exact clean_of_otherUrl isScheme read

end NodeCall.Url
