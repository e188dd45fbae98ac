import NodeCall.Proofs.Url.Parts

/-!
# URLs that are read from their own text

All that stands before the query of a URL is read without regard to the query, and a user name and a
password are read without regard to the rest.  So when a URL is read from its own text as itself, it
still is with another query or another password in their places.
-/

namespace NodeCall.Url

variable {scheme s front rest back : List Char} {c mark : Char} {url : Url}

/-! ### Texts with a mark in them -/

section

variable {p : Char → Bool}

theorem takeWhile_mark (ends : p mark = false) (front back : List Char) :
    (front ++ mark :: back).takeWhile p = front.takeWhile p := by
  induction front with
  | nil => rw [List.nil_append, List.takeWhile_cons_of_neg (by simp [ends]), List.takeWhile_nil]
  | cons c rest ih => cases h : p c <;> simp [h, ih]

theorem dropWhile_mark (ends : p mark = false) (front back : List Char) :
    (front ++ mark :: back).dropWhile p = front.dropWhile p ++ mark :: back := by
  induction front with
  | nil => rw [List.nil_append, List.dropWhile_cons_of_neg (by simp [ends]), List.dropWhile_nil,
      List.nil_append]
  | cons c rest ih => cases h : p c <;> simp [h, ih]

theorem trimBy_mark (kept : ∀ c ∈ mark :: back, p c = false) (front : List Char) :
    Text.trimBy p (front ++ mark :: back) = front.dropWhile p ++ mark :: back := by
  have ends : p mark = false := kept mark List.mem_cons_self
  have last : back.reverse.dropWhile p = back.reverse := by
    cases h : back.reverse with
    | nil => rfl
    | cons c more =>
      have inside : c ∈ back := by rw [← List.mem_reverse, h]; exact List.mem_cons_self
      rw [List.dropWhile_cons_of_neg (by simp [kept c (List.mem_cons_of_mem _ inside)])]
  rw [Text.trimBy, dropWhile_mark ends, List.reverse_append, List.reverse_cons, List.append_assoc,
    List.singleton_append, dropWhile_mark ends, last]
  simp

end

theorem isBreak_of_lt (ink : 0x20 < c.toNat) : Path.isBreak c = false := by
  refine Bool.eq_false_iff.mpr fun breaks => ?_
  simp only [Path.isBreak, Bool.or_eq_true, decide_eq_true_eq] at breaks
  rcases breaks with (rfl | rfl) | rfl <;> exact absurd ink (by decide)

theorem trimmed_mark (ink : ∀ c ∈ mark :: back, 0x20 < c.toNat) (front : List Char) :
    trimmed (front ++ mark :: back) =
      front.dropWhile (fun c => c.toNat ≤ 0x20) ++ mark :: back :=
  trimBy_mark (fun c there => decide_eq_false (Nat.not_le.mpr (ink c there))) front

theorem solid_mark (ink : ∀ c ∈ mark :: back, 0x20 < c.toNat) (front : List Char) :
    Path.solid (front ++ mark :: back) = Path.solid front ++ mark :: back := by
  have still : Path.solid (mark :: back) = mark :: back :=
    List.filter_eq_self.mpr fun c there => by rw [isBreak_of_lt (ink c there)]; rfl
  rw [Path.solid, List.filter_append]
  exact congrArg (Path.solid front ++ ·) still

/-! ### What is left over of an authority -/

theorem splitHost_append (inside : Bool) (s : List Char) :
    (splitHost inside s).1 ++ (splitHost inside s).2 = s := by
  induction s generalizing inside with
  | nil => rfl
  | cons c rest ih =>
    rw [splitHost]
    split
    · rfl
    · exact congrArg (c :: ·) (ih _)

theorem takePort_subset {value : Nat} {found : Nat × List Char}
    (read : takePort value s = .ok found) : found.2 ⊆ s := by
  induction s generalizing value with
  | nil =>
    obtain rfl := Except.ok.inj read
    exact List.Subset.refl _
  | cons c rest ih =>
    rw [takePort] at read
    split at read
    · dsimp only at read
      split at read
      · exact List.Subset.trans (ih read) (List.subset_cons_self _ _)
      · cases read
    split at read
    · obtain rfl := Except.ok.inj read
      exact List.Subset.refl _
    · cases read

theorem portOf_subset {found : Option Nat × List Char} (read : portOf scheme s = .ok found) :
    found.2 ⊆ s := by
  unfold portOf at read
  split at read
  · next rest =>
    obtain ⟨⟨value, after⟩, port, read⟩ := bind_eq_ok.mp read
    have inside : after ⊆ ':' :: rest :=
      List.Subset.trans (takePort_subset port) (List.subset_cons_self _ _)
    dsimp only at read
    split at read
    all_goals
      obtain rfl := Except.ok.inj read
      exact inside
  · obtain rfl := Except.ok.inj read
    exact List.Subset.refl _

theorem placeOf_subset {bare : Bool} {found : Host × Option Nat × List Char}
    (read : placeOf scheme s bare = .ok found) : found.2.2 ⊆ s := by
  have after : (splitHost false s).2 ⊆ s := by
    conv => rhs; rw [← splitHost_append false s]
    exact List.subset_append_right _ _
  unfold placeOf at read
  dsimp only at read
  split at read
  · cases read
  split at read
  all_goals
    obtain ⟨host, -, read⟩ := bind_eq_ok.mp read
    split at read
    · cases read
    obtain ⟨port, isPort, read⟩ := bind_eq_ok.mp read
    split at read
    · cases read
    obtain rfl := Except.ok.inj read
    exact List.Subset.trans (portOf_subset isPort) after

theorem splitUserinfo_subset (s : List Char) : ((splitUserinfo s).getD ([], s)).2 ⊆ s := by
  unfold splitUserinfo
  split
  · intro c there
    exact List.mem_reverse.mp ((List.takeWhile_prefix _).subset (List.mem_reverse.mp there))
  · exact List.Subset.refl _

theorem authorityOf_subset {more : Bool} {found : Authority × List Char}
    (read : authorityOf scheme s more = .ok found) : found.2 ⊆ s := by
  rw [authorityOf_eq] at read
  dsimp only at read
  split at read
  · cases read
  · obtain ⟨place, located, rfl⟩ := map_eq_ok.mp read
    exact List.Subset.trans (placeOf_subset located) (splitUserinfo_subset s)

/-! ### What stands before the query -/

/-- The URL with a query, and perhaps a fragment, that are read from a text. -/
def withSuffix (back : List Char) (url : Url) : Url :=
  { url with
    query := (suffixOf (schemeClass url.scheme) ('?' :: back)).1
    fragment := (suffixOf (schemeClass url.scheme) ('?' :: back)).2 }

theorem endsIn_query (cls : SchemeClass) : (!endsIn cls '?') = false := by
  simp [endsIn, endsPath]

theorem urlWith_query {found : Authority × List Char} (left : ∀ c ∈ found.2, endsPath c = false)
    (open' : ∀ c ∈ front, endsPath c = false) (back : List Char) :
    urlWith scheme (front ++ '?' :: back) found =
      withSuffix back (urlWith scheme (front ++ ['?']) found) := by
  have rest : ∀ c ∈ found.2 ++ front.dropWhile (!endsIn (schemeClass scheme) ·),
      (!endsPath c) = true := by
    intro c there
    rcases List.mem_append.mp there with there | there
    · rw [left c there]; rfl
    · rw [open' c ((List.dropWhile_suffix _).subset there)]; rfl
  have path (back : List Char) :
      (found.2 ++ (front ++ '?' :: back).dropWhile (!endsIn (schemeClass scheme) ·)).takeWhile
        (!endsPath ·) = found.2 ++ front.dropWhile (!endsIn (schemeClass scheme) ·) := by
    rw [dropWhile_mark (endsIn_query _), ← List.append_assoc, takeWhile_mark rfl,
      List.takeWhile_eq_self_iff.mpr rest]
  have suffix (back : List Char) :
      (found.2 ++ (front ++ '?' :: back).dropWhile (!endsIn (schemeClass scheme) ·)).dropWhile
        (!endsPath ·) = '?' :: back := by
    rw [dropWhile_mark (endsIn_query _), ← List.append_assoc, dropWhile_mark rfl,
      List.dropWhile_eq_nil_iff.mpr rest, List.nil_append]
  simp only [urlWith, path, suffix]
  rfl

theorem withAuthority_query (open' : ∀ c ∈ front, endsPath c = false) (back : List Char) :
    withAuthority scheme (front ++ '?' :: back) =
      (withAuthority scheme (front ++ ['?'])).map (withSuffix back) := by
  have more (back : List Char) :
      (front ++ '?' :: back).any (endsIn (schemeClass scheme)) = true := by
    simp [endsIn, endsPath]
  rw [withAuthority_eq, withAuthority_eq, takeWhile_mark (endsIn_query _),
    takeWhile_mark (endsIn_query _), more, more]
  cases inside : authorityOf scheme (front.takeWhile (!endsIn (schemeClass scheme) ·)) true with
  | error e => rfl
  | ok found =>
    have left : ∀ c ∈ found.2, endsPath c = false := fun c there =>
      open' c ((List.takeWhile_prefix _).subset (authorityOf_subset inside there))
    exact congrArg Except.ok (urlWith_query left open' back)

theorem afterSlash_query (front back : List Char) :
    afterSlash? (front ++ '?' :: back) = (afterSlash? front).map (· ++ '?' :: back) := by
  unfold afterSlash?
  rw [dropWhile_mark rfl]
  cases front.dropWhile Path.isBreak with
  | nil => rfl
  | cons c rest =>
    rw [List.cons_append]
    dsimp only
    split <;> rfl

theorem afterSlash_subset (after : afterSlash? s = some rest) : rest ⊆ s := by
  unfold afterSlash? at after
  split at after
  · next c more split =>
    have inside : c :: more ⊆ s := split ▸ (List.dropWhile_suffix _).subset
    split at after
    · rw [← Option.some.inj after]
      exact List.Subset.trans (List.subset_cons_self c more) inside
    · cases after
  · cases after

theorem splitFile_query (front back : List Char) :
    splitFile (front ++ '?' :: back) =
      (splitFile front).map fun found => (found.1, found.2 ++ '?' :: back) := by
  unfold splitFile
  rw [afterSlash_query]
  cases afterSlash? front with
  | none => rfl
  | some path =>
    dsimp only [Option.map_some]
    rw [afterSlash_query]
    cases afterSlash? path with
    | none => rfl
    | some rest =>
      dsimp only [Option.map_some]
      rw [takeWhile_mark rfl, dropWhile_mark rfl]
      split
      · rfl
      · cases fileHost (Path.solid (rest.takeWhile
            fun c => !(isSlash .file c || endsPath c))) with
        | error e => rfl
        | ok host =>
          cases host with
          | none => rfl
          | some host =>
            simp only [bind, Except.bind]
            rw [afterSlash_query]
            cases afterSlash? (rest.dropWhile fun c => !(isSlash .file c || endsPath c)) <;> rfl

theorem splitFile_subset {found : Option Host × List Char} (read : splitFile s = .ok found) :
    found.2 ⊆ s := by
  unfold splitFile at read
  split at read
  · obtain rfl := Except.ok.inj read
    exact List.Subset.refl _
  next path first =>
  have inside := afterSlash_subset first
  split at read
  · obtain rfl := Except.ok.inj read
    exact inside
  next rest second =>
  have inside := List.Subset.trans (afterSlash_subset second) inside
  dsimp only at read
  split at read
  · obtain rfl := Except.ok.inj read
    exact inside
  obtain ⟨named, -, read⟩ := bind_eq_ok.mp read
  have path := List.Subset.trans
    (List.dropWhile_suffix fun c => !(isSlash .file c || endsPath c)).subset inside
  split at read
  · obtain rfl := Except.ok.inj read
    exact path
  · obtain rfl := Except.ok.inj read
    dsimp only
    cases third : afterSlash? (rest.dropWhile fun c => !(isSlash .file c || endsPath c)) with
    | none => exact path
    | some more => exact List.Subset.trans (afterSlash_subset third) path

theorem fileUrl_query (file : schemeClass scheme = .file)
    (open' : ∀ c ∈ front, endsPath c = false) (ink : ∀ c ∈ back, 0x20 < c.toNat) :
    fileUrl scheme (front ++ '?' :: back) =
      (fileUrl scheme (front ++ ['?'])).map (withSuffix back) := by
  unfold fileUrl
  rw [splitFile_query, splitFile_query front []]
  cases split : splitFile front with
  | error e => rfl
  | ok found =>
    obtain ⟨host, rest⟩ := found
    have whole : ∀ c ∈ rest, (!endsPath c) = true := fun c there => by
      rw [open' c (splitFile_subset split there)]
      rfl
    have ink' : ∀ c ∈ '?' :: back, 0x20 < c.toNat := List.forall_mem_cons.mpr ⟨by decide, ink⟩
    have still : Path.solid ('?' :: back) = '?' :: back := solid_mark ink' []
    simp only [Except.map, bind, Except.bind]
    rw [takeWhile_mark rfl, dropWhile_mark rfl, dropWhile_mark rfl,
      List.dropWhile_eq_nil_iff.mpr whole, List.nil_append, List.nil_append, still,
      takeWhile_mark rfl]
    simp only [plain, withSuffix, pure, Except.pure, file]

/-- Without slashes at its front, the text before the query is the path and nothing else. -/
theorem otherUrl_path (single : ∀ rest, front ≠ '/' :: '/' :: rest)
    (open' : ∀ c ∈ front, endsPath c = false) (scheme : List Char) :
    ∃ path, ∀ back, otherUrl scheme (front ++ '?' :: back) =
      .ok (plain scheme none path (suffixOf .other ('?' :: back))) := by
  have whole : ∀ c ∈ front, (!endsPath c) = true := fun c there => by
    rw [open' c there]
    rfl
  have head (back : List Char) :
      ((front ++ '?' :: back).head? = some '/') = (front.head? = some '/') := by
    cases front <;> simp
  refine ⟨if front.head? = some '/' then
      .rooted (Path.segments (isSlash .other) (front.takeWhile (!endsPath ·)))
    else .rootless (Text.Percent.encode Text.Percent.controls (front.takeWhile (!endsPath ·))),
    fun back => ?_⟩
  unfold otherUrl
  split
  · next rest same =>
    rcases front with - | ⟨a, - | ⟨b, more⟩⟩
    · cases same
    · cases same
    · simp only [List.cons_append, List.cons.injEq] at same
      exact absurd (by rw [same.1, same.2.1]) (single more)
  · dsimp only
    rw [takeWhile_mark rfl, dropWhile_mark rfl, List.dropWhile_eq_nil_iff.mpr whole]
    simp only [head]
    rfl

theorem otherUrl_query (other : schemeClass scheme = .other)
    (open' : ∀ c ∈ front, endsPath c = false) (back : List Char) :
    otherUrl scheme (front ++ '?' :: back) =
      (otherUrl scheme (front ++ ['?'])).map (withSuffix back) := by
  by_cases double : ∃ rest, front = '/' :: '/' :: rest
  · obtain ⟨rest, rfl⟩ := double
    exact withAuthority_query (fun c there => open' c (by simp [there])) back
  · obtain ⟨path, read⟩ := otherUrl_path (fun rest same => double ⟨rest, same⟩) open' scheme
    rw [read, read]
    simp only [plain, withSuffix, Except.map, other]

theorem splitScheme_eq_some (split : splitScheme s = some (scheme, rest)) :
    ∃ name, s = name ++ ':' :: rest := by
  unfold splitScheme at split
  dsimp only at split
  split at split
  · next whole =>
    split at split
    · obtain ⟨-, rfl⟩ := Prod.mk.inj (Option.some.inj split)
      exact ⟨_, by rw [← whole, List.takeWhile_append_dropWhile]⟩
    · cases split
  · cases split

theorem splitScheme_query (front back : List Char) :
    splitScheme (front ++ '?' :: back) =
      (splitScheme front).map fun found => (found.1, found.2 ++ '?' :: back) := by
  unfold splitScheme
  rw [takeWhile_mark (by decide), dropWhile_mark (by decide)]
  dsimp only
  cases front.dropWhile fun c => c.isAlphanum || c = '+' || c = '-' || c = '.' with
  | nil => rfl
  | cons c rest =>
    by_cases colon : c = ':'
    · rw [colon, List.cons_append]
      show (if _ then some (_, rest ++ '?' :: back) else none) =
        Option.map _ (if _ then some (_, rest) else none)
      split <;> rfl
    · rw [List.cons_append]
      split
      · next same => exact absurd (List.cons.inj same).1 colon
      split
      · next same => exact absurd (List.cons.inj same).1 colon
      · rfl

/-- What is read before the query does not depend on the query and what follows it. -/
theorem parseChars_query (open' : ∀ c ∈ front, endsPath c = false)
    (ink : ∀ c ∈ back, 0x20 < c.toNat) :
    parseChars (front ++ '?' :: back) = (parseChars (front ++ ['?'])).map (withSuffix back) := by
  have ink' : ∀ c ∈ '?' :: back, 0x20 < c.toNat := List.forall_mem_cons.mpr ⟨by decide, ink⟩
  have mark : ∀ c ∈ ['?'], 0x20 < c.toNat := by simp
  unfold parseChars
  rw [trimmed_mark ink', trimmed_mark mark, solid_mark ink', solid_mark mark, splitScheme_query,
    splitScheme_query _ []]
  have kept : front.dropWhile (fun c => c.toNat ≤ 0x20) ⊆ front := (List.dropWhile_suffix _).subset
  generalize front.dropWhile (fun c => c.toNat ≤ 0x20) = front at kept ⊢
  have open' : ∀ c ∈ front, endsPath c = false := fun c there => open' c (kept there)
  cases split : splitScheme (Path.solid front) with
  | none => rfl
  | some found =>
    obtain ⟨scheme, rest⟩ := found
    obtain ⟨name, whole⟩ := splitScheme_eq_some split
    have inside (c : Char) (there : c ∈ ':' :: rest) : c ∈ front := by
      have solid : c ∈ Path.solid front := by
        rw [whole]
        exact List.mem_append_right _ there
      exact (List.mem_filter.mp solid).1
    have openRest : ∀ c ∈ rest, endsPath c = false := fun c there =>
      open' c (inside c (List.mem_cons_of_mem _ there))
    dsimp only [Option.map_some]
    cases cls : schemeClass scheme with
    | web =>
      dsimp only
      rw [dropWhile_mark (by decide), dropWhile_mark (by decide)]
      exact withAuthority_query
        (fun c there => openRest c ((List.dropWhile_suffix _).subset there)) back
    | file =>
      dsimp only
      obtain ⟨before, after, rfl, none⟩ :=
        List.eq_append_cons_of_mem (inside ':' List.mem_cons_self)
      have gone : before.dropWhile (· ≠ ':') = [] := List.dropWhile_eq_nil_iff.mpr fun c there => by
        rw [decide_eq_true_eq]
        rintro rfl
        exact none there
      have drop (back : List Char) :
          ((before ++ ':' :: after ++ '?' :: back).dropWhile (· ≠ ':')).drop 1 =
            after ++ '?' :: back := by
        rw [List.append_assoc, List.cons_append, dropWhile_mark (by simp), gone]
        rfl
      rw [drop, drop]
      exact fileUrl_query cls (fun c there => open' c (by simp [there])) ink
    | other => exact otherUrl_query cls openRest back

/-! ### Another query -/

/-- The text of a URL up to its query. -/
def opening (url : Url) : List Char :=
  url.scheme ++ ':' :: (authorityText url ++ url.path.text)

theorem chars_eq (url : Url) :
    url.chars = opening url ++ (markedText '?' url.query ++ markedText '#' url.fragment) := by
  simp [chars, opening]

theorem endsPath_of_isHostChar (char : isHostChar c = true) : endsPath c = false := by
  have apart := (isHostChar_iff.mp char).2
  simp only [List.mem_cons, List.not_mem_nil, or_false, not_or] at apart
  simp [endsPath, apart]

theorem endsPath_of_userinfo (shown : Text.Percent.userinfo c = false) : endsPath c = false :=
  endsPath_of_path (controls_of_with shown).1

theorem endsPath_of_isSchemeChar (char : isSchemeChar c = true) : endsPath c = false := by
  refine Bool.eq_false_iff.mpr fun ends => ?_
  rcases Bool.or_eq_true_iff.mp ends with same | same
  all_goals
    rw [of_decide_eq_true same] at char
    cases char

theorem mem_userinfoText (there : c ∈ userinfoText url) :
    c ∈ url.username ∨ c ∈ url.password ∨ c = ':' ∨ c = '@' := by
  have inside : c ∈ (url.username ++ if url.password.isEmpty then [] else ':' :: url.password) ++
      ['@'] := by
    unfold userinfoText at there
    dsimp only at there
    generalize (url.username ++ if url.password.isEmpty then [] else ':' :: url.password) = both
      at there ⊢
    split at there
    · cases there
    · exact there
  rcases List.mem_append.mp inside with both | sign
  · rcases List.mem_append.mp both with name | rest
    · exact .inl name
    split at rest
    · cases rest
    · rcases List.mem_cons.mp rest with colon | password
      · exact .inr (.inr (.inl colon))
      · exact .inr (.inl password)
  · exact .inr (.inr (.inr (List.mem_singleton.mp sign)))

theorem Clean.authorityText (clean : url.Clean) : ∀ c ∈ authorityText url, endsPath c = false := by
  intro c there
  unfold Url.authorityText at there
  split at there
  · next host named =>
    simp only [List.mem_cons, List.mem_append] at there
    rcases there with rfl | rfl | (userinfo | inside) | port
    · rfl
    · rfl
    · rcases mem_userinfoText userinfo with name | password | rfl | rfl
      · exact endsPath_of_userinfo (clean.username c name)
      · exact endsPath_of_userinfo (clean.password c password)
      · rfl
      · rfl
    · exact endsPath_of_isHostChar (clean.host host named c inside)
    · exact endsPath_of_isHostChar (isHostChar_of_portText port)
  · split at there
    · simp only [List.mem_cons, List.not_mem_nil, or_false] at there
      rcases there with rfl | rfl <;> rfl
    · cases there

theorem Clean.opening (clean : url.Clean) : ∀ c ∈ opening url, endsPath c = false := by
  intro c there
  simp only [Url.opening, List.mem_append, List.mem_cons] at there
  rcases there with scheme | rfl | authority | path
  · exact endsPath_of_isSchemeChar (clean.scheme.chars c scheme)
  · rfl
  · exact clean.authorityText c authority
  · exact clean.path c path

/-- Between the mark of the query and that of the fragment stands the query. -/
theorem suffixOf_query {query : List Char} (none : '#' ∉ query) (cls : SchemeClass)
    (fragment : Option (List Char)) :
    suffixOf cls ('?' :: (query ++ markedText '#' fragment)) =
      (some (Text.Percent.encode
        (if cls = .other then Text.Percent.query else Text.Percent.specialQuery) query),
        fragment.map (Text.Percent.encode Text.Percent.fragment)) := by
  have within : ∀ c ∈ query, decide (c ≠ '#') = true := by
    intro c there
    rw [decide_eq_true_eq]
    rintro rfl
    exact none there
  unfold suffixOf
  cases fragment with
  | none =>
    simp only [markedText, List.append_nil, List.takeWhile_eq_self_iff.mpr within,
      List.dropWhile_eq_nil_iff.mpr within]
    rfl
  | some fragment =>
    simp only [markedText]
    rw [takeWhile_mark (by simp), dropWhile_mark (by simp), List.takeWhile_eq_self_iff.mpr within,
      List.dropWhile_eq_nil_iff.mpr within]
    rfl

theorem lt_of_query (shown : Text.Percent.query c = false) : 0x20 < c.toNat := by
  obtain ⟨base, apart⟩ := controls_of_with shown
  exact lt_of_controls base fun same => apart (by simp [same])

theorem lt_of_fragment (shown : Text.Percent.fragment c = false) : 0x20 < c.toNat := by
  obtain ⟨base, apart⟩ := controls_of_with shown
  exact lt_of_controls base fun same => apart (by simp [same])

theorem Clean.fragmentText (clean : url.Clean) :
    ∀ c ∈ markedText '#' url.fragment, 0x20 < c.toNat := by
  cases named : url.fragment with
  | none => exact nofun
  | some fragment =>
    exact List.forall_mem_cons.mpr
      ⟨by decide, fun c there => lt_of_fragment (clean.fragment fragment named c there)⟩

/-- The URL is read from its own text. -/
def Reparses (url : Url) : Prop := parseChars url.chars = .ok url

/-- With another query that needs no escapes a URL is still read from its own text. -/
theorem Reparses.withQuery (reads : Reparses url) {query other : List Char}
    (some : url.query = .some query) (shown : ∀ c ∈ other, Text.Percent.specialQuery c = false) :
    Reparses { url with query := .some other } := by
  have clean := clean_of_parse reads
  have shown' : ∀ c ∈ other, Text.Percent.query c = false := fun c there =>
    (controls_of_with (shown c there)).1
  have ink {text : List Char} (shown : ∀ c ∈ text, Text.Percent.query c = false) :
      ∀ c ∈ text ++ markedText '#' url.fragment, 0x20 < c.toNat := fun c there =>
    (List.mem_append.mp there).elim (fun inside => lt_of_query (shown c inside))
      (clean.fragmentText c)
  have hash {text : List Char} (shown : ∀ c ∈ text, Text.Percent.query c = false) :
      '#' ∉ text := fun there => Bool.noConfusion (shown _ there)
  have kept (cls : SchemeClass) : Text.Percent.encode
      (if cls = .other then Text.Percent.query else Text.Percent.specialQuery) other = other := by
    split
    · exact Text.Percent.encode_of_literal shown'
    · exact Text.Percent.encode_of_literal shown
  unfold Reparses at reads ⊢
  rw [chars_eq, some, markedText, List.cons_append,
    parseChars_query clean.opening (ink (clean.query query some))] at reads
  obtain ⟨base, read, whole⟩ := map_eq_ok.mp reads
  rw [chars_eq, markedText, List.cons_append]
  show parseChars (opening url ++ '?' :: (other ++ markedText '#' url.fragment)) = _
  rw [parseChars_query clean.opening (ink shown'), read]
  have fragment : url.fragment.map (Text.Percent.encode Text.Percent.fragment) = url.fragment := by
    have same := congrArg Url.fragment whole
    rwa [withSuffix, suffixOf_query (hash (clean.query query some))] at same
  show Except.ok (withSuffix _ base) = _
  rw [withSuffix, suffixOf_query (hash shown'), kept, fragment]
  generalize url.fragment = last at whole ⊢
  rw [← whole]
  rfl

/-! ### Another password -/

section

variable {cls : SchemeClass} {userinfo place : List Char}

theorem authorityOf_userinfo (some : userinfo ≠ []) (last : '@' ∉ place) (scheme : List Char)
    (more : Bool) : authorityOf scheme (userinfo ++ '@' :: place) more =
      (placeOf scheme place (isBare userinfo)).map fun found =>
        (⟨(credentialsOf userinfo).1, (credentialsOf userinfo).2, found.1, found.2.1⟩,
          found.2.2) := by
  rw [authorityOf_eq, splitUserinfo_append userinfo last]
  obtain ⟨c, more, rfl⟩ := List.exists_cons_of_ne_nil some
  simp

/-- The user name and the password are read without regard to what stands behind them. -/
theorem withAuthority_at (some : userinfo ≠ [])
    (within : ∀ c ∈ userinfo ++ ['@'], endsIn (schemeClass scheme) c = false)
    (last : '@' ∉ place.takeWhile (!endsIn (schemeClass scheme) ·)) :
    withAuthority scheme (userinfo ++ '@' :: place) =
      (placeOf scheme (place.takeWhile (!endsIn (schemeClass scheme) ·)) (isBare userinfo)).map
        fun found => urlWith scheme place
          (⟨(credentialsOf userinfo).1, (credentialsOf userinfo).2, found.1, found.2.1⟩,
            found.2.2) := by
  have within' : ∀ c ∈ userinfo ++ ['@'], (!endsIn (schemeClass scheme) c) = true :=
    fun c there => by rw [within c there]; rfl
  have whole : userinfo ++ '@' :: place = (userinfo ++ ['@']) ++ place := by simp
  have takes : (userinfo ++ '@' :: place).takeWhile (!endsIn (schemeClass scheme) ·) =
      userinfo ++ '@' :: place.takeWhile (!endsIn (schemeClass scheme) ·) := by
    rw [whole, List.takeWhile_append_of_pos within', List.append_assoc, List.singleton_append]
  have drops : (userinfo ++ '@' :: place).dropWhile (!endsIn (schemeClass scheme) ·) =
      place.dropWhile (!endsIn (schemeClass scheme) ·) := by
    rw [whole, List.dropWhile_append_of_pos within']
  rw [withAuthority_eq, takes, authorityOf_userinfo some last]
  cases placeOf scheme (place.takeWhile (!endsIn (schemeClass scheme) ·)) (isBare userinfo) with
  | error e => rfl
  | ok found =>
    simp only [Except.map, urlWith, drops]

end

/-- The text of a URL behind its userinfo. -/
def closing (url : Url) : List Char :=
  ((url.host.map Host.text).getD [] ++ portText url.port) ++
    (url.path.text ++ (markedText '?' url.query ++ markedText '#' url.fragment))

theorem chars_of_password {host : Host} (named : url.host = some host) (some : url.password ≠ []) :
    url.chars = url.scheme ++ ':' :: '/' :: '/' ::
      (url.username ++ ':' :: url.password ++ '@' :: closing url) := by
  have there : url.password.isEmpty = false := by simpa using some
  simp [chars, authorityText, named, userinfoText, there, closing]

theorem endsIn_of_userinfo (shown : Text.Percent.userinfo c = false) (cls : SchemeClass) :
    endsIn cls c = false := by
  have apart (x : Char) (escaped : Text.Percent.userinfo x = true) : c ≠ x := by
    rintro rfl
    exact Bool.false_ne_true (shown.symm.trans escaped)
  simp [endsIn, isSlash, endsPath, apart '/' rfl, apart '\\' rfl, apart '?' rfl, apart '#' rfl]

theorem endsIn_of_isHostChar (char : isHostChar c = true) (cls : SchemeClass) :
    endsIn cls c = false := by
  have apart := (isHostChar_iff.mp char).2
  simp only [List.mem_cons, List.not_mem_nil, or_false, not_or] at apart
  simp [endsIn, isSlash, endsPath, apart]

theorem lt_of_path (shown : Text.Percent.path c = false) : 0x20 < c.toNat :=
  lt_of_fragment (controls_of_with shown).1

theorem lt_of_userinfo (shown : Text.Percent.userinfo c = false) : 0x20 < c.toNat :=
  lt_of_path (controls_of_with shown).1

theorem lt_of_isSchemeChar (char : isSchemeChar c = true) : 0x20 < c.toNat := by
  simp only [isSchemeChar, Char.isAlphanum, Bool.or_eq_true, decide_eq_true_eq] at char
  rcases char with (((letter | digit) | rfl) | rfl) | rfl
  · have := bounds_of_isAlpha letter
    omega
  · exact Nat.lt_of_lt_of_le (by decide) (Char.isDigit_iff_toNat.mp digit).1
  all_goals decide

theorem Clean.queryText (clean : url.Clean) : ∀ c ∈ markedText '?' url.query, 0x20 < c.toNat := by
  cases named : url.query with
  | none => exact nofun
  | some query =>
    exact List.forall_mem_cons.mpr
      ⟨by decide, fun c there => lt_of_query (clean.query query named c there)⟩

/-- What stands behind the userinfo of a URL with a password. -/
structure Closes (url : Url) : Prop where
  ink : ∀ c ∈ closing url, 0x20 < c.toNat
  last : ∀ cls, '@' ∉ (closing url).takeWhile (!endsIn cls ·)

theorem Clean.closes (clean : url.Clean) {host : Host} {segments : List (List Char)}
    (named : url.host = some host) (path : url.path = .rooted segments)
    (shown : Path.Shown segments) : Closes url := by
  have front : ∀ c ∈ (url.host.map Host.text).getD [] ++ portText url.port,
      isHostChar c = true := by
    rw [named]
    intro c there
    exact (List.mem_append.mp there).elim (clean.host host named c) isHostChar_of_portText
  refine ⟨fun c there => ?_, fun cls there => ?_⟩
  · rcases List.mem_append.mp there with inside | rest
    · exact (isHostChar_iff.mp (front c inside)).1
    rcases List.mem_append.mp rest with inside | rest
    · rw [path] at inside
      exact lt_of_path (Path.path_of_mem_text shown inside)
    · exact (List.mem_append.mp rest).elim (clean.queryText c) (clean.fragmentText c)
  · have ends : (url.path.text ++
        (markedText '?' url.query ++ markedText '#' url.fragment)).takeWhile
          (!endsIn cls ·) = [] := by
      rw [path]
      cases segments with
      | cons segment rest => rfl
      | nil =>
        cases url.query with
        | some query => simp [Path.text, markedText, endsIn, endsPath]
        | none => cases url.fragment <;> simp [Path.text, markedText, endsIn, endsPath]
    rw [closing, List.takeWhile_append_of_pos, ends, List.append_nil] at there
    · exact absurd (front _ there) (by decide)
    · intro c inside
      rw [endsIn_of_isHostChar (front c inside)]
      rfl

theorem password_of_fileUrl (read : fileUrl scheme s = .ok url) : url.password = [] := by
  obtain ⟨found, -, read⟩ := bind_eq_ok.mp read
  obtain rfl := Except.ok.inj read
  rfl

/-- A text that holds no blank is read as it stands. -/
theorem splitScheme_ink (isScheme : IsScheme scheme) (ink : ∀ c ∈ rest, 0x20 < c.toNat) :
    splitScheme (Path.solid (trimmed (scheme ++ ':' :: rest))) = some (scheme, rest) := by
  have ink' : ∀ c ∈ scheme ++ ':' :: rest, 0x20 < c.toNat := by
    intro c there
    rcases List.mem_append.mp there with inside | inside
    · exact lt_of_isSchemeChar (isScheme.chars c inside)
    · rcases List.mem_cons.mp inside with rfl | inside
      · decide
      · exact ink c inside
  have still : trimmed (scheme ++ ':' :: rest) = scheme ++ ':' :: rest ∧
      Path.solid (scheme ++ ':' :: rest) = scheme ++ ':' :: rest := by
    generalize scheme ++ ':' :: rest = text at ink'
    cases text with
    | nil => exact ⟨rfl, rfl⟩
    | cons c more => exact ⟨trimmed_mark ink' [], solid_mark ink' []⟩
  rw [still.1, still.2, splitScheme_append isScheme.letter isScheme.chars, isScheme.lower]

theorem credentialsOf_append {username password : List Char}
    (shown : ∀ c ∈ username, Text.Percent.userinfo c = false)
    (shown' : ∀ c ∈ password, Text.Percent.userinfo c = false) :
    credentialsOf (username ++ ':' :: password) = (username, password) := by
  have before : ∀ c ∈ username, decide (c ≠ ':') = true := by
    intro c there
    rw [decide_eq_true_eq]
    rintro rfl
    exact Bool.noConfusion (shown _ there)
  rw [credentialsOf, takeWhile_mark (by simp), dropWhile_mark (by simp),
    List.takeWhile_eq_self_iff.mpr before, List.dropWhile_eq_nil_iff.mpr before]
  exact Prod.ext (Text.Percent.encode_of_literal shown) (Text.Percent.encode_of_literal shown')

section

variable {username password place : List Char}

theorem mem_userinfo_at (shown : ∀ c ∈ username, Text.Percent.userinfo c = false)
    (shown' : ∀ c ∈ password, Text.Percent.userinfo c = false) :
    ∀ c ∈ username ++ ':' :: password ++ ['@'],
      Text.Percent.userinfo c = false ∨ c = ':' ∨ c = '@' := by
  intro c there
  simp only [List.mem_append, List.mem_cons, List.not_mem_nil, or_false] at there
  rcases there with (name | colon | secret) | sign
  · exact .inl (shown c name)
  · exact .inr (.inl colon)
  · exact .inl (shown' c secret)
  · exact .inr (.inr sign)

theorem ink_at (shown : ∀ c ∈ username, Text.Percent.userinfo c = false)
    (shown' : ∀ c ∈ password, Text.Percent.userinfo c = false)
    (ink : ∀ c ∈ place, 0x20 < c.toNat) :
    ∀ c ∈ '/' :: '/' :: (username ++ ':' :: password ++ '@' :: place), 0x20 < c.toNat := by
  refine List.forall_mem_cons.mpr ⟨by decide, List.forall_mem_cons.mpr ⟨by decide, fun c there => ?_⟩⟩
  have split : c ∈ (username ++ ':' :: password ++ ['@']) ++ place := by simpa using there
  rcases List.mem_append.mp split with front | back
  · rcases mem_userinfo_at shown shown' c front with free | rfl | rfl
    · exact lt_of_userinfo free
    all_goals decide
  · exact ink c back

/-- How a URL with a user name and a password is read; in a URL of a file there are none. -/
theorem parseChars_at (isScheme : IsScheme scheme)
    (shown : ∀ c ∈ username, Text.Percent.userinfo c = false)
    (some : password ≠ []) (shown' : ∀ c ∈ password, Text.Percent.userinfo c = false)
    (ink : ∀ c ∈ place, 0x20 < c.toNat)
    (last : '@' ∉ place.takeWhile (!endsIn (schemeClass scheme) ·))
    (remote : schemeClass scheme ≠ .file) :
    parseChars (scheme ++ ':' :: '/' :: '/' :: (username ++ ':' :: password ++ '@' :: place)) =
      (placeOf scheme (place.takeWhile (!endsIn (schemeClass scheme) ·)) false).map
        fun found => urlWith scheme place (⟨username, password, found.1, found.2.1⟩, found.2.2) := by
  have within (cls : SchemeClass) : ∀ c ∈ username ++ ':' :: password ++ ['@'],
      endsIn cls c = false := by
    intro c there
    rcases mem_userinfo_at shown shown' c there with free | rfl | rfl
    · exact endsIn_of_userinfo free cls
    all_goals simp [endsIn, isSlash, endsPath]
  have found : parseChars (scheme ++ ':' :: '/' :: '/' ::
      (username ++ ':' :: password ++ '@' :: place)) =
        withAuthority scheme (username ++ ':' :: password ++ '@' :: place) := by
    unfold parseChars
    rw [splitScheme_ink isScheme (ink_at shown shown' ink)]
    dsimp only
    cases cls : schemeClass scheme with
    | file => exact absurd cls remote
    | other => rfl
    | web =>
      refine congrArg (withAuthority scheme) ?_
      cases username with
      | nil => rfl
      | cons c rest =>
        have slash := (Bool.or_eq_false_iff.mp (within .web c (by simp))).1
        simpa [isSlash] using slash
  have bare : isBare (username ++ ':' :: password) = false := by
    rw [isBare, credentialsOf_append shown shown']
    simp [some]
  rw [found, withAuthority_at (by simp) (within _) last, bare, credentialsOf_append shown shown']

end

/-- With another password a URL is still read from its own text. -/
theorem Reparses.withPassword (reads : Reparses url) (some : url.password ≠ [])
    {other : List Char} (some' : other ≠ [])
    (shown : ∀ c ∈ other, Text.Percent.userinfo c = false) :
    Reparses { url with password := other } := by
  have clean := clean_of_parse reads
  obtain ⟨host, segments, named, path, segmentsShown⟩ := clean.rooted some
  have closes := clean.closes named path segmentsShown
  unfold Reparses at reads ⊢
  rw [chars_of_password named some] at reads
  have remote : schemeClass url.scheme ≠ .file := by
    intro file
    unfold parseChars at reads
    rw [splitScheme_ink clean.scheme (ink_at clean.username clean.password closes.ink)] at reads
    dsimp only at reads
    rw [file] at reads
    exact some (password_of_fileUrl reads)
  rw [parseChars_at clean.scheme clean.username some clean.password closes.ink (closes.last _)
    remote] at reads
  obtain ⟨found, read, whole⟩ := map_eq_ok.mp reads
  rw [@chars_of_password { url with password := other } host named some']
  show parseChars (url.scheme ++ ':' :: '/' :: '/' ::
    (url.username ++ ':' :: other ++ '@' :: closing url)) = _
  rw [parseChars_at clean.scheme clean.username some' shown closes.ink (closes.last _) remote, read]
  exact congrArg (fun url => Except.ok { url with password := other }) whole

end NodeCall.Url
