import NodeCall.Json.Decode
import Mathlib.Data.List.Induction
import Mathlib.Data.List.Nodup
import Mathlib.Data.List.Perm.Basic

/-!
# The order of the members of an object

A value keeps the members of an object in the order of their keys, and of those with one key the
last.  A record that can be decoded from the members as they were written is decoded from the
sorted ones too: its fields are there once, and the others are skipped.
-/

namespace NodeCall.Json

/-! ### Sorting -/

section

variable {key : String} {value : Json} {members : List (String × Json)}

theorem insertMember_perm (fresh : key ∉ members.map (·.1)) :
    (insertMember key value members).Perm ((key, value) :: members) := by
  induction members with
  | nil => exact .refl _
  | cons member rest ih =>
    obtain ⟨k, v⟩ := member
    rw [List.map_cons, List.mem_cons, not_or] at fresh
    unfold insertMember
    split
    · exact .refl _
    · rw [if_neg fresh.1]
      exact ((ih fresh.2).cons (k, v)).trans (.swap ..)

theorem filter_insertMember_of_not {keep : String → Bool} (dropped : keep key = false) :
    (insertMember key value members).filter (fun m => keep m.1) =
      members.filter fun m => keep m.1 := by
  induction members with
  | nil => simp [insertMember, dropped]
  | cons member rest ih =>
    obtain ⟨k, v⟩ := member
    unfold insertMember
    split
    · simp [dropped]
    · split
      · next same => simp [← same, dropped]
      · simp only [List.filter_cons, ih]

theorem filter_insertMember_of_keep {keep : String → Bool} (kept : keep key = true)
    (fresh : key ∉ (members.filter fun m => keep m.1).map (·.1)) :
    ((insertMember key value members).filter fun m => keep m.1).Perm
      ((key, value) :: members.filter fun m => keep m.1) := by
  have absent : key ∉ members.map (·.1) := by
    intro there
    obtain ⟨member, hmember, rfl⟩ := List.mem_map.mp there
    exact fresh (List.mem_map.mpr ⟨member, List.mem_filter.mpr ⟨hmember, kept⟩, rfl⟩)
  have whole : (insertMember key value members).Perm ((key, value) :: members) :=
    insertMember_perm absent
  have perm := whole.filter fun m => keep m.1
  rwa [List.filter_cons_of_pos (by exact kept)] at perm

end

theorem sortMembers_snoc (members : List (String × Json)) (member : String × Json) :
    sortMembers (members ++ [member]) = insertMember member.1 member.2 (sortMembers members) := by
  simp [sortMembers]

/-- Members whose keys are kept and differ are all there after sorting. -/
theorem filter_sortMembers_perm (keep : String → Bool) (members : List (String × Json))
    (once : ((members.filter fun m => keep m.1).map (·.1)).Nodup) :
    ((sortMembers members).filter fun m => keep m.1).Perm (members.filter fun m => keep m.1) := by
  induction members using List.reverseRecOn with
  | nil => exact .refl _
  | append_singleton members member ih =>
    rw [List.filter_append, List.map_append, List.nodup_append] at once
    have earlier := ih once.1
    rw [sortMembers_snoc, List.filter_append]
    cases kept : keep member.1 with
    | false =>
      rw [filter_insertMember_of_not kept, List.filter_cons_of_neg (by simp [kept]),
        List.filter_nil, List.append_nil]
      exact earlier
    | true =>
      rw [List.filter_cons_of_pos (by exact kept), List.filter_nil] at once ⊢
      have fresh : member.1 ∉ ((sortMembers members).filter fun m => keep m.1).map (·.1) := by
        rw [(earlier.map _).mem_iff]
        exact fun there => once.2.2 _ there _ (by simp) rfl
      exact (filter_insertMember_of_keep kept fresh).trans
        ((earlier.cons member).trans (List.perm_append_singleton _ _).symm)

/-! ### Taking members -/

namespace Schema

variable {δ : Type}

/-- How the fields of a record are put into an unfinished one: each marks itself and no other, and
two of them can be put in either order. -/
structure Lawful {τ : Type} (schema : Schema τ δ) : Prop where
  marks : ∀ {key place draft next}, key ∈ schema.fields →
    schema.store key place draft = .ok next → ∀ other ∈ schema.fields,
      schema.isSet other next = (schema.isSet other draft || other = key)
  swaps : ∀ {key other place place' draft next last}, key ∈ schema.fields →
    other ∈ schema.fields → key ≠ other → schema.store key place draft = .ok next →
    schema.store other place' next = .ok last →
      ∃ next', schema.store other place' draft = .ok next' ∧
        schema.store key place next' = .ok last

/-- The members of a value; they have all been read. -/
def given (members : List (String × Json)) : List (Except Fault String × Json) :=
  members.map fun m => (.ok m.1, m.2)

variable {schema : Schema Json δ} {members : List (String × Json)} {draft next last : δ}

theorem takeMembers_cons_of_not {key : String} (unknown : key ∉ schema.fields) (value : Json) :
    schema.takeMembers (given ((key, value) :: members)) none draft =
      schema.takeMembers (given members) none draft := by
  show schema.takeMembers ((.ok key, value) :: given members) none draft = _
  rw [takeMembers, if_neg unknown]
  rfl

theorem takeMembers_cons_eq_ok {key : String} (known : key ∈ schema.fields) {value : Json} :
    schema.takeMembers (given ((key, value) :: members)) none draft = .ok last ↔
      schema.isSet key draft = false ∧ ∃ next, schema.store key value draft = .ok next ∧
        schema.takeMembers (given members) none next = .ok last := by
  show schema.takeMembers ((.ok key, value) :: given members) none draft = _ ↔ _
  rw [takeMembers, if_pos known]
  cases hset : schema.isSet key draft with
  | true => simp
  | false =>
    cases hstore : schema.store key value draft with
    | error f => simp [bind, Except.bind]
    | ok next => simp [bind, Except.bind]

/-- Only the members with the keys of fields count. -/
theorem takeMembers_filter (schema : Schema Json δ) (members : List (String × Json)) (draft : δ) :
    schema.takeMembers (given (members.filter fun m => m.1 ∈ schema.fields)) none draft =
      schema.takeMembers (given members) none draft := by
  induction members generalizing draft with
  | nil => rfl
  | cons member rest ih =>
    obtain ⟨key, value⟩ := member
    by_cases known : key ∈ schema.fields
    · rw [List.filter_cons_of_pos (by simpa using known)]
      show schema.takeMembers ((.ok key, value) :: given _) none draft =
        schema.takeMembers ((.ok key, value) :: given rest) none draft
      rw [takeMembers, takeMembers]
      simp only [ih]
    · rw [List.filter_cons_of_neg (by simpa using known), takeMembers_cons_of_not known, ih]

variable (lawful : schema.Lawful)

include lawful

theorem isSet_of_takeMembers (known : ∀ m ∈ members, m.1 ∈ schema.fields)
    (taken : schema.takeMembers (given members) none draft = .ok last) :
    (members.map (·.1)).Nodup ∧ ∀ m ∈ members, schema.isSet m.1 draft = false := by
  induction members generalizing draft with
  | nil => simp
  | cons member rest ih =>
    obtain ⟨key, value⟩ := member
    have hkey : key ∈ schema.fields := known _ List.mem_cons_self
    obtain ⟨unset, next, hstore, hrest⟩ := (takeMembers_cons_eq_ok hkey).mp taken
    obtain ⟨distinct, unset'⟩ := ih (fun m member => known m (List.mem_cons_of_mem _ member)) hrest
    have marks : ∀ m ∈ rest, schema.isSet m.1 draft = false ∧ m.1 ≠ key := by
      intro m member
      have hmarks := lawful.marks hkey hstore m.1 (known m (List.mem_cons_of_mem _ member))
      rw [unset' m member] at hmarks
      simpa using hmarks.symm
    refine ⟨List.nodup_cons.mpr ⟨?_, distinct⟩, ?_⟩
    · intro there
      obtain ⟨m, member, same⟩ := List.mem_map.mp there
      exact (marks m member).2 same
    · intro m member
      rcases List.mem_cons.mp member with rfl | member
      · exact unset
      · exact (marks m member).1

/-- Fields can be taken in any order. -/
theorem takeMembers_perm {permuted : List (String × Json)} (perm : members.Perm permuted)
    (known : ∀ m ∈ members, m.1 ∈ schema.fields)
    (taken : schema.takeMembers (given members) none draft = .ok last) :
    schema.takeMembers (given permuted) none draft = .ok last := by
  induction perm generalizing draft with
  | nil => exact taken
  | cons member _ ih =>
    obtain ⟨key, value⟩ := member
    have hkey : key ∈ schema.fields := known _ List.mem_cons_self
    obtain ⟨unset, next, hstore, hrest⟩ := (takeMembers_cons_eq_ok hkey).mp taken
    exact (takeMembers_cons_eq_ok hkey).mpr
      ⟨unset, next, hstore, ih (fun m member => known m (List.mem_cons_of_mem _ member)) hrest⟩
  | swap first second rest =>
    obtain ⟨key, value⟩ := first
    obtain ⟨other, value'⟩ := second
    have hother : other ∈ schema.fields := known _ List.mem_cons_self
    have hkey : key ∈ schema.fields := known _ (List.mem_cons_of_mem _ List.mem_cons_self)
    obtain ⟨distinct, unset⟩ := isSet_of_takeMembers lawful known taken
    have ne : other ≠ key := by
      intro same
      simp [same] at distinct
    obtain ⟨-, next, hstore, taken⟩ := (takeMembers_cons_eq_ok hother).mp taken
    obtain ⟨-, next', hstore', taken⟩ := (takeMembers_cons_eq_ok hkey).mp taken
    obtain ⟨swapped, hfirst, hsecond⟩ := lawful.swaps hother hkey ne hstore hstore'
    have hmarks := lawful.marks hkey hfirst other hother
    rw [unset _ List.mem_cons_self, decide_eq_false ne] at hmarks
    exact (takeMembers_cons_eq_ok hkey).mpr
      ⟨unset (key, value) (List.mem_cons_of_mem _ List.mem_cons_self), swapped, hfirst,
        (takeMembers_cons_eq_ok hother).mpr ⟨hmarks, next', hsecond, taken⟩⟩
  | trans perm _ ih ih' =>
    exact ih' (fun m member => known m (perm.mem_iff.mpr member)) (ih known taken)

/-- What is decoded from members as they were written is decoded from the sorted ones. -/
theorem takeMembers_sortMembers
    (taken : schema.takeMembers (given members) none draft = .ok last) :
    schema.takeMembers (given (sortMembers members)) none draft = .ok last := by
  rw [← takeMembers_filter] at taken ⊢
  have known : ∀ m ∈ members.filter (fun m => m.1 ∈ schema.fields), m.1 ∈ schema.fields :=
    fun m member => by simpa using (List.mem_filter.mp member).2
  obtain ⟨once, -⟩ := isSet_of_takeMembers lawful known taken
  exact takeMembers_perm lawful
    (filter_sortMembers_perm (· ∈ schema.fields) members once).symm known taken

end Schema
end NodeCall.Json
