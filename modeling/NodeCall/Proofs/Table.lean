import NodeCall.Table

/-!
# Rows of tables

A table that was made by insertions and removals has one row for each key, so its rows and its
values at keys say the same.
-/

namespace NodeCall.Table

variable {κ β : Type} [DecidableEq κ]

/-- The keys of all rows. -/
def keys (t : Table κ β) : List κ := t.rows.map (·.1)

theorem mem_rows_of_getRow {key : κ} {value : β} {rows : List (κ × β)}
    (h : getRow key rows = some value) : (key, value) ∈ rows := by
  induction rows with
  | nil => simp [getRow] at h
  | cons row rest ih =>
    unfold getRow at h
    split at h
    · next hkey =>
      obtain rfl := Option.some.inj h
      simp [← hkey]
    · exact List.mem_cons_of_mem _ (ih h)

theorem getRow_eq_none {key : κ} {rows : List (κ × β)} :
    getRow key rows = none ↔ ∀ row ∈ rows, row.1 ≠ key := by
  induction rows with
  | nil => simp [getRow]
  | cons row rest ih =>
    unfold getRow
    split
    · next hkey => simp [hkey]
    · next hkey => simp [hkey, ih]

theorem getRow_of_mem {key : κ} {value : β} {rows : List (κ × β)}
    (distinct : (rows.map (·.1)).Nodup) (member : (key, value) ∈ rows) :
    getRow key rows = some value := by
  induction rows with
  | nil => simp at member
  | cons row rest ih =>
    rw [List.map_cons, List.nodup_cons] at distinct
    unfold getRow
    rcases List.mem_cons.mp member with rfl | member
    · simp
    · have hne : row.1 ≠ key := by
        intro hkey
        exact distinct.1 (hkey ▸ List.mem_map_of_mem member)
      rw [if_neg hne]
      exact ih distinct.2 member

theorem mem_rows_of_get? {t : Table κ β} {key : κ} {value : β} (h : t.get? key = some value) :
    (key, value) ∈ t.rows :=
  mem_rows_of_getRow h

theorem mem_rows_iff {t : Table κ β} (distinct : t.keys.Nodup) {key : κ} {value : β} :
    (key, value) ∈ t.rows ↔ t.get? key = some value :=
  ⟨getRow_of_mem distinct, mem_rows_of_getRow⟩

theorem erase_of_get?_none {t : Table κ β} {key : κ} (h : t.get? key = none) :
    t.erase key = t := by
  have hrows : t.rows.filter (fun row => row.1 ≠ key) = t.rows := by
    apply List.filter_eq_self.mpr
    intro row member
    simpa using getRow_eq_none.mp h row member
  unfold erase
  rw [hrows]

theorem keys_putRow (key : κ) (value : β) (rows : List (κ × β)) :
    (putRow key value rows).map (·.1) =
      if key ∈ rows.map (·.1) then rows.map (·.1) else rows.map (·.1) ++ [key] := by
  induction rows with
  | nil => simp [putRow]
  | cons row rest ih =>
    unfold putRow
    split
    · next hkey => simp [hkey]
    · next hkey =>
      simp only [List.map_cons, ih, List.mem_cons, Ne.symm hkey, false_or]
      split <;> rfl

omit [DecidableEq κ] in
@[simp] theorem nodup_keys_empty : (empty : Table κ β).keys.Nodup := List.nodup_nil

theorem nodup_keys_insert {t : Table κ β} (distinct : t.keys.Nodup) (key : κ) (value : β) :
    (t.insert key value).keys.Nodup := by
  show ((putRow key value t.rows).map (·.1)).Nodup
  rw [keys_putRow]
  split
  · exact distinct
  · next fresh =>
    refine List.nodup_append.mpr ⟨distinct, by simp, ?_⟩
    rintro other member _ hkey rfl
    obtain rfl := List.mem_singleton.mp hkey
    exact fresh member

theorem nodup_keys_erase {t : Table κ β} (distinct : t.keys.Nodup) (key : κ) :
    (t.erase key).keys.Nodup := by
  have fewer : (t.erase key).rows.Sublist t.rows := List.filter_sublist
  exact (fewer.map Prod.fst).nodup distinct

end NodeCall.Table
