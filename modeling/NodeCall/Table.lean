/-!
# Finite tables

A table of values under keys, each key once, in the order in which the keys were first put in.
All that is said about a table is said through the value at a key.
-/

namespace NodeCall

/-- Values under keys. -/
structure Table (κ β : Type) where
  rows : List (κ × β)
  deriving Repr

namespace Table

variable {κ β : Type} [DecidableEq κ]

def empty : Table κ β := ⟨[]⟩

instance : Inhabited (Table κ β) := ⟨empty⟩

def getRow (key : κ) : List (κ × β) → Option β
  | [] => none
  | (k, v) :: rest => if k = key then some v else getRow key rest

def get? (t : Table κ β) (key : κ) : Option β := getRow key t.rows

def contains (t : Table κ β) (key : κ) : Bool := (t.get? key).isSome

def putRow (key : κ) (value : β) : List (κ × β) → List (κ × β)
  | [] => [(key, value)]
  | (k, v) :: rest => if k = key then (key, value) :: rest else (k, v) :: putRow key value rest

def insert (t : Table κ β) (key : κ) (value : β) : Table κ β := ⟨putRow key value t.rows⟩

def erase (t : Table κ β) (key : κ) : Table κ β := ⟨t.rows.filter fun row => row.1 ≠ key⟩

def size (t : Table κ β) : Nat := t.rows.length

def isEmpty (t : Table κ β) : Bool := t.rows.isEmpty

def mapValues {γ : Type} (f : β → γ) (t : Table κ β) : Table κ γ :=
  ⟨t.rows.map fun row => (row.1, f row.2)⟩

theorem getRow_putRow (key other : κ) (value : β) (rows : List (κ × β)) :
    getRow other (putRow key value rows) = if key = other then some value else getRow other rows := by
  induction rows with
  | nil => simp [putRow, getRow]
  | cons row rest ih =>
    by_cases h : row.1 = key
    · by_cases h' : key = other <;> simp_all [putRow, getRow]
    · by_cases h' : row.1 = other
      · have hne : key ≠ other := fun e => h (h'.trans e.symm)
        simp [putRow, getRow, h', hne, Ne.symm hne]
      · simp_all [putRow, getRow]

theorem getRow_filter (key other : κ) (rows : List (κ × β)) :
    getRow other (rows.filter fun row => row.1 ≠ key) =
      if key = other then none else getRow other rows := by
  induction rows with
  | nil => simp [getRow]
  | cons row rest ih =>
    by_cases h : row.1 = key
    · by_cases h' : key = other <;> simp_all [getRow]
    · by_cases h' : row.1 = other
      · have hne : key ≠ other := fun e => h (h'.trans e.symm)
        simp [getRow, h', hne, Ne.symm hne]
      · simp_all [getRow]

theorem getRow_map {γ : Type} (f : β → γ) (key : κ) (rows : List (κ × β)) :
    getRow key (rows.map fun row => (row.1, f row.2)) = (getRow key rows).map f := by
  induction rows with
  | nil => simp [getRow]
  | cons row rest ih => by_cases h : row.1 = key <;> simp_all [getRow]

@[simp] theorem get?_empty (key : κ) : (empty : Table κ β).get? key = none := rfl

theorem get?_insert (t : Table κ β) (key other : κ) (value : β) :
    (t.insert key value).get? other = if key = other then some value else t.get? other :=
  getRow_putRow key other value t.rows

theorem get?_erase (t : Table κ β) (key other : κ) :
    (t.erase key).get? other = if key = other then none else t.get? other :=
  getRow_filter key other t.rows

theorem get?_mapValues {γ : Type} (f : β → γ) (t : Table κ β) (key : κ) :
    (t.mapValues f).get? key = (t.get? key).map f :=
  getRow_map f key t.rows

end Table
end NodeCall
