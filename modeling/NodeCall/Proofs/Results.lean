/-!
# Results that may be failures

Computations that stop at the first failure, in sequence and over a list.
-/

namespace NodeCall

variable {ε ε' α β : Type}

theorem bind_eq_ok {x : Except ε α} {f : α → Except ε β} {result : β} :
    (x >>= f) = .ok result ↔ ∃ value, x = .ok value ∧ f value = .ok result := by
  cases x <;> simp [bind, Except.bind]

theorem pure_eq_ok {value result : α} :
    (pure value : Except ε α) = .ok result ↔ value = result := by
  simp [pure, Except.pure]

theorem map_eq_ok {x : Except ε α} {f : α → β} {result : β} :
    x.map f = .ok result ↔ ∃ value, x = .ok value ∧ f value = result := by
  cases x <;> simp [Except.map]

theorem mapError_eq_ok {x : Except ε α} {f : ε → ε'} {result : α} :
    x.mapError f = .ok result ↔ x = .ok result := by
  cases x with
  | error e => exact ⟨nofun, nofun⟩
  | ok value =>
    show Except.ok value = Except.ok result ↔ _
    rw [Except.ok.injEq, Except.ok.injEq]

theorem mapM_mapError (f : α → Except ε β) (g : ε → ε') (items : List α) :
    (items.mapM fun item => (f item).mapError g) = (items.mapM f).mapError g := by
  induction items with
  | nil => rfl
  | cons item rest ih =>
    rw [List.mapM_cons, List.mapM_cons, ih]
    cases f item with
    | error e => rfl
    | ok value => cases rest.mapM f <;> rfl

theorem toOption_bind {x y : Except ε α} {f g : α → Except ε β} (same : x.toOption = y.toOption)
    (next : ∀ value, (f value).toOption = (g value).toOption) :
    (x >>= f).toOption = (y >>= g).toOption := by
  cases x <;> cases y <;> simp_all [Except.toOption, bind, Except.bind]

theorem toOption_map (x : Except ε α) (f : α → β) : (x.map f).toOption = x.toOption.map f := by
  cases x <;> rfl

theorem toOption_eq_some {x : Except ε α} {result : α} :
    x.toOption = some result ↔ x = .ok result := by
  cases x <;> simp [Except.toOption]

/-! ### The first failure of a list -/

variable (f : α → Except ε β)

/-- The first failure that a function meets in a list. -/
def firstError? (items : List α) : Option ε :=
  items.findSome? fun item => match f item with
    | .error e => some e
    | .ok _ => none

/-- What a function makes of the items at which it does not fail. -/
def valuesOf (items : List α) : List β := items.filterMap fun item => (f item).toOption

theorem mem_valuesOf {f : α → Except ε β} {items : List α} {value : β} :
    value ∈ valuesOf f items ↔ ∃ item ∈ items, f item = .ok value := by
  simp only [valuesOf, List.mem_filterMap]
  refine exists_congr fun item => and_congr_right fun _ => ?_
  cases f item <;> simp [Except.toOption]

theorem firstError?_eq_none {items : List α} :
    firstError? f items = none ↔ ∀ item ∈ items, ∃ value, f item = .ok value := by
  simp only [firstError?, List.findSome?_eq_none_iff]
  refine forall₂_congr fun item _ => ?_
  cases f item <;> simp

theorem mapM_eq_firstError? (items : List α) : items.mapM f =
    match firstError? f items with
    | some e => .error e
    | none => .ok (valuesOf f items) := by
  induction items with
  | nil => rfl
  | cons item rest ih =>
    rw [List.mapM_cons, ih]
    cases hitem : f item with
    | error e => simp [firstError?, hitem, bind, Except.bind]
    | ok value =>
      have hfirst : firstError? f (item :: rest) = firstError? f rest := by
        simp [firstError?, hitem]
      have hvalues : valuesOf f (item :: rest) = value :: valuesOf f rest := by
        simp [valuesOf, hitem, Except.toOption]
      rw [hfirst, hvalues]
      cases firstError? f rest <;> rfl

end NodeCall
