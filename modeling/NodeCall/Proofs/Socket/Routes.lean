import NodeCall.Proofs.Socket.Registry
import Mathlib.Data.List.Nodup

/-!
# Ids, routes and keys of a registry

Whatever is done to a registry, an id leads only to the subscription that is known under it, and a
parked subscription is known under none.  Conversely a subscription is led to by its id as long as
the node gives no id to two of them.  A route goes with whoever was known under its id: of two
subscriptions under one id, the end of the first cuts off the second.
-/

namespace NodeCall.Socket

/-- What can be done to a registry. -/
inductive Operation
  | insert (params : List Json)
  | bind (key : Key) (id : String)
  | dispatch (id : String)
  | remove (key : Key)
  | fail (key : Key)
  | park
  | clear

namespace Operation

def inserts : Operation → Bool
  | .insert _ => true
  | _ => false

def change : Operation → Change
  | .insert params => .made params
  | .bind key id => .confirmed key id
  | .dispatch _ => .none
  | .remove key => .ended key
  | .fail key => .ended key
  | .park => .parked
  | .clear => .cleared

/-- An operation ends the subscription under a key, or binds it to another id than this one. -/
def Frees (key : Key) (id : String) : Operation → Prop
  | .remove k => k = key
  | .fail k => k = key
  | .bind k given => k = key ∧ given ≠ id
  | _ => False

end Operation

namespace Registry

variable {r : Registry} {key other : Key} {id : String} {given : Nat}

def perform (r : Registry) : Operation → Registry
  | .insert params => (r.insert params).2
  | .bind key id => (r.bind key id).2
  | .dispatch _ => r
  | .remove key => (r.remove key).2
  | .fail key => (r.fail key).2
  | .park => r.park.2
  | .clear => r.clear

def performAll (r : Registry) (operations : List Operation) : Registry := operations.foldl perform r

/-- The keys that are handed out, in order. -/
def keysGiven (r : Registry) : List Operation → List Key
  | [] => []
  | .insert params :: rest => (r.insert params).1 :: (r.insert params).2.keysGiven rest
  | operation :: rest => (r.perform operation).keysGiven rest

theorem perform_eq (r : Registry) (operation : Operation) :
    r.perform operation = r.after operation.change := by
  cases operation <;> rfl

/-- An operation gives an id to a subscription while another one is known under it. -/
def Shares (r : Registry) : Operation → Prop
  | .bind key id => r.entries.contains key = true ∧ ∃ row ∈ r.ids, row.2 = some id ∧ row.1 ≠ key
  | _ => False

instance decidableShares (r : Registry) : (operation : Operation) → Decidable (r.Shares operation)
  | .bind key id => inferInstanceAs (Decidable
      (r.entries.contains key = true ∧ ∃ row ∈ r.ids, row.2 = some id ∧ row.1 ≠ key))
  | .insert _ | .dispatch _ | .remove _ | .fail _ | .park | .clear =>
    inferInstanceAs (Decidable False)

/-- No id is given to a subscription while another one is known under it. -/
def Unshared (r : Registry) : List Operation → Prop
  | [] => True
  | operation :: rest => ¬r.Shares operation ∧ (r.perform operation).Unshared rest

instance decidableUnshared (r : Registry) :
    (operations : List Operation) → Decidable (r.Unshared operations)
  | [] => inferInstanceAs (Decidable True)
  | operation :: rest =>
    have := decidableUnshared (r.perform operation) rest
    inferInstanceAs (Decidable (¬r.Shares operation ∧ (r.perform operation).Unshared rest))

/-! ### Keys -/

theorem lastKey_perform (r : Registry) (operation : Operation) :
    (r.perform operation).lastKey = if operation.inserts then r.nextKey else r.lastKey := by
  rw [perform_eq, lastKey_after]
  cases operation <;> rfl

theorem keysGiven_eq (r : Registry) (operations : List Operation) :
    r.keysGiven operations = (List.range (operations.countP Operation.inserts)).map
      fun index => r.nextKey + UInt64.ofNat index := by
  induction operations generalizing r with
  | nil => rfl
  | cons operation rest ih =>
    by_cases inserts : operation.inserts = true
    · obtain ⟨params, rfl⟩ : ∃ params, operation = .insert params := by
        cases operation <;> simp_all [Operation.inserts]
      rw [List.countP_cons_of_pos inserts, List.range_succ_eq_map, List.map_cons, List.map_map]
      show r.nextKey :: (r.insert params).2.keysGiven rest = _
      rw [ih]
      have first : r.nextKey + UInt64.ofNat 0 = r.nextKey := UInt64.add_zero _
      rw [first]
      congr 1
      apply List.map_congr_left
      intro index _
      show r.nextKey + 1 + UInt64.ofNat index = r.nextKey + UInt64.ofNat (index + 1)
      rw [UInt64.add_assoc, UInt64.ofNat_add, UInt64.add_comm 1]
      rfl
    · have same : (r.perform operation).nextKey = r.nextKey := by
        unfold nextKey
        rw [lastKey_perform, if_neg inserts]
      have given : r.keysGiven (operation :: rest) = (r.perform operation).keysGiven rest := by
        cases operation with
        | insert params => exact absurd rfl inserts
        | _ => rfl
      rw [List.countP_cons_of_neg inserts, given, ih, same]

theorem nodup_keysGiven (r : Registry) {operations : List Operation}
    (few : operations.countP Operation.inserts ≤ UInt64.size) : (r.keysGiven operations).Nodup := by
  rw [keysGiven_eq]
  apply List.nodup_range.map_on
  intro index member other member' same
  rw [List.mem_range] at member member'
  exact Counter.number_injective r.nextKey (by omega) (by omega) same

theorem gives_change (operation : Operation) : operation.change.gives = operation.inserts := by
  cases operation <;> rfl

theorem Keyed.perform (keyed : r.Keyed given) (operation : Operation) :
    (r.perform operation).Keyed (given + if operation.inserts then 1 else 0) := by
  rw [perform_eq, ← gives_change]
  exact keyed.after operation.change

/-! ### What holds of every registry that was empty once -/

theorem Keyed.not_regives (keyed : r.Keyed given) (few : given < UInt64.size) (key : Key)
    (operation : Operation) : ¬r.Regives key operation.change := by
  rintro ⟨-, rfl, holds⟩
  exact (keyed.held holds).ne_next few keyed.next

theorem sound_performAll (keyed : r.Keyed given) (sound : ∀ key, r.Sound key)
    {operations : List Operation}
    (few : given + operations.countP Operation.inserts ≤ UInt64.size) (key : Key) :
    (r.performAll operations).Sound key := by
  induction operations generalizing r given with
  | nil => exact sound key
  | cons operation rest ih =>
    rw [List.countP_cons] at few
    refine ih (keyed.perform operation) (fun key => ?_) (by omega)
    rw [perform_eq]
    apply (sound key).after
    by_cases inserts : operation.inserts = true
    · rw [if_pos inserts] at few
      exact keyed.not_regives (by omega) key operation
    · rintro ⟨⟨params, made | made⟩, -⟩
      · cases operation <;> simp_all [Operation.change, Operation.inserts]
      · cases operation <;> simp [Operation.change] at made

/-- No parked subscription is known under an id. -/
def ParkedUnknown (r : Registry) : Prop := ∀ key, r.Parks key → r.serverId key = none

theorem ParkedUnknown.after (unknown : r.ParkedUnknown) (change : Change) :
    (r.after change).ParkedUnknown := by
  intro key parks
  rw [Option.eq_none_iff_forall_ne_some]
  intro id known
  rcases parks_after.mp parks with ⟨rfl, -⟩ | ⟨parked, -, unconfirmed⟩
  · rcases serverId_after.mp known with ⟨change, -⟩ | ⟨-, -, connected, -⟩
    · simp at change
    · exact connected rfl
  · rcases serverId_after.mp known with ⟨change, -⟩ | ⟨known, -⟩
    · exact unconfirmed id change
    · exact absurd ((unknown key parked).symm.trans known) (by simp)

theorem parkedUnknown_performAll (unknown : r.ParkedUnknown) (operations : List Operation) :
    (r.performAll operations).ParkedUnknown := by
  induction operations generalizing r with
  | nil => exact unknown
  | cons operation rest ih =>
    apply ih
    rw [perform_eq]
    exact unknown.after operation.change

/-! ### Ids that are not shared -/

/-- Whoever is known under an id is led to by it, alone. -/
def Faithful (r : Registry) : Prop := ∀ key id, r.serverId key = some id → r.Leads id key

theorem Faithful.after (faithful : r.Faithful) {change : Change}
    (sole : ∀ {k id other}, change = .confirmed k id → r.Holds k → r.serverId other = some id →
      other = k) : (r.after change).Faithful := by
  intro key id known
  rcases serverId_after.mp known with ⟨heq, there⟩ | ⟨before, stays, connected, same⟩
  · rw [heq]
    exact .confirmed there fun _ => sole heq there
  · have leads := faithful key id before
    by_cases calm : r.Disturbs id key change
    · -- only the confirmation of another subscription under the id is left, and that one is gone
      obtain ends | parked | ⟨k, given, heq, touches⟩ := calm
      · exact absurd ends stays
      · exact absurd parked connected
      · have hkey : k ≠ key := by
          rintro rfl
          exact same given heq
        obtain rfl : given = id := touches.resolve_left hkey
        have gone : ¬r.Holds k := fun there => hkey (sole heq there before).symm
        rw [heq]
        show (r.bind k given).2.Leads given key
        rwa [bind_of_not_holds gone]
    · exact leads.after calm

theorem sole_of_not_shares {operation : Operation} (unshared : ¬r.Shares operation)
    (change : operation.change = .confirmed key id) (there : r.Holds key)
    (known : r.serverId other = some id) : other = key := by
  cases operation with
  | bind k given =>
    obtain ⟨rfl, rfl⟩ := Change.confirmed.inj change
    refine Decidable.byContradiction fun hne => unshared ⟨contains_iff.mpr there, ?_⟩
    exact ⟨(other, some given), mem_ids_of_serverId known, rfl, hne⟩
  | _ => simp [Operation.change] at change

theorem faithful_performAll (faithful : r.Faithful) {operations : List Operation}
    (unshared : r.Unshared operations) : (r.performAll operations).Faithful := by
  induction operations generalizing r with
  | nil => exact faithful
  | cons operation rest ih =>
    refine ih ?_ unshared.2
    rw [perform_eq]
    exact faithful.after (sole_of_not_shares unshared.1)

theorem sound_empty (key : Key) : empty.Sound key := by
  intro id route
  simp [empty] at route

theorem parkedUnknown_empty : empty.ParkedUnknown := by
  rintro key ⟨entry, there, -⟩
  simp [empty] at there

theorem faithful_empty : empty.Faithful := by
  intro key id known
  simp [serverId, empty] at known

/-- Whatever is done to an empty registry, no parked subscription is known under an id.  With no
more insertions than there are words no key is handed out twice and each route leads to the live
subscription that is known under its id.  If moreover no id is given to a subscription while another
one is known under it, an id is routed to whoever is known under it, and a push finds exactly the
subscription that is known under its id. -/
theorem routes_match_ids (operations : List Operation) :
    let r := empty.performAll operations
    (∀ key entry, r.entries.get? key = some entry → entry.parked = true →
      entry.serverId = none) ∧
    (empty.Unshared operations → ∀ key entry id, r.entries.get? key = some entry →
      entry.serverId = some id → r.routes.get? id = some key) ∧
    (operations.countP Operation.inserts ≤ UInt64.size →
      (empty.keysGiven operations).Nodup ∧
      (∀ id key, r.routes.get? id = some key →
        ∃ entry, r.entries.get? key = some entry ∧ entry.serverId = some id) ∧
      (empty.Unshared operations → ∀ id,
        (∀ key, r.dispatch id = some key ↔
          ∃ entry, r.entries.get? key = some entry ∧ entry.serverId = some id) ∧
        ((r.dispatch id).isSome ↔
          ∃ key entry, r.entries.get? key = some entry ∧ entry.serverId = some id))) := by
  intro r
  have leads (unshared : empty.Unshared operations) {key : Key} {entry : Entry} {id : String}
      (there : r.entries.get? key = some entry) (known : entry.serverId = some id) :
      r.Leads id key :=
    faithful_performAll faithful_empty unshared key id (serverId_eq_some.mpr ⟨entry, there, known⟩)
  refine ⟨?_, ?_, fun few => ⟨nodup_keysGiven empty few, ?_, ?_⟩⟩
  · intro key entry there parked
    have unknown := parkedUnknown_performAll parkedUnknown_empty operations key
      ⟨entry, there, parked⟩
    rwa [serverId, there] at unknown
  · intro unshared key entry id there known
    exact (dispatch_eq_some.mp (leads unshared there known).dispatch).1
  all_goals
    have sound : ∀ key, r.Sound key :=
      sound_performAll keyed_empty sound_empty (by omega)
  · intro id key route
    exact serverId_eq_some.mp (sound key id route)
  · intro unshared id
    have reached (key : Key) : r.dispatch id = some key ↔
        ∃ entry, r.entries.get? key = some entry ∧ entry.serverId = some id := by
      constructor
      · intro found
        exact serverId_eq_some.mp (sound key id (dispatch_eq_some.mp found).1)
      · rintro ⟨entry, there, known⟩
        exact (leads unshared there known).dispatch
    refine ⟨reached, ?_⟩
    rw [Option.isSome_iff_exists]
    exact exists_congr reached

/-- Ids change hands, keys without a subscription are bound, removed and failed, and the connection
is lost twice. -/
theorem routes_match_ids_rebound :
    let operations : List Operation := [.insert [], .insert [], .bind 1 "a", .bind 2 "b",
      .bind 1 "c", .bind 2 "a", .bind 7 "c", .remove 9, .park, .park, .bind 1 "b", .insert [],
      .fail 3, .bind 2 "c", .dispatch "c"]
    let r := empty.performAll operations
    operations.countP Operation.inserts ≤ UInt64.size ∧ empty.Unshared operations ∧
    (empty.keysGiven operations).Nodup ∧
    (∀ key, r.dispatch "c" = some key ↔
      ∃ entry, r.entries.get? key = some entry ∧ entry.serverId = some "c") ∧
    r.dispatch "c" = some 2 := by
  intro operations r
  have few : operations.countP Operation.inserts ≤ UInt64.size := by decide
  have unshared : empty.Unshared operations := by decide +kernel
  obtain ⟨distinct, -, reached⟩ := (routes_match_ids operations).2.2 few
  exact ⟨few, unshared, distinct, (reached unshared "c").1, by decide +kernel⟩

/-! ### Routes of others -/

theorem get?_routes_of_frees {operation : Operation} (frees : operation.Frees key id) :
    (r.perform operation).routes.get? id =
      if r.serverId key = some id then none else r.routes.get? id := by
  rw [perform_eq, get?_routes_after]
  cases operation with
  | remove k =>
    obtain rfl : k = key := frees
    rfl
  | fail k =>
    obtain rfl : k = key := frees
    rfl
  | bind k given =>
    obtain ⟨rfl, hne⟩ := frees
    simp only [Operation.change, if_neg hne]
    split
    · next gone =>
      have unknown : r.serverId k ≠ some id := by
        intro known
        obtain ⟨params, there⟩ := holds_of_serverId known
        exact absurd (there.symm.trans gone) (by simp)
      rw [if_neg unknown]
    · rfl
  | _ => exact False.elim frees

theorem holds_of_frees {operation : Operation} (frees : operation.Frees key id)
    (apart : key ≠ other) (there : r.Holds other) : (r.perform operation).Holds other := by
  obtain ⟨params, there⟩ := there
  have stays : ¬r.Ends other operation.change := by
    cases operation <;> simp_all [Operation.Frees, Operation.change, Ends]
  rw [perform_eq]
  exact ⟨params, params?_after.mpr (.inr ⟨there, stays⟩)⟩

theorem dispatch_of_frees {operation : Operation} (frees : operation.Frees key id)
    (led : r.dispatch id = some other) (apart : key ≠ other) :
    (r.perform operation).dispatch id = if r.serverId key = some id then none else some other := by
  obtain ⟨route, there⟩ := dispatch_eq_some.mp led
  have routed := get?_routes_of_frees (r := r) frees
  split at routed
  · next known =>
    rw [if_pos known, dispatch, routed]
    rfl
  · next unknown =>
    rw [if_neg unknown]
    exact dispatch_eq_some.mpr ⟨routed.trans route, holds_of_frees frees apart there⟩

/-- In every registry that was empty once, the end of a subscription or its binding to a further id
cuts an id off from another subscription just when the first one was known under that id too.  This
is never so as long as no id is given to a subscription while another one is known under it. -/
theorem route_kept_iff (operations : List Operation) {key other : Key} {id : String}
    {operation : Operation} (frees : operation.Frees key id)
    (led : (empty.performAll operations).dispatch id = some other) (apart : key ≠ other) :
    let r := empty.performAll operations
    ((r.perform operation).dispatch id = some other ↔ r.serverId key ≠ some id) ∧
    ((r.perform operation).dispatch id = none ↔ r.serverId key = some id) ∧
    (empty.Unshared operations → r.serverId key ≠ some id) := by
  intro r
  have after : (r.perform operation).dispatch id =
      if r.serverId key = some id then none else some other := dispatch_of_frees frees led apart
  refine ⟨?_, ?_, ?_⟩
  · by_cases known : r.serverId key = some id <;> simp [after, known]
  · by_cases known : r.serverId key = some id <;> simp [after, known]
  · intro unshared known
    have leads := faithful_performAll faithful_empty unshared key id known
    exact apart (Option.some.inj (leads.dispatch.symm.trans led))

/-- Two subscriptions under ids of their own, and one under the id of another. -/
theorem route_kept_iff_apart_and_shared :
    let operations : List Operation :=
      [.insert [], .insert [], .insert [], .bind 1 "a", .bind 2 "b", .bind 3 "b"]
    let r := empty.performAll operations
    Operation.Frees 1 "b" (.remove 1) ∧ Operation.Frees 2 "b" (.bind 2 "c") ∧
    r.dispatch "b" = some 3 ∧
    (r.perform (.remove 1)).dispatch "b" = some 3 ∧
    (r.perform (.bind 2 "c")).dispatch "b" = none := by
  intro operations r
  have led : r.dispatch "b" = some 3 := by decide +kernel
  have removed : Operation.Frees 1 "b" (.remove 1) := rfl
  have bound : Operation.Frees 2 "b" (.bind 2 "c") := ⟨rfl, by decide⟩
  refine ⟨removed, bound, led, ?_, ?_⟩
  · exact (route_kept_iff operations removed led (by decide)).1.mpr (by decide +kernel)
  · exact (route_kept_iff operations bound led (by decide)).2.1.mpr (by decide +kernel)

/-- The node gives one id to two subscriptions.  Pushes reach the second one until the first one is
removed, fails or is bound to another id; then they reach nobody, though the second one is still
known under the id. -/
theorem shared_id_cut_off :
    let r := empty.performAll [.insert [], .insert [], .bind 1 "0xa", .bind 2 "0xa"]
    r.dispatch "0xa" = some 2 ∧
    ∀ operation ∈ [Operation.remove 1, .fail 1, .bind 1 "0xb"],
      (r.perform operation).dispatch "0xa" = none ∧
      (r.perform operation).serverId 2 = some "0xa" := by
  decide +kernel

end Registry
end NodeCall.Socket
