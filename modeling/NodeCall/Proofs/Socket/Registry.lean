import NodeCall.Proofs.IdGenerator
import NodeCall.Proofs.Table
import NodeCall.Socket.Registry

/-!
# Subscriptions under their keys

A turn of a client changes its subscriptions in one of a few ways.  Each change is said through the
subscription under a key and through the key that an id leads to.  An id leads only to a subscription
that is known under it, as long as no key is given to a second subscription while the first is there.
-/

namespace NodeCall.Socket

/-- What a turn does to the subscriptions of a client. -/
inductive Change
  | none
  | made (params : List Json)
  /-- One is asked for and refused at once; a key is used up all the same. -/
  | rejected (params : List Json)
  | confirmed (key : Key) (id : String)
  | ended (key : Key)
  | parked
  | cleared

/-- A change uses a key up. -/
def Change.gives : Change → Bool
  | .made _ | .rejected _ => true
  | _ => false

def Entry.boundTo (entry : Entry) (id : String) : Entry :=
  { entry with serverId := some id, parked := false }

namespace Registry

variable {r : Registry} {key other : Key} {id : String} {change : Change}

/-- The key that the next subscription is given. -/
def nextKey (r : Registry) : Key := r.lastKey + 1

def after (r : Registry) : Change → Registry
  | .none => r
  | .made params => (r.insert params).2
  | .rejected params => ((r.insert params).2.remove r.nextKey).2
  | .confirmed key id => (r.bind key id).2
  | .ended key => (r.remove key).2
  | .parked => r.park.2
  | .cleared => r.clear

/-- A change ends the subscription under a key, or gives the key to another one. -/
def Ends (r : Registry) (key : Key) : Change → Prop
  | .made _ => r.nextKey = key
  | .rejected _ => r.nextKey = key
  | .ended k => k = key
  | .cleared => True
  | _ => False

/-- The subscription under a key, after a change. -/
def entryAfter (r : Registry) (key : Key) : Change → Option Entry
  | .none => r.entries.get? key
  | .made params => if r.nextKey = key then some ⟨params, none, false⟩ else r.entries.get? key
  | .rejected _ => if r.nextKey = key then none else r.entries.get? key
  | .confirmed k id =>
    if k = key then (r.entries.get? key).map (·.boundTo id) else r.entries.get? key
  | .ended k => if k = key then none else r.entries.get? key
  | .parked => (r.entries.get? key).map Entry.parkedIfConfirmed
  | .cleared => none

theorem get?_entries_bind (key other : Key) (id : String) :
    (r.bind key id).2.entries.get? other =
      if key = other then (r.entries.get? other).map (·.boundTo id) else r.entries.get? other := by
  unfold bind
  split
  · next absent =>
    split
    · next heq =>
      subst heq
      simp [absent]
    · rfl
  · next entry there =>
    dsimp only
    rw [Table.get?_insert]
    split
    · next heq =>
      subst heq
      rw [there]
      rfl
    · rfl

theorem get?_entries_remove (key other : Key) :
    (r.remove key).2.entries.get? other = if key = other then none else r.entries.get? other := by
  unfold remove
  split
  · next absent =>
    split
    · next heq => rw [← heq, absent]
    · rfl
  · exact Table.get?_erase _ _ _

theorem get?_entries_after (change : Change) (key : Key) :
    (r.after change).entries.get? key = r.entryAfter key change := by
  cases change with
  | none => rfl
  | made params => exact Table.get?_insert _ _ _ _
  | rejected params =>
    have inserted : (r.insert params).2.entries.get? key =
        if r.nextKey = key then some ⟨params, none, false⟩ else r.entries.get? key :=
      Table.get?_insert _ _ _ _
    show ((r.insert params).2.remove r.nextKey).2.entries.get? key = _
    rw [get?_entries_remove, inserted]
    unfold entryAfter
    split <;> rfl
  | confirmed k id => exact get?_entries_bind k key id
  | ended k => exact get?_entries_remove k key
  | parked => exact Table.get?_mapValues _ _ _
  | cleared => rfl

theorem lastKey_remove (key : Key) : (r.remove key).2.lastKey = r.lastKey := by
  unfold remove
  split <;> rfl

/-- A key is used up just when a subscription is asked for. -/
theorem lastKey_after (change : Change) : (r.after change).lastKey = match change with
    | .made _ | .rejected _ => r.nextKey
    | _ => r.lastKey := by
  cases change with
  | rejected params => exact lastKey_remove _
  | confirmed key id =>
    show (r.bind key id).2.lastKey = r.lastKey
    unfold bind
    split <;> rfl
  | ended key => exact lastKey_remove key
  | _ => rfl

/-! ### Views of the subscription under a key -/

def params? (r : Registry) (key : Key) : Option (List Json) := (r.entries.get? key).map (·.params)

def Holds (r : Registry) (key : Key) : Prop := ∃ params, r.params? key = some params

def Parks (r : Registry) (key : Key) : Prop :=
  ∃ entry, r.entries.get? key = some entry ∧ entry.parked = true

theorem contains_iff : r.entries.contains key = true ↔ r.Holds key := by
  unfold Table.contains Holds params?
  cases r.entries.get? key <;> simp

theorem serverId_eq_some : r.serverId key = some id ↔
    ∃ entry, r.entries.get? key = some entry ∧ entry.serverId = some id :=
  Option.bind_eq_some_iff

theorem holds_of_serverId (known : r.serverId key = some id) : r.Holds key := by
  obtain ⟨entry, there, -⟩ := serverId_eq_some.mp known
  exact ⟨entry.params, by simp [params?, there]⟩

theorem params?_after {params : List Json} : (r.after change).params? key = some params ↔
    (change = .made params ∧ r.nextKey = key) ∨
      r.params? key = some params ∧ ¬r.Ends key change := by
  unfold params?
  rw [get?_entries_after]
  cases change with
  | none => simp [entryAfter, Ends]
  | made given =>
    by_cases hkey : r.nextKey = key <;> simp [entryAfter, Ends, hkey]
  | rejected given =>
    by_cases hkey : r.nextKey = key <;> simp [entryAfter, Ends, hkey]
  | confirmed k id =>
    by_cases hkey : k = key <;> simp [entryAfter, Ends, hkey, Function.comp_def, Entry.boundTo]
  | ended k =>
    by_cases hkey : k = key <;> simp [entryAfter, Ends, hkey]
  | parked =>
    have same (entry : Entry) : (Entry.parkedIfConfirmed entry).params = entry.params := by
      unfold Entry.parkedIfConfirmed
      split <;> rfl
    simp [entryAfter, Ends, same]
  | cleared => simp [entryAfter, Ends]

theorem serverId_after : (r.after change).serverId key = some id ↔
    (change = .confirmed key id ∧ r.Holds key) ∨
      r.serverId key = some id ∧ ¬r.Ends key change ∧ change ≠ .parked ∧
        ∀ other, change ≠ .confirmed key other := by
  unfold serverId Holds params?
  rw [get?_entries_after]
  cases change with
  | none => simp [entryAfter, Ends]
  | made given =>
    by_cases hkey : r.nextKey = key <;> simp [entryAfter, Ends, hkey]
  | rejected given =>
    by_cases hkey : r.nextKey = key <;> simp [entryAfter, Ends, hkey]
  | confirmed k other =>
    by_cases hkey : k = key
    · subst hkey
      cases hentry : r.entries.get? k <;> simp [entryAfter, Ends, Entry.boundTo, hentry]
    · simp [entryAfter, Ends, hkey]
  | ended k =>
    by_cases hkey : k = key <;> simp [entryAfter, Ends, hkey]
  | parked =>
    have unknown (entry : Entry) : (Entry.parkedIfConfirmed entry).serverId = none := by
      unfold Entry.parkedIfConfirmed
      split
      · rfl
      · next unconfirmed => simpa using unconfirmed
    cases hentry : r.entries.get? key <;> simp [entryAfter, Ends, unknown, hentry]
  | cleared => simp [entryAfter, Ends]

theorem parks_after : (r.after change).Parks key ↔
    (change = .parked ∧ ∃ id, r.serverId key = some id) ∨
      r.Parks key ∧ ¬r.Ends key change ∧ ∀ id, change ≠ .confirmed key id := by
  unfold Parks serverId
  rw [get?_entries_after]
  cases change with
  | none => simp [entryAfter, Ends]
  | made given =>
    by_cases hkey : r.nextKey = key <;> simp [entryAfter, Ends, hkey]
  | rejected given =>
    by_cases hkey : r.nextKey = key <;> simp [entryAfter, Ends, hkey]
  | confirmed k id =>
    by_cases hkey : k = key
    · subst hkey
      simp [entryAfter, Ends, Entry.boundTo]
    · simp [entryAfter, Ends, hkey]
  | ended k =>
    by_cases hkey : k = key <;> simp [entryAfter, Ends, hkey]
  | parked =>
    cases hentry : r.entries.get? key with
    | none => simp [entryAfter, Ends, hentry]
    | some entry =>
      cases hid : entry.serverId <;>
        simp [entryAfter, Ends, Entry.parkedIfConfirmed, hentry, hid]
  | cleared => simp [entryAfter, Ends]

/-! ### Keys -/

/-- So many keys have been handed out, and every subscription has one of them. -/
structure Keyed (r : Registry) (given : Nat) : Prop where
  last : r.lastKey = UInt64.ofNat given
  held : ∀ {key}, r.Holds key → Counter.Drawn 1 given key

theorem keyed_empty : empty.Keyed 0 where
  last := rfl
  held := by
    rintro key ⟨params, there⟩
    simp [params?, empty] at there

theorem Keyed.next {given : Nat} (keyed : r.Keyed given) :
    r.nextKey = 1 + UInt64.ofNat given := by
  unfold nextKey
  rw [keyed.last, UInt64.add_comm]

theorem Keyed.after {given : Nat} (keyed : r.Keyed given) (change : Change) :
    (r.after change).Keyed (given + if change.gives then 1 else 0) := by
  constructor
  · have next : r.nextKey = UInt64.ofNat (given + 1) := by
      rw [keyed.next, UInt64.ofNat_add, UInt64.add_comm]
      rfl
    rw [lastKey_after]
    cases change with
    | made params => exact next
    | rejected params => exact next
    | _ => exact keyed.last
  · rintro key ⟨params, there⟩
    rcases params?_after.mp there with ⟨rfl, rfl⟩ | ⟨before, -⟩
    · exact ⟨given, Nat.lt_succ_self given, keyed.next⟩
    · exact (keyed.held ⟨params, before⟩).mono (by omega)

/-! ### Rows -/

theorem nodup_keys_after (distinct : r.entries.keys.Nodup) (change : Change) :
    (r.after change).entries.keys.Nodup := by
  cases change with
  | none => exact distinct
  | made params => exact Table.nodup_keys_insert distinct _ _
  | rejected params =>
    have inserted := Table.nodup_keys_insert distinct r.nextKey ⟨params, none, false⟩
    show ((r.insert params).2.remove r.nextKey).2.entries.keys.Nodup
    unfold remove
    split
    · exact inserted
    · exact Table.nodup_keys_erase inserted _
  | confirmed key id =>
    show (r.bind key id).2.entries.keys.Nodup
    unfold bind
    split
    · exact distinct
    · exact Table.nodup_keys_insert distinct _ _
  | ended key =>
    show (r.remove key).2.entries.keys.Nodup
    unfold remove
    split
    · exact distinct
    · exact Table.nodup_keys_erase distinct _
  | parked =>
    show ((r.entries.rows.map fun row => (row.1, Entry.parkedIfConfirmed row.2)).map (·.1)).Nodup
    rw [List.map_map]
    exact distinct
  | cleared => exact Table.nodup_keys_empty

theorem mem_parked (distinct : r.entries.keys.Nodup) {params : List Json} :
    (key, params) ∈ r.parked ↔ r.Parks key ∧ r.params? key = some params := by
  unfold parked Parks params?
  rw [List.mem_map]
  constructor
  · rintro ⟨⟨k, entry⟩, member, heq⟩
    obtain ⟨rfl, rfl⟩ := Prod.mk.inj heq
    obtain ⟨member, hparked⟩ := List.mem_filter.mp member
    have there := (Table.mem_rows_iff distinct).mp member
    exact ⟨⟨entry, there, hparked⟩, by simp [there]⟩
  · rintro ⟨⟨entry, there, hparked⟩, hparams⟩
    rw [there] at hparams
    refine ⟨(key, entry), List.mem_filter.mpr ⟨?_, hparked⟩, ?_⟩
    · exact Table.mem_rows_of_get? there
    · rw [← Option.some.inj hparams]

theorem nodup_keys_parked (distinct : r.entries.keys.Nodup) :
    (r.parked.map Prod.fst).Nodup := by
  unfold parked
  rw [List.map_map]
  exact (List.filter_sublist.map Prod.fst).nodup distinct

/-- The ids under which subscriptions are known, with their keys. -/
def ids (r : Registry) : List (Key × Option String) :=
  r.entries.rows.map fun row => (row.1, row.2.serverId)

theorem mem_ids_of_serverId (known : r.serverId key = some id) : (key, some id) ∈ r.ids := by
  obtain ⟨entry, there, hid⟩ := serverId_eq_some.mp known
  exact List.mem_map.mpr ⟨(key, entry), Table.mem_rows_of_get? there, by rw [hid]⟩

/-! ### Routes -/

theorem dispatch_eq_some : r.dispatch id = some key ↔
    r.routes.get? id = some key ∧ r.Holds key := by
  unfold dispatch
  rw [Option.filter_eq_some_iff, contains_iff]

theorem get?_dropRoute (routes : Table String Key) (former : Option String) (id : String) :
    (dropRoute routes former).get? id = if former = some id then none else routes.get? id := by
  cases former with
  | none => simp [dropRoute]
  | some old => simp [dropRoute, Table.get?_erase]

theorem get?_routes_remove (key : Key) (id : String) :
    (r.remove key).2.routes.get? id =
      if r.serverId key = some id then none else r.routes.get? id := by
  unfold remove serverId
  cases r.entries.get? key with
  | none => simp
  | some entry => exact get?_dropRoute _ _ _

theorem get?_routes_bind (there : r.Holds key) (id other : String) :
    (r.bind key id).2.routes.get? other =
      if id = other then some key
      else if r.serverId key = some other then none else r.routes.get? other := by
  obtain ⟨params, there⟩ := there
  obtain ⟨entry, hentry, -⟩ := Option.map_eq_some_iff.mp there
  unfold bind serverId
  rw [hentry]
  dsimp only
  rw [Table.get?_insert, get?_dropRoute]
  rfl

theorem bind_of_not_holds (gone : ¬r.Holds key) (id : String) : (r.bind key id).2 = r := by
  unfold bind
  split
  · rfl
  · next entry there => exact absurd ⟨entry.params, by simp [params?, there]⟩ gone

/-- The key that an id leads to, after a change. -/
theorem get?_routes_after (change : Change) (id : String) :
    (r.after change).routes.get? id = match change with
      | .none | .made _ | .rejected _ => r.routes.get? id
      | .confirmed key other =>
        if r.params? key = none then r.routes.get? id
        else if other = id then some key
        else if r.serverId key = some id then none else r.routes.get? id
      | .ended key => if r.serverId key = some id then none else r.routes.get? id
      | .parked | .cleared => none := by
  cases change with
  | none => rfl
  | made params => rfl
  | rejected params =>
    have unknown : (r.insert params).2.serverId r.nextKey = none := by
      show (((r.entries.insert r.nextKey ⟨params, none, false⟩).get? r.nextKey).bind _) = none
      rw [Table.get?_insert, if_pos rfl]
      rfl
    show ((r.insert params).2.remove r.nextKey).2.routes.get? id = _
    rw [get?_routes_remove, unknown]
    rfl
  | confirmed key other =>
    show (r.bind key other).2.routes.get? id = _
    by_cases there : r.Holds key
    · have hparams : r.params? key ≠ none := by
        obtain ⟨params, hparams⟩ := there
        simp [hparams]
      dsimp only
      rw [get?_routes_bind there, if_neg hparams]
    · have hparams : r.params? key = none := by
        rw [Option.eq_none_iff_forall_ne_some]
        intro params hparams
        exact there ⟨params, hparams⟩
      dsimp only
      rw [bind_of_not_holds there, if_pos hparams]
  | ended key => exact get?_routes_remove key id
  | parked => rfl
  | cleared => rfl

/-! ### Nothing comes of nothing -/

theorem remove_of_absent (absent : r.entries.get? key = none) : (r.remove key).2 = r := by
  unfold remove
  rw [absent]

theorem remove_insert (r : Registry) (params : List Json) :
    ((r.insert params).2.remove r.nextKey).2 =
      { r with entries := (r.entries.insert r.nextKey ⟨params, none, false⟩).erase r.nextKey,
               lastKey := r.nextKey } := by
  have there : (r.insert params).2.entries.get? r.nextKey = some ⟨params, none, false⟩ := by
    show (r.entries.insert r.nextKey ⟨params, none, false⟩).get? r.nextKey = _
    rw [Table.get?_insert, if_pos rfl]
  unfold remove
  rw [there]
  rfl

theorem routes_after_of_empty (empty : r.routes = .empty)
    (unconfirmed : ∀ key id, change ≠ .confirmed key id) : (r.after change).routes = .empty := by
  cases change with
  | rejected params =>
    show ((r.insert params).2.remove r.nextKey).2.routes = _
    rw [remove_insert]
    exact empty
  | confirmed key id => exact absurd rfl (unconfirmed key id)
  | ended key =>
    show (r.remove key).2.routes = _
    unfold remove
    split
    · exact empty
    · next entry _ =>
      dsimp only
      rw [empty]
      cases entry.serverId <;> rfl
  | parked => rfl
  | cleared => rfl
  | _ => exact empty

theorem entries_after_of_empty (empty : r.entries = .empty)
    (unmade : ∀ params, change ≠ .made params) : (r.after change).entries = .empty := by
  have absent (key : Key) : r.entries.get? key = none := by
    rw [empty]
    rfl
  cases change with
  | none => exact empty
  | made params => exact absurd rfl (unmade params)
  | rejected params =>
    show ((r.insert params).2.remove r.nextKey).2.entries = _
    rw [remove_insert, empty]
    simp [Table.insert, Table.erase, Table.empty, Table.putRow]
  | confirmed key id =>
    show (r.bind key id).2.entries = _
    unfold bind
    rw [absent key]
    exact empty
  | ended key =>
    show (r.remove key).2.entries = _
    rw [remove_of_absent (absent key)]
    exact empty
  | parked =>
    show r.entries.mapValues Entry.parkedIfConfirmed = _
    rw [empty]
    rfl
  | cleared => rfl

/-- Whatever id leads to a key, the node knows the subscription of the key under it. -/
def Sound (r : Registry) (key : Key) : Prop :=
  ∀ id, r.routes.get? id = some key → r.serverId key = some id

/-- A change gives a key to a new subscription while there is one under it. -/
def Regives (r : Registry) (key : Key) (change : Change) : Prop :=
  (∃ params, change = .made params ∨ change = .rejected params) ∧ r.nextKey = key ∧ r.Holds key

theorem ne_of_unknown {k : Key} (known : r.serverId key = some id)
    (elsewhere : r.serverId k ≠ some id) : k ≠ key := by
  rintro rfl
  exact elsewhere known

theorem Sound.after (sound : r.Sound key) (single : ¬r.Regives key change) :
    (r.after change).Sound key := by
  intro id route
  rw [get?_routes_after] at route
  rw [serverId_after]
  cases change with
  | none => exact .inr ⟨sound _ route, by simp [Ends], by simp, by simp⟩
  | made params =>
    have known := sound _ route
    have unused : r.nextKey ≠ key := fun hkey =>
      single ⟨⟨params, .inl rfl⟩, hkey, holds_of_serverId known⟩
    exact .inr ⟨known, by simpa [Ends] using unused, by simp, by simp⟩
  | rejected params =>
    have known := sound _ route
    have unused : r.nextKey ≠ key := fun hkey =>
      single ⟨⟨params, .inr rfl⟩, hkey, holds_of_serverId known⟩
    exact .inr ⟨known, by simpa [Ends] using unused, by simp, by simp⟩
  | confirmed k other =>
    dsimp only at route
    split at route
    · next gone =>
      have known := sound _ route
      have hne : k ≠ key := by
        rintro rfl
        obtain ⟨params, there⟩ := holds_of_serverId known
        simp [there] at gone
      exact .inr ⟨known, by simp [Ends], by simp, by simp [hne]⟩
    · next there =>
      split at route
      · next hid =>
        subst hid
        obtain rfl := Option.some.inj route
        exact .inl ⟨rfl, Option.ne_none_iff_exists'.mp there⟩
      · split at route
        · simp at route
        · next elsewhere =>
          have known := sound _ route
          have hne := ne_of_unknown known elsewhere
          exact .inr ⟨known, by simp [Ends], by simp, by simp [hne]⟩
  | ended k =>
    dsimp only at route
    split at route
    · simp at route
    · next elsewhere =>
      have known := sound _ route
      have hne := ne_of_unknown known elsewhere
      exact .inr ⟨known, by simpa [Ends] using hne, by simp, by simp⟩
  | parked => simp at route
  | cleared => simp at route

/-- An id leads to a subscription, and no other one is known under it. -/
structure Leads (r : Registry) (id : String) (key : Key) : Prop where
  dispatch : r.dispatch id = some key
  sole : ∀ {other}, r.serverId other = some id → other = key

/-- A change after which an id need not lead to the same subscription any more. -/
def Disturbs (r : Registry) (id : String) (key : Key) (change : Change) : Prop :=
  r.Ends key change ∨ change = .parked ∨
    ∃ k other, change = .confirmed k other ∧ (k = key ∨ other = id)

theorem Leads.confirmed (there : r.Holds key)
    (sole : ∀ other, r.serverId other = some id → other = key) :
    (r.after (.confirmed key id)).Leads id key where
  dispatch := by
    obtain ⟨params, hparams⟩ := there
    have still : (r.after (.confirmed key id)).Holds key :=
      ⟨params, params?_after.mpr (.inr ⟨hparams, by simp [Ends]⟩)⟩
    refine dispatch_eq_some.mpr ⟨?_, still⟩
    rw [get?_routes_after]
    simp [hparams]
  sole := by
    intro other known
    rcases serverId_after.mp known with ⟨heq, -⟩ | ⟨before, -⟩
    · exact (Change.confirmed.inj heq).1.symm
    · exact sole other before

theorem Leads.after (leads : r.Leads id key) (calm : ¬r.Disturbs id key change) :
    (r.after change).Leads id key := by
  obtain ⟨stays, connected, others⟩ : ¬r.Ends key change ∧ change ≠ .parked ∧
      ∀ k other, change = .confirmed k other → k ≠ key ∧ other ≠ id := by
    simpa [Disturbs, not_or] using calm
  obtain ⟨route, params, hparams⟩ := dispatch_eq_some.mp leads.dispatch
  constructor
  · refine dispatch_eq_some.mpr ⟨?_, params, params?_after.mpr (.inr ⟨hparams, stays⟩)⟩
    rw [get?_routes_after]
    cases change with
    | none => exact route
    | made given => exact route
    | rejected given => exact route
    | confirmed k other =>
      obtain ⟨hkey, hid⟩ := others k other rfl
      have elsewhere : r.serverId k ≠ some id := fun known => hkey (leads.sole known)
      dsimp only
      rw [if_neg hid, if_neg elsewhere, ite_self]
      exact route
    | ended k =>
      have elsewhere : r.serverId k ≠ some id := fun known => stays (leads.sole known)
      dsimp only
      rw [if_neg elsewhere]
      exact route
    | parked => exact absurd rfl connected
    | cleared => exact absurd trivial stays
  · intro other known
    rcases serverId_after.mp known with ⟨heq, -⟩ | ⟨before, -⟩
    · exact absurd rfl (others other id heq).2
    · exact leads.sole before

end Registry
end NodeCall.Socket
