import NodeCall.Proofs.Json.Members
import NodeCall.Proofs.Results
import NodeCall.Rpc.Response

/-!
# Decoding from a text and from a value

A part of a text that has a value as a whole may be decoded as it stands or from that value.  What
can be decoded from the text is decoded from the value too, with the same result.  The converse
fails: a text may name a field twice, of which the value keeps the last.
-/

namespace NodeCall.Json

/-! ### Trees that have a value -/

section

variable {depth : Nat} {tree : Tree} {items : List Tree} {key : Word}
  {members : List (Word × Tree)} {broken : Option Stop} {v : Json}

theorem ended_eq_ok {u : Unit} : ended broken = .ok u ↔ broken = none := by
  cases broken <;> simp [ended]

theorem value_array_eq_ok : (Tree.array items broken).value (depth + 1) = .ok v ↔
    broken = none ∧ ∃ vs, Tree.values depth items = .ok vs ∧ v = .array vs := by
  rw [Tree.value]
  simp only [bind_eq_ok, pure_eq_ok, ended_eq_ok, eq_comm (a := v)]
  exact ⟨fun ⟨vs, hvs, _, whole, eq⟩ => ⟨whole, vs, hvs, eq⟩,
    fun ⟨whole, vs, hvs, eq⟩ => ⟨vs, hvs, (), whole, eq⟩⟩

theorem value_object_eq_ok : (Tree.object members broken).value (depth + 1) = .ok v ↔
    broken = none ∧ ∃ vs, Tree.memberValues depth members = .ok vs ∧ v = .ofMembers vs := by
  rw [Tree.value]
  simp only [bind_eq_ok, pure_eq_ok, ended_eq_ok, eq_comm (a := v)]
  exact ⟨fun ⟨vs, hvs, _, whole, eq⟩ => ⟨whole, vs, hvs, eq⟩,
    fun ⟨whole, vs, hvs, eq⟩ => ⟨vs, hvs, (), whole, eq⟩⟩

theorem values_cons_eq_ok {vs : List Json} : Tree.values depth (tree :: items) = .ok vs ↔
    ∃ v, tree.value depth = .ok v ∧ ∃ others, Tree.values depth items = .ok others ∧
      v :: others = vs := by
  rw [Tree.values]
  simp only [bind_eq_ok, pure_eq_ok]

theorem memberValues_cons_eq_ok {vs : List (String × Json)} :
    Tree.memberValues depth ((key, tree) :: members) = .ok vs ↔
      ∃ k, key.value = .ok k ∧ ∃ v, tree.value depth = .ok v ∧
        ∃ others, Tree.memberValues depth members = .ok others ∧ (k, v) :: others = vs := by
  rw [Tree.memberValues]
  simp only [bind_eq_ok, pure_eq_ok]

end

mutual

theorem value_succ : ∀ (tree : Tree) (depth : Nat) {v : Json},
    tree.value depth = .ok v → tree.value (depth + 1) = .ok v
  | .null, _, _, h => h
  | .bool _, _, _, h => h
  | .numeral _, _, _, h => by rwa [Tree.value] at h ⊢
  | .word _, _, _, h => by rwa [Tree.value] at h ⊢
  | .cut _, _, _, h => by rw [Tree.value] at h; cases h
  | .array _ _, 0, _, h => by rw [Tree.value] at h; cases h
  | .object _ _, 0, _, h => by rw [Tree.value] at h; cases h
  | .array items _, depth + 1, _, h => by
    obtain ⟨whole, vs, hvs, eq⟩ := value_array_eq_ok.mp h
    exact value_array_eq_ok.mpr ⟨whole, vs, values_succ items depth hvs, eq⟩
  | .object members _, depth + 1, _, h => by
    obtain ⟨whole, vs, hvs, eq⟩ := value_object_eq_ok.mp h
    exact value_object_eq_ok.mpr ⟨whole, vs, memberValues_succ members depth hvs, eq⟩

theorem values_succ : ∀ (items : List Tree) (depth : Nat) {vs : List Json},
    Tree.values depth items = .ok vs → Tree.values (depth + 1) items = .ok vs
  | [], _, _, h => h
  | tree :: rest, depth, _, h => by
    obtain ⟨v, hv, others, hothers, eq⟩ := values_cons_eq_ok.mp h
    exact values_cons_eq_ok.mpr
      ⟨v, value_succ tree depth hv, others, values_succ rest depth hothers, eq⟩

theorem memberValues_succ : ∀ (members : List (Word × Tree)) (depth : Nat)
    {vs : List (String × Json)},
    Tree.memberValues depth members = .ok vs → Tree.memberValues (depth + 1) members = .ok vs
  | [], _, _, h => h
  | (_, tree) :: rest, depth, _, h => by
    obtain ⟨k, hk, v, hv, others, hothers, eq⟩ := memberValues_cons_eq_ok.mp h
    exact memberValues_cons_eq_ok.mpr
      ⟨k, hk, v, value_succ tree depth hv, others, memberValues_succ rest depth hothers, eq⟩

end

mutual

/-- What has a value can be skipped. -/
theorem skip_of_value : ∀ (tree : Tree) (depth : Nat) {v : Json},
    tree.value depth = .ok v → tree.skip = .ok ()
  | .null, _, _, _ => rfl
  | .bool _, _, _, _ => rfl
  | .numeral _, _, _, _ => rfl
  | .word _, _, _, _ => rfl
  | .cut _, _, _, h => by rw [Tree.value] at h; cases h
  | .array _ _, 0, _, h => by rw [Tree.value] at h; cases h
  | .object _ _, 0, _, h => by rw [Tree.value] at h; cases h
  | .array items _, depth + 1, _, h => by
    obtain ⟨rfl, vs, hvs, -⟩ := value_array_eq_ok.mp h
    rw [Tree.skip, skipItems_of_values items depth hvs]
    rfl
  | .object members _, depth + 1, _, h => by
    obtain ⟨rfl, vs, hvs, -⟩ := value_object_eq_ok.mp h
    rw [Tree.skip, skipMembers_of_values members depth hvs]
    rfl

theorem skipItems_of_values : ∀ (items : List Tree) (depth : Nat) {vs : List Json},
    Tree.values depth items = .ok vs → Tree.skipItems items = .ok ()
  | [], _, _, _ => rfl
  | tree :: rest, depth, _, h => by
    obtain ⟨v, hv, others, hothers, -⟩ := values_cons_eq_ok.mp h
    rw [Tree.skipItems, skip_of_value tree depth hv]
    exact skipItems_of_values rest depth hothers

theorem skipMembers_of_values : ∀ (members : List (Word × Tree)) (depth : Nat)
    {vs : List (String × Json)},
    Tree.memberValues depth members = .ok vs → Tree.skipMembers members = .ok ()
  | [], _, _, _ => rfl
  | (_, tree) :: rest, depth, _, h => by
    obtain ⟨k, -, v, hv, others, hothers, -⟩ := memberValues_cons_eq_ok.mp h
    rw [Tree.skipMembers, skip_of_value tree depth hv]
    exact skipMembers_of_values rest depth hothers

end

/-! ### A place and its value -/

open Document (Source)

/-- The place has this value. -/
def Reads (place : Place) (v : Json) : Prop := place.tree.value place.depth = .ok v

/-- A place whose value is known shows what the value shows; the members of an object may stand in
another order. -/
inductive Sees : View Place → View Json → Prop
  | null : Sees .null .null
  | bool (b : Bool) : Sees (.bool b) (.bool b)
  | number (n : Number) : Sees (.number n) (.number n)
  | string (s : String) : Sees (.string s) (.string s)
  | items {places : List Place} {values : List Json} (reads : List.Forall₂ Reads places values) :
    Sees (.items places none) (.items values none)
  | members {members : List (Except Fault String × Place)} {values : List (String × Json)}
    (reads : List.Forall₂ (fun m v => m.1 = .ok v.1 ∧ Reads m.2 v.2) members values) :
    Sees (.members members none) (.members (Schema.given (sortMembers values)) none)

variable {place : Place} {v : Json}

theorem Reads.value (reads : Reads place v) : Source.value place = .ok v :=
  mapError_eq_ok.mpr reads

theorem forall₂_of_values {depth : Nat} {items : List Tree} {vs : List Json}
    (h : Tree.values depth items = .ok vs) :
    List.Forall₂ Reads (items.map (Place.mk depth)) vs := by
  induction items generalizing vs with
  | nil =>
    obtain rfl : [] = vs := Except.ok.inj h
    exact .nil
  | cons tree rest ih =>
    obtain ⟨v, hv, others, hothers, rfl⟩ := values_cons_eq_ok.mp h
    exact .cons hv (ih hothers)

theorem forall₂_of_memberValues {depth : Nat} {members : List (Word × Tree)}
    {vs : List (String × Json)} (h : Tree.memberValues depth members = .ok vs) :
    List.Forall₂ (fun m v => m.1 = .ok v.1 ∧ Reads m.2 v.2)
      (members.map fun (key, tree) => (key.value, Place.mk depth tree)) vs := by
  induction members generalizing vs with
  | nil =>
    obtain rfl : [] = vs := Except.ok.inj h
    exact .nil
  | cons member rest ih =>
    obtain ⟨key, tree⟩ := member
    obtain ⟨k, hk, v, hv, others, hothers, rfl⟩ := memberValues_cons_eq_ok.mp h
    exact .cons ⟨hk, hv⟩ (ih hothers)

theorem Reads.sees (reads : Reads place v) : Sees (Source.view place) (Source.view v) := by
  obtain ⟨depth, tree⟩ := place
  unfold Reads at reads
  show Sees (Place.view ⟨depth, tree⟩) _
  cases tree with
  | null =>
    obtain rfl : .null = v := Except.ok.inj reads
    exact .null
  | bool b =>
    obtain rfl : .bool b = v := Except.ok.inj reads
    exact .bool b
  | numeral n =>
    have reads : n.value = .ok v := reads
    unfold Numeral.value at reads
    unfold Place.view
    cases hnumber : n.number? with
    | none => simp [hnumber] at reads
    | some number =>
      obtain rfl : .number number = v := by simpa [hnumber] using reads
      simp only [hnumber]
      exact .number number
  | word w =>
    cases w with
    | text s =>
      obtain rfl : .string s = v := Except.ok.inj reads
      exact .string s
    | unpaired => cases reads
  | array items broken =>
    cases depth with
    | zero => cases reads
    | succ depth =>
      obtain ⟨rfl, vs, hvs, rfl⟩ := value_array_eq_ok.mp reads
      exact .items (forall₂_of_values hvs)
  | object members broken =>
    cases depth with
    | zero => cases reads
    | succ depth =>
      obtain ⟨rfl, vs, hvs, rfl⟩ := value_object_eq_ok.mp reads
      exact .members (forall₂_of_memberValues hvs)
  | cut stop => cases reads

/-! ### Single places -/

/-- What the one decoder makes of a place the other one makes of its value. -/
def Follows {α : Type} (decode : Place → Decoded α) (decode' : Json → Decoded α) : Prop :=
  ∀ {place v result}, Reads place v → decode place = .ok result → decode' v = .ok result

theorem follows_value : Follows Source.value Source.value := by
  intro place v result reads decoded
  rw [reads.value] at decoded
  exact decoded

theorem follows_string : Follows decodeString decodeString := by
  intro place v result reads decoded
  have sees := reads.sees
  unfold decodeString at decoded ⊢
  generalize Source.view place = view, Source.view v = view' at sees decoded ⊢
  cases sees with
  | string s => exact decoded
  | number n => cases n <;> cases decoded
  | _ => cases decoded

theorem follows_int64 : Follows decodeInt64 decodeInt64 := by
  intro place v result reads decoded
  have sees := reads.sees
  unfold decodeInt64 at decoded ⊢
  generalize Source.view place = view, Source.view v = view' at sees decoded ⊢
  cases sees with
  | number n => cases n <;> exact decoded
  | _ => cases decoded

theorem follows_option {α : Type} {decode : Place → Decoded α} {decode' : Json → Decoded α}
    (follows : Follows decode decode') : Follows (decodeOption decode) (decodeOption decode') := by
  intro place v result reads decoded
  have sees := reads.sees
  unfold decodeOption at decoded ⊢
  generalize Source.view place = view, Source.view v = view' at sees decoded ⊢
  cases sees with
  | null => exact decoded
  | _ =>
    obtain ⟨inner, hinner, eq⟩ := map_eq_ok.mp decoded
    exact map_eq_ok.mpr ⟨inner, follows reads hinner, eq⟩

theorem ofJson?_toJson (id : RpcId) : RpcId.ofJson? id.toJson = some id := by
  cases id with
  | number n => simp [RpcId.toJson, ofUInt64, Number.ofUInt64, RpcId.ofJson?]
  | text s => rfl
  | null => rfl

/-- An id is decoded from any place that has its value. -/
theorem Reads.id {id : RpcId} (reads : Reads place id.toJson) : RpcId.decode place = .ok id := by
  rw [RpcId.decode, reads.value]
  simp only [bind, Except.bind, ofJson?_toJson]
  rfl

theorem follows_id : Follows RpcId.decode RpcId.decode := by
  intro place v result reads decoded
  unfold RpcId.decode at decoded ⊢
  rw [reads.value] at decoded
  exact decoded

/-! ### Records -/

variable {δ : Type}

/-- Two forms of one schema, of which the second one decodes what the first one decodes. -/
structure Schema.Follows (schema : Schema Place δ) (schema' : Schema Json δ) : Prop where
  fields : schema'.fields = schema.fields
  required : schema'.required = schema.required
  isSet : schema'.isSet = schema.isSet
  store : ∀ {key place v draft next}, Reads place v → schema.store key place draft = .ok next →
    schema'.store key v draft = .ok next

namespace Schema.Follows

variable {schema : Schema Place δ} {schema' : Schema Json δ} (follows : schema.Follows schema')

include follows

theorem takeMembers {members : List (Except Fault String × Place)} {values : List (String × Json)}
    (reads : List.Forall₂ (fun m v => m.1 = .ok v.1 ∧ Reads m.2 v.2) members values)
    {draft last : δ} (taken : schema.takeMembers members none draft = .ok last) :
    schema'.takeMembers (given values) none draft = .ok last := by
  induction reads generalizing draft with
  | nil => exact taken
  | @cons member value members values reads _ ih =>
    obtain ⟨read, place⟩ := member
    obtain ⟨key, v⟩ := value
    obtain ⟨rfl, reads⟩ := reads
    rw [Schema.takeMembers] at taken
    by_cases known : key ∈ schema.fields
    · rw [if_pos known] at taken
      have known' : key ∈ schema'.fields := follows.fields ▸ known
      split at taken
      · cases taken
      · next unset =>
        obtain ⟨next, hstore, taken⟩ := bind_eq_ok.mp taken
        refine (takeMembers_cons_eq_ok known').mpr ⟨?_, next, follows.store reads hstore, ih taken⟩
        rw [follows.isSet]
        simpa using unset
    · rw [if_neg known] at taken
      have unknown : key ∉ schema'.fields := follows.fields ▸ known
      obtain ⟨-, -, taken⟩ := bind_eq_ok.mp taken
      rw [takeMembers_cons_of_not unknown]
      exact ih taken

theorem takeItems {places : List Place} {values : List Json}
    (reads : List.Forall₂ Reads places values) {total total' : Nat} {fields : List String}
    {index : Nat} {draft last : δ}
    (taken : schema.takeItems total fields index places none draft = .ok last) :
    schema'.takeItems total' fields index values none draft = .ok last := by
  induction fields generalizing index places values draft with
  | nil =>
    cases reads with
    | nil => exact taken
    | cons _ _ => cases taken
  | cons field fields ih =>
    cases reads with
    | nil =>
      rw [Schema.takeItems] at taken ⊢
      rw [follows.required]
      split at taken
      · cases taken
      · next optional =>
        rw [if_neg optional]
        exact ih .nil taken
    | cons read reads =>
      rw [Schema.takeItems] at taken ⊢
      obtain ⟨next, hstore, taken⟩ := bind_eq_ok.mp taken
      exact bind_eq_ok.mpr ⟨next, follows.store read hstore, ih reads taken⟩

theorem decode (lawful : schema'.Lawful) (empty : δ) :
    Json.Follows (schema.decode empty) (schema'.decode empty) := by
  intro place v result reads decoded
  have sees := reads.sees
  unfold Schema.decode at decoded ⊢
  generalize Source.view place = view, Source.view v = view' at sees decoded ⊢
  cases sees with
  | items reads =>
    rw [follows.fields]
    exact follows.takeItems reads decoded
  | members reads =>
    obtain ⟨draft, taken, decoded⟩ := bind_eq_ok.mp decoded
    refine bind_eq_ok.mpr
      ⟨draft, takeMembers_sortMembers lawful (follows.takeMembers reads taken), ?_⟩
    rw [checkMembers, follows.fields, follows.required, follows.isSet]
    exact decoded
  | number n => cases n <;> cases decoded
  | _ => cases decoded

theorem decode_map {α : Type} (lawful : schema'.Lawful) (empty : δ) (finish : δ → α) :
    Json.Follows (fun place => (schema.decode empty place).map finish)
      fun v => (schema'.decode empty v).map finish := by
  intro place v result reads decoded
  obtain ⟨draft, hdraft, eq⟩ := map_eq_ok.mp decoded
  exact map_eq_ok.mpr ⟨draft, follows.decode lawful empty reads hdraft, eq⟩

end Schema.Follows

end Json

/-! ### Node errors and responses -/

namespace NodeError

theorem schema_follows : (schema (τ := Json.Place)).Follows schema where
  fields := rfl
  required := rfl
  isSet := rfl
  store := by
    intro key place v draft next reads stored
    simp only [schema] at stored ⊢
    unfold Draft.store at stored ⊢
    split at stored
    · obtain ⟨x, hx, eq⟩ := bind_eq_ok.mp stored
      exact bind_eq_ok.mpr ⟨x, Json.follows_int64 reads hx, eq⟩
    · obtain ⟨x, hx, eq⟩ := bind_eq_ok.mp stored
      exact bind_eq_ok.mpr ⟨x, Json.follows_string reads hx, eq⟩
    · obtain ⟨x, hx, eq⟩ := bind_eq_ok.mp stored
      exact bind_eq_ok.mpr ⟨x, Json.follows_option Json.follows_value reads hx, eq⟩

theorem schema_lawful : (schema (τ := Json)).Lawful where
  marks := by
    intro key place draft next known stored other known'
    simp only [schema, List.mem_cons, List.not_mem_nil, or_false] at known known'
    rcases known with rfl | rfl | rfl
    all_goals
      obtain ⟨x, hx, stored⟩ := bind_eq_ok.mp stored
      obtain rfl := Except.ok.inj stored
      rcases known' with rfl | rfl | rfl <;> simp [schema, Draft.isSet]
  swaps := by
    intro key other place place' draft next last known known' ne stored stored'
    simp only [schema, List.mem_cons, List.not_mem_nil, or_false] at known known'
    rcases known with rfl | rfl | rfl <;> rcases known' with rfl | rfl | rfl
    all_goals first
      | exact absurd rfl ne
      | obtain ⟨x, hx, stored⟩ := bind_eq_ok.mp stored
        obtain ⟨y, hy, stored'⟩ := bind_eq_ok.mp stored'
        obtain rfl := Except.ok.inj stored
        obtain rfl := Except.ok.inj stored'
        exact ⟨_, bind_eq_ok.mpr ⟨y, hy, rfl⟩, bind_eq_ok.mpr ⟨x, hx, rfl⟩⟩

theorem follows_decode : Json.Follows decode decode :=
  schema_follows.decode_map schema_lawful Draft.empty Draft.error

end NodeError

namespace Response

theorem schema_follows : (schema (τ := Json.Place)).Follows schema where
  fields := rfl
  required := rfl
  isSet := rfl
  store := by
    intro key place v draft next reads stored
    simp only [schema] at stored ⊢
    unfold Draft.store at stored ⊢
    split at stored
    all_goals
      obtain ⟨x, hx, eq⟩ := bind_eq_ok.mp stored
      refine bind_eq_ok.mpr ⟨x, ?_, eq⟩
    · exact Json.follows_string reads hx
    · exact Json.follows_id reads hx
    · exact Json.follows_option Json.follows_value reads hx
    · exact Json.follows_option NodeError.follows_decode reads hx
    · exact Json.follows_option Json.follows_string reads hx
    · exact Json.follows_option Json.follows_value reads hx

theorem schema_lawful : (schema (τ := Json)).Lawful where
  marks := by
    intro key place draft next known stored other known'
    simp only [schema, List.mem_cons, List.not_mem_nil, or_false] at known known'
    rcases known with rfl | rfl | rfl | rfl | rfl | rfl
    all_goals
      obtain ⟨x, hx, stored⟩ := bind_eq_ok.mp stored
      obtain rfl := Except.ok.inj stored
      rcases known' with rfl | rfl | rfl | rfl | rfl | rfl <;> simp [schema, Draft.isSet]
  swaps := by
    intro key other place place' draft next last known known' ne stored stored'
    simp only [schema, List.mem_cons, List.not_mem_nil, or_false] at known known'
    rcases known with rfl | rfl | rfl | rfl | rfl | rfl <;>
      rcases known' with rfl | rfl | rfl | rfl | rfl | rfl
    all_goals first
      | exact absurd rfl ne
      | obtain ⟨x, hx, stored⟩ := bind_eq_ok.mp stored
        obtain ⟨y, hy, stored'⟩ := bind_eq_ok.mp stored'
        obtain rfl := Except.ok.inj stored
        obtain rfl := Except.ok.inj stored'
        exact ⟨_, bind_eq_ok.mpr ⟨y, hy, rfl⟩, bind_eq_ok.mpr ⟨x, hx, rfl⟩⟩

theorem follows_decode : Json.Follows decode decode :=
  schema_follows.decode_map schema_lawful Draft.empty Draft.response

end Response

end NodeCall
