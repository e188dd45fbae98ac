import NodeCall.Proofs.Rpc.RoundTrip

/-!
# Decoding a value from its text

A record is decoded from the text of a value just if it is decoded from the value, and it is the
same record.  Only the failures differ: a text with too many items ends where it should not, and a
value has a length.  Of the value it takes that its numbers are read back from their own texts and
that it nests no deeper than a text may.
-/

namespace NodeCall

open Json (Place View)
open Json.Document (Source)

namespace Json

/-! ### Values that are read back where they stand -/

/-- The value is read back from a place where so many levels may nest. -/
structure Fits (v : Json) (depth : Nat) : Prop where
  faithful : v.Faithful
  shallow : v.depth ≤ depth

section

variable {depth : Nat} {v : Json}

theorem Fits.reads (fits : v.Fits depth) : Reads ⟨depth, v.tree⟩ v :=
  value_of_faithful v fits.faithful fits.shallow

theorem fits_of_items {items : List Json} (faithful : FaithfulItems items)
    (shallow : depthItems items ≤ depth) : ∀ v ∈ items, v.Fits depth := by
  induction items with
  | nil => simp
  | cons v rest ih =>
    rw [FaithfulItems] at faithful
    rw [depthItems, Nat.max_le] at shallow
    exact List.forall_mem_cons.mpr
      ⟨⟨faithful.1, shallow.1⟩, ih faithful.2 shallow.2⟩

theorem fits_of_members {members : List (String × Json)} (faithful : FaithfulMembers members)
    (shallow : depthMembers members ≤ depth) : ∀ m ∈ members, m.2.Fits depth := by
  induction members with
  | nil => simp
  | cons member rest ih =>
    obtain ⟨k, v⟩ := member
    rw [FaithfulMembers] at faithful
    rw [depthMembers, Nat.max_le] at shallow
    exact List.forall_mem_cons.mpr
      ⟨⟨faithful.1, shallow.1⟩, ih faithful.2 shallow.2⟩

/-- What the place of a value shows is what the value shows, its parts in the same order. -/
inductive Mirrors : View Place → View Json → Prop
  | null : Mirrors .null .null
  | bool (b : Bool) : Mirrors (.bool b) (.bool b)
  | number (n : Number) : Mirrors (.number n) (.number n)
  | string (s : String) : Mirrors (.string s) (.string s)
  | items {depth : Nat} {items : List Json} (fits : ∀ v ∈ items, v.Fits depth) :
    Mirrors (.items (items.map fun v => ⟨depth, v.tree⟩) none) (.items items none)
  | members {depth : Nat} {members : List (String × Json)} (fits : ∀ m ∈ members, m.2.Fits depth) :
    Mirrors (.members (printed depth members) none) (.members (Schema.given members) none)

theorem view_array (depth : Nat) (items : List Json) :
    Source.view (Place.mk (depth + 1) (Json.array items).tree) =
      .items (items.map fun v => ⟨depth, v.tree⟩) none := by
  have same : (treeItems items).map (Place.mk depth) = items.map fun v => ⟨depth, v.tree⟩ := by
    induction items with
    | nil => rfl
    | cons v rest ih => rw [treeItems, List.map_cons, List.map_cons, ih]
  show Place.view ⟨depth + 1, .array (treeItems items) none⟩ = _
  rw [← same]
  rfl

theorem Fits.mirrors (fits : v.Fits depth) :
    Mirrors (Source.view (Place.mk depth v.tree)) (Source.view v) := by
  cases v with
  | null => exact .null
  | bool b => exact .bool b
  | string s => exact .string s
  | number n =>
    obtain ⟨numeral, heq⟩ := tree_number n
    have seen := fits.reads.sees
    rw [heq] at seen ⊢
    generalize Source.view (Place.mk depth (.numeral numeral)) = view at seen ⊢
    cases seen with
    | number n => exact .number n
  | array items =>
    obtain ⟨faithful, shallow⟩ := fits
    rw [Faithful] at faithful
    rw [Json.depth] at shallow
    obtain ⟨depth, rfl⟩ : ∃ less, depth = less + 1 := ⟨depth - 1, by omega⟩
    rw [view_array]
    exact .items (fits_of_items faithful (by omega))
  | object members =>
    obtain ⟨faithful, shallow⟩ := fits
    rw [Faithful] at faithful
    rw [Json.depth] at shallow
    obtain ⟨depth, rfl⟩ : ∃ less, depth = less + 1 := ⟨depth - 1, by omega⟩
    rw [view_object]
    exact .members (fits_of_members faithful.2 (by omega))

end

/-! ### Single places -/

/-- The two decoders succeed at the same values, with the same results. -/
def Agrees {α : Type} (decode : Place → Decoded α) (decode' : Json → Decoded α) : Prop :=
  ∀ {depth v}, v.Fits depth → (decode ⟨depth, v.tree⟩).toOption = (decode' v).toOption

section

variable {α β : Type} {decode : Place → Decoded α} {decode' : Json → Decoded α}

theorem agrees_value : Agrees Source.value Source.value := by
  intro depth v fits
  rw [fits.reads.value]
  rfl

theorem agrees_string : Agrees decodeString decodeString := by
  intro depth v fits
  have mirrors := fits.mirrors
  unfold decodeString
  generalize Source.view (Place.mk depth v.tree) = view, Source.view v = view' at mirrors ⊢
  cases mirrors with
  | number n => cases n <;> rfl
  | _ => rfl

theorem agrees_int64 : Agrees decodeInt64 decodeInt64 := by
  intro depth v fits
  have mirrors := fits.mirrors
  unfold decodeInt64
  generalize Source.view (Place.mk depth v.tree) = view, Source.view v = view' at mirrors ⊢
  cases mirrors with
  | number n => cases n <;> rfl
  | _ => rfl

theorem agrees_id : Agrees RpcId.decode RpcId.decode := by
  intro depth v fits
  unfold RpcId.decode
  rw [fits.reads.value]
  rfl

theorem Agrees.map (agrees : Agrees decode decode') (f : α → β) :
    Agrees (fun place => (decode place).map f) fun v => (decode' v).map f := by
  intro depth v fits
  rw [toOption_map, toOption_map, agrees fits]

theorem Agrees.option (agrees : Agrees decode decode') :
    Agrees (decodeOption decode) (decodeOption decode') := by
  intro depth v fits
  have mirrors := fits.mirrors
  unfold decodeOption
  generalize Source.view (Place.mk depth v.tree) = view, Source.view v = view' at mirrors ⊢
  cases mirrors with
  | null => rfl
  | _ => exact agrees.map some fits

end

/-! ### Records -/

variable {δ : Type}

/-- Two forms of one schema that store the same fields of the same values. -/
structure Schema.Agrees (schema : Schema Place δ) (schema' : Schema Json δ) : Prop where
  fields : schema'.fields = schema.fields
  required : schema'.required = schema.required
  isSet : schema'.isSet = schema.isSet
  store : ∀ key draft, Json.Agrees (schema.store key · draft) (schema'.store key · draft)

namespace Schema.Agrees

variable {schema : Schema Place δ} {schema' : Schema Json δ} (agrees : schema.Agrees schema')

include agrees

theorem takeMembers {depth : Nat} {members : List (String × Json)}
    (fits : ∀ m ∈ members, m.2.Fits depth) (draft : δ) :
    (schema.takeMembers (printed depth members) none draft).toOption =
      (schema'.takeMembers (given members) none draft).toOption := by
  induction members generalizing draft with
  | nil => rfl
  | cons member rest ih =>
    obtain ⟨key, v⟩ := member
    obtain ⟨first, fits⟩ := List.forall_mem_cons.mp fits
    show (schema.takeMembers ((.ok key, ⟨depth, v.tree⟩) :: printed depth rest) none draft).toOption =
      (schema'.takeMembers ((.ok key, v) :: given rest) none draft).toOption
    rw [Schema.takeMembers, Schema.takeMembers, agrees.fields, agrees.isSet]
    split
    · split
      · rfl
      · exact toOption_bind (agrees.store key draft first) (ih fits)
    · refine toOption_bind ?_ fun _ => ih fits draft
      show (v.tree.skip.mapError Failure.fault).toOption = _
      rw [skip_of_value v.tree depth first.reads]
      rfl

theorem takeItems {depth total total' : Nat} {items : List Json} (fits : ∀ v ∈ items, v.Fits depth)
    (fields : List String) (index : Nat) (draft : δ) :
    (schema.takeItems total fields index (items.map fun v => ⟨depth, v.tree⟩) none draft).toOption =
      (schema'.takeItems total' fields index items none draft).toOption := by
  induction fields generalizing index items draft with
  | nil => cases items <;> rfl
  | cons field fields ih =>
    cases items with
    | nil =>
      rw [List.map_nil, Schema.takeItems, Schema.takeItems, agrees.required]
      split
      · rfl
      · exact ih (List.forall_mem_nil _) index.succ draft
    | cons v rest =>
      obtain ⟨first, fits⟩ := List.forall_mem_cons.mp fits
      rw [List.map_cons, Schema.takeItems, Schema.takeItems]
      exact toOption_bind (agrees.store field draft first) (ih fits (index + 1))

theorem decode (empty : δ) : Json.Agrees (schema.decode empty) (schema'.decode empty) := by
  intro depth v fits
  have mirrors := fits.mirrors
  unfold Schema.decode
  generalize Source.view (Place.mk depth v.tree) = view, Source.view v = view' at mirrors ⊢
  cases mirrors with
  | items fits =>
    rw [agrees.fields]
    exact agrees.takeItems fits schema.fields 0 empty
  | members fits =>
    refine toOption_bind (agrees.takeMembers fits empty) fun draft => ?_
    rw [checkMembers, checkMembers, agrees.fields, agrees.required, agrees.isSet]
  | number n => cases n <;> rfl
  | _ => rfl

theorem decode_map {α : Type} (empty : δ) (finish : δ → α) :
    Json.Agrees (fun place => (schema.decode empty place).map finish)
      fun v => (schema'.decode empty v).map finish :=
  Agrees.map (agrees.decode empty) finish

end Schema.Agrees

/-- Decoding from the text of a value is decoding from its tree. -/
theorem Agrees.decodeText {α : Type} {decode : Place → Decoded α} {decode' : Json → Decoded α}
    (agrees : Agrees decode decode') {v : Json} (fits : v.Fits maxDepth) :
    (Json.decodeText decode v.text).toOption = (decode' v).toOption := by
  rw [decodeText_text]
  exact agrees fits

end Json

/-! ### The records of the protocol -/

theorem Request.schema_agrees : (Request.schema (τ := Place)).Agrees Request.schema where
  fields := rfl
  required := rfl
  isSet := rfl
  store := by
    intro key draft depth v fits
    simp only [schema]
    unfold Draft.store
    split
    · exact toOption_bind (Json.agrees_string fits) fun _ => rfl
    · exact toOption_bind (Json.agrees_string fits) fun _ => rfl
    · exact toOption_bind (Json.agrees_value fits) fun _ => rfl
    · exact toOption_bind (Json.agrees_id fits) fun _ => rfl

theorem NodeError.schema_agrees : (NodeError.schema (τ := Place)).Agrees NodeError.schema where
  fields := rfl
  required := rfl
  isSet := rfl
  store := by
    intro key draft depth v fits
    simp only [schema]
    unfold Draft.store
    split
    · exact toOption_bind (Json.agrees_int64 fits) fun _ => rfl
    · exact toOption_bind (Json.agrees_string fits) fun _ => rfl
    · exact toOption_bind (Json.agrees_value.option fits) fun _ => rfl

theorem NodeError.agrees_decode : Json.Agrees NodeError.decode NodeError.decode :=
  schema_agrees.decode_map Draft.empty Draft.error

theorem Response.schema_agrees : (Response.schema (τ := Place)).Agrees Response.schema where
  fields := rfl
  required := rfl
  isSet := rfl
  store := by
    intro key draft depth v fits
    simp only [schema]
    unfold Draft.store
    split
    · exact toOption_bind (Json.agrees_string fits) fun _ => rfl
    · exact toOption_bind (Json.agrees_id fits) fun _ => rfl
    · exact toOption_bind (Json.agrees_value.option fits) fun _ => rfl
    · exact toOption_bind (NodeError.agrees_decode.option fits) fun _ => rfl
    · exact toOption_bind (Json.agrees_string.option fits) fun _ => rfl
    · exact toOption_bind (Json.agrees_value.option fits) fun _ => rfl

theorem Notification.schema_agrees :
    (Notification.schema (τ := Place)).Agrees Notification.schema where
  fields := rfl
  required := rfl
  isSet := rfl
  store := by
    intro key draft depth v fits
    simp only [schema]
    unfold Draft.store
    split
    · exact toOption_bind (Json.agrees_string fits) fun _ => rfl
    · exact toOption_bind (Json.agrees_value fits) fun _ => rfl

/-- Every record of the protocol is decoded from the compact text of a value just if it is decoded
from the value itself, with the same result. -/
theorem text_and_value_decode_alike {v : Json} (faithful : v.Faithful)
    (shallow : v.depth ≤ Json.maxDepth) :
    (Json.decodeText RpcId.decode v.text).toOption = (RpcId.decode v).toOption ∧
    (Request.ofText v.text).toOption = (Request.ofJson v).toOption ∧
    (Response.ofText v.text).toOption = (Response.ofJson v).toOption ∧
    (NodeError.ofText v.text).toOption = (NodeError.ofJson v).toOption ∧
    (Notification.ofText v.text).toOption = (Notification.ofJson v).toOption := by
  have fits : v.Fits Json.maxDepth := ⟨faithful, shallow⟩
  have requests : Json.Agrees Request.decode Request.decode :=
    Request.schema_agrees.decode_map Request.Draft.empty Request.Draft.request
  have responses : Json.Agrees Response.decode Response.decode :=
    Response.schema_agrees.decode_map Response.Draft.empty Response.Draft.response
  have notifications : Json.Agrees Notification.decode Notification.decode :=
    Notification.schema_agrees.decode_map Notification.Draft.empty
      Notification.Draft.notification
  exact ⟨Json.agrees_id.decodeText fits, requests.decodeText fits, responses.decodeText fits,
    NodeError.agrees_decode.decodeText fits, notifications.decodeText fits⟩

/-- An answer whose error is an array, with a member that no field is for. -/
def positionalAnswer : Json :=
  .object [("error", .array [.number (.ofInt64 (-32005)), .string "slow down"]),
    ("extra", .array [.null, .object []]), ("id", .string "7"), ("result", .null)]

theorem text_and_value_decode_alike_positional :
    (positionalAnswer.Faithful ∧ positionalAnswer.depth ≤ Json.maxDepth) ∧
    (Response.ofText positionalAnswer.text).toOption =
      some ⟨"2.0", .text "7", none, some ⟨-32005, "slow down", none⟩, none, none⟩ ∧
    (Request.ofText positionalAnswer.text).toOption = none := by
  have faithful : positionalAnswer.Faithful := by
    refine Json.faithful_of_plain ?_
    simp only [positionalAnswer, Json.Plain, Json.PlainItems, Json.PlainMembers,
      Json.Number.ofInt64]
    decide
  have shallow : positionalAnswer.depth ≤ Json.maxDepth := by decide
  obtain ⟨-, request, response, -, -⟩ := text_and_value_decode_alike faithful shallow
  exact ⟨⟨faithful, shallow⟩, response.trans rfl, request.trans rfl⟩

end NodeCall
