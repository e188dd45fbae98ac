import NodeCall.Proofs.Json.Printing

/-!
# Envelopes there and back

A request that is written as text and decoded again is the same request, and a response the same
response but for members that are `null`: they count as left out.  What a caller or a node puts into
an envelope as it likes (parameters, results, the data of an error) has to be read back from its own
text, and the envelope must not nest deeper than a text may.
-/

namespace NodeCall

open Json (Place)
open Json.Document (Source)

/-! ### Taking the members that were written -/

namespace Json

variable {δ : Type} {schema : Schema Place δ} {depth : Nat} {name : String} {v : Json}
  {members others : List (String × Json)} {draft next last : δ}

/-- The members of an object as they are read from its text. -/
def printed (depth : Nat) (members : List (String × Json)) :
    List (Except Fault String × Place) :=
  members.map fun m => (.ok m.1, ⟨depth, m.2.tree⟩)

theorem view_object (depth : Nat) (members : List (String × Json)) :
    Source.view (Place.mk (depth + 1) (Json.object members).tree) =
      .members (printed depth members) none := by
  have same : (treeMembers members).map (fun m => (m.1.value, Place.mk depth m.2)) =
      printed depth members := by
    induction members with
    | nil => rfl
    | cons member rest ih =>
      obtain ⟨k, v⟩ := member
      rw [treeMembers, List.map_cons, ih]
      rfl
  show Place.view ⟨depth + 1, .object (treeMembers members) none⟩ = _
  rw [← same]
  rfl

/-- Taking these members turns the one unfinished record into the other. -/
def Schema.Takes (schema : Schema Place δ) (depth : Nat) (members : List (String × Json))
    (draft last : δ) : Prop :=
  ∀ rest, schema.takeMembers (printed depth members ++ rest) none draft =
    schema.takeMembers rest none last

namespace Schema.Takes

theorem nil : schema.Takes depth [] draft draft := fun _ => rfl

theorem cons (known : name ∈ schema.fields) (unset : schema.isSet name draft = false)
    (stored : schema.store name ⟨depth, v.tree⟩ draft = .ok next)
    (others : schema.Takes depth members next last) :
    schema.Takes depth ((name, v) :: members) draft last := by
  intro rest
  show schema.takeMembers ((.ok name, ⟨depth, v.tree⟩) :: (printed depth members ++ rest)) none
    draft = _
  rw [Schema.takeMembers, if_pos known, unset, if_neg Bool.false_ne_true, stored]
  exact others rest

theorem append (first : schema.Takes depth members draft next)
    (second : schema.Takes depth others next last) :
    schema.Takes depth (members ++ others) draft last := by
  intro rest
  rw [printed, List.map_append, List.append_assoc]
  exact (first _).trans (second rest)

/-- A member that is written if there is a value for it, and else left out. -/
theorem optional {α β : Type} {write : α → Json} {read : Place → Decoded β} {result : α → β}
    (put : Option β → δ) (value : Option α) (known : name ∈ schema.fields)
    (unset : schema.isSet name (put none) = false)
    (stores : ∀ place, schema.store name place (put none) = (read place).map (put ∘ some))
    (reads : ∀ a, value = some a → read ⟨depth, (write a).tree⟩ = .ok (result a)) :
    schema.Takes depth (NodeError.optionalMember name (value.map write)) (put none)
      (put (value.map result)) := by
  cases value with
  | none => exact nil
  | some a =>
    refine cons known unset ?_ nil
    rw [stores, reads a rfl]
    rfl

theorem decode {empty : δ} (takes : schema.Takes depth members empty last)
    (whole : schema.checkMembers last = .ok ()) :
    schema.decode empty ⟨depth + 1, (Json.object members).tree⟩ = .ok last := by
  have taken := takes []
  rw [List.append_nil] at taken
  rw [Schema.decode, view_object]
  show (schema.takeMembers (printed depth members) none empty >>= fun draft => _) = _
  rw [taken]
  show (schema.checkMembers last >>= fun _ => _) = _
  rw [whole]
  rfl

/-- When the other members are taken without a failure, the last one decides. -/
theorem decode_last {empty : δ} (takes : schema.Takes depth members empty draft)
    (known : name ∈ schema.fields) (unset : schema.isSet name draft = false)
    (whole : ∀ last, schema.store name ⟨depth, v.tree⟩ draft = .ok last →
      schema.checkMembers last = .ok ()) :
    schema.decode empty ⟨depth + 1, (Json.object (members ++ [(name, v)])).tree⟩ =
      schema.store name ⟨depth, v.tree⟩ draft := by
  rw [Schema.decode, view_object, printed, List.map_append]
  show (schema.takeMembers (printed depth members ++ [(.ok name, ⟨depth, v.tree⟩)]) none empty >>=
    fun draft => _) = _
  rw [takes, Schema.takeMembers, if_pos known, unset, if_neg Bool.false_ne_true]
  cases stored : schema.store name ⟨depth, v.tree⟩ draft with
  | error e => rfl
  | ok last =>
    show (schema.checkMembers last >>= fun _ => _) = _
    rw [whole last stored]
    rfl

end Schema.Takes

/-! ### Single places -/

theorem reads_of_ofText (reads : ofText v.text = .ok v) (shallow : v.depth ≤ depth) :
    Reads ⟨depth, v.tree⟩ v := by
  rw [ofText_text] at reads
  exact value_of_depth_le v reads shallow

theorem decodeInt64_number (code : Int64) :
    decodeInt64 (Place.mk depth (Json.number (.ofInt64 code)).tree) = .ok code := by
  have above := code.le_toInt
  have below : code.toInt < 0x8000000000000000 := code.toInt_lt
  have number := @number?_integerNumeral code.toInt (by omega)
  have seen : Source.view (Place.mk depth (.numeral (integerNumeral code.toInt))) =
      .number (.integer code.toInt (by omega)) := by
    show Place.view _ = _
    simp only [Place.view, number]
  rw [Number.ofInt64, tree_integer, decodeInt64, seen]
  dsimp only
  rw [if_pos below, Int64.ofInt_toInt]

/-- The value, unless it is `null`. -/
def nonNull? : Json → Option Json
  | .null => none
  | v => some v

theorem nonNull?_eq_some (there : v ≠ .null) : v.nonNull? = some v := by
  cases v <;> first | rfl | exact absurd rfl there

theorem view_ne_null (there : v ≠ .null) : Source.view (Place.mk depth v.tree) ≠ .null := by
  show Place.view _ ≠ _
  cases v with
  | null => exact absurd rfl there
  | number n =>
    obtain ⟨numeral, heq⟩ := tree_number n
    rw [heq, Place.view]
    dsimp only
    cases numeral.number? <;> exact nofun
  | array items => cases depth <;> exact nofun
  | object members => cases depth <;> exact nofun
  | _ => exact nofun

theorem decodeOption_tree {α : Type} {decode : Place → Decoded α} (there : v ≠ .null) :
    decodeOption decode ⟨depth, v.tree⟩ = (decode ⟨depth, v.tree⟩).map some := by
  rw [decodeOption]
  split
  · next null => exact absurd null (view_ne_null there)
  · rfl

theorem decodeOption_value (reads : Reads ⟨depth, v.tree⟩ v) :
    decodeOption Source.value (Place.mk depth v.tree) = .ok v.nonNull? := by
  by_cases null : v = .null
  · rw [null]
    rfl
  · rw [decodeOption_tree null, reads.value, nonNull?_eq_some null]
    rfl

theorem decodeOption_value_of_ne_null (there : v ≠ .null) {r : Option Json} :
    decodeOption Source.value (Place.mk depth v.tree) = .ok r ↔
      ∃ w, v.tree.value depth = .ok w ∧ r = some w := by
  rw [decodeOption_tree there, map_eq_ok]
  exact exists_congr fun w => and_congr mapError_eq_ok eq_comm

theorem decodeOption_value_isOk :
    (∃ r, decodeOption Source.value (Place.mk depth v.tree) = .ok r) ↔
      ∃ w, v.tree.value depth = .ok w := by
  by_cases null : v = .null
  · rw [null]
    exact ⟨fun _ => ⟨.null, rfl⟩, fun _ => ⟨none, rfl⟩⟩
  · simp only [decodeOption_value_of_ne_null null]
    exact ⟨fun ⟨_, w, read, _⟩ => ⟨w, read⟩, fun ⟨w, read⟩ => ⟨some w, w, read, rfl⟩⟩

/-- A member for which any value will do, and which counts as left out if it is `null`. -/
theorem Schema.Takes.optionalValue (put : Option (Option Json) → δ) (value : Option Json)
    (known : name ∈ schema.fields) (unset : schema.isSet name (put none) = false)
    (stores : ∀ place, schema.store name place (put none) =
      (decodeOption Source.value place).map (put ∘ some))
    (reads : ∀ v, value = some v → Reads ⟨depth, v.tree⟩ v) :
    schema.Takes depth (NodeError.optionalMember name value) (put none)
      (put (value.map nonNull?)) := by
  have takes : schema.Takes depth (NodeError.optionalMember name (value.map id)) (put none)
      (put (value.map nonNull?)) :=
    optional put value known unset stores fun v there => decodeOption_value (reads v there)
  rwa [Option.map_id, id_eq] at takes

end Json

namespace RpcId

theorem plain_toJson (id : RpcId) : id.toJson.Plain := by
  cases id <;> simp [toJson, Json.ofUInt64, Json.Number.ofUInt64, Json.Plain]

theorem depth_toJson (id : RpcId) : id.toJson.depth = 0 := by
  cases id <;> rfl

theorem decode_tree (depth : Nat) (id : RpcId) :
    RpcId.decode (Place.mk depth id.toJson.tree) = .ok id :=
  Json.Reads.id (Json.value_of_plain _ id.plain_toJson (by rw [depth_toJson]; exact Nat.zero_le _))

end RpcId

/-! ### Requests -/

namespace Request

theorem depth_envelope (request : Request) :
    request.envelope.depth = request.params.depth + 1 := by
  simp [envelope, members, Json.depth, Json.depthMembers, RpcId.depth_toJson]

theorem decode_envelope {request : Request} {depth : Nat}
    (reads : Json.Reads ⟨depth, request.params.tree⟩ request.params) :
    decode (Place.mk (depth + 1) request.envelope.tree) = .ok request := by
  obtain ⟨version, method, params, id⟩ := request
  have version' : schema.store "jsonrpc" (Place.mk depth (Json.string version).tree) Draft.empty =
      .ok ⟨some version, none, none, none⟩ := rfl
  have method' : schema.store "method" (Place.mk depth (Json.string method).tree)
      ⟨some version, none, none, none⟩ = .ok ⟨some version, some method, none, none⟩ := rfl
  have params' : schema.store "params" (Place.mk depth params.tree)
      ⟨some version, some method, none, none⟩ =
        .ok ⟨some version, some method, some params, none⟩ := by
    show (Source.value (Place.mk depth params.tree) >>= fun _ => _) = _
    rw [reads.value]
    rfl
  have id' : schema.store "id" (Place.mk depth id.toJson.tree)
      ⟨some version, some method, some params, none⟩ =
        .ok ⟨some version, some method, some params, some id⟩ := by
    show (RpcId.decode (Place.mk depth id.toJson.tree) >>= fun _ => _) = _
    rw [RpcId.decode_tree]
    rfl
  have takes : schema.Takes depth (members ⟨version, method, params, id⟩) Draft.empty
      ⟨some version, some method, some params, some id⟩ :=
    .cons (by decide) rfl version' <| .cons (by decide) rfl method' <|
      .cons (by decide) rfl params' <| .cons (by decide) rfl id' .nil
  rw [decode, envelope, takes.decode rfl]
  rfl

theorem ofText_text {request : Request}
    (reads : Json.ofText request.params.text = .ok request.params)
    (shallow : request.envelope.depth ≤ Json.maxDepth) :
    ofText request.text = .ok request := by
  rw [depth_envelope] at shallow
  rw [ofText, text, Json.decodeText_text]
  exact decode_envelope (Json.reads_of_ofText reads (Nat.le_of_succ_le_succ shallow))

end Request

/-! ### Optional members -/

theorem getD_map_nonNull (value : Option Json) :
    (value.map Json.nonNull?).getD none = value.bind Json.nonNull? := by
  cases value <;> rfl

/-- How deep an optional value nests. -/
def depthOf (value : Option Json) : Nat := (value.map Json.depth).getD 0

theorem depth_le_of_depthOf {value : Option Json} {v : Json} {depth : Nat}
    (there : value = some v) (below : depthOf value ≤ depth) : v.depth ≤ depth := by
  rwa [there] at below

theorem depthMembers_append (members others : List (String × Json)) :
    Json.depthMembers (members ++ others) =
      max (Json.depthMembers members) (Json.depthMembers others) := by
  induction members with
  | nil => simp [Json.depthMembers]
  | cons member rest ih =>
    rw [List.cons_append, Json.depthMembers, Json.depthMembers, ih, Nat.max_assoc]

theorem depthMembers_optional (name : String) (value : Option Json) :
    Json.depthMembers (NodeError.optionalMember name value) = depthOf value := by
  cases value <;> simp [NodeError.optionalMember, Json.depthMembers, depthOf]

theorem depthOf_nonNull (value : Option Json) :
    depthOf (value.bind Json.nonNull?) = depthOf value := by
  rcases value with - | v
  · rfl
  · cases v <;> rfl

theorem eq_of_nonNull {value : Option Json} {v : Json}
    (there : value.bind Json.nonNull? = some v) : value = some v := by
  rcases value with - | w
  · cases there
  · cases w <;> first | exact there | cases there

theorem nonNull_idem (value : Option Json) :
    (value.bind Json.nonNull?).bind Json.nonNull? = value.bind Json.nonNull? := by
  rcases value with - | v
  · rfl
  · cases v <;> rfl

theorem nonNull_eq_self {value : Option Json} :
    value.bind Json.nonNull? = value ↔ value ≠ some .null := by
  rcases value with - | v
  · simp
  · cases v <;> simp [Json.nonNull?]

/-! ### Errors -/

namespace NodeError

/-- The error without its data if they are `null`. -/
def withoutNull (error : NodeError) : NodeError :=
  { error with data := error.data.bind Json.nonNull? }

theorem depth_envelope (error : NodeError) : error.envelope.depth = depthOf error.data + 1 := by
  simp [envelope, members, Json.depth, Json.depthMembers, depthMembers_optional]

theorem takes_head (depth : Nat) (code : Int64) (message : String) :
    schema.Takes depth [("code", .number (.ofInt64 code)), ("message", .string message)]
      Draft.empty ⟨some code, some message, none⟩ := by
  have code' : schema.store "code" (Place.mk depth (Json.number (.ofInt64 code)).tree)
      Draft.empty = .ok ⟨some code, none, none⟩ := by
    show (Json.decodeInt64 (Place.mk depth (Json.number (.ofInt64 code)).tree) >>= fun _ => _) = _
    rw [Json.decodeInt64_number]
    rfl
  have message' : schema.store "message" (Place.mk depth (Json.string message).tree)
      ⟨some code, none, none⟩ = .ok ⟨some code, some message, none⟩ := rfl
  exact .cons (by decide) rfl code' <| .cons (by decide) rfl message' .nil

theorem decode_envelope {error : NodeError} {depth : Nat}
    (reads : ∀ v, error.data = some v → Json.Reads ⟨depth, v.tree⟩ v) :
    decode (Place.mk (depth + 1) error.envelope.tree) = .ok error.withoutNull := by
  obtain ⟨code, message, data⟩ := error
  have data' : schema.Takes depth (optionalMember "data" data) ⟨some code, some message, none⟩
      ⟨some code, some message, data.map Json.nonNull?⟩ :=
    .optionalValue (Draft.mk (some code) (some message)) data (by decide) rfl
      (fun _ => rfl) reads
  have takes : schema.Takes depth (members ⟨code, message, data⟩) Draft.empty
      ⟨some code, some message, data.map Json.nonNull?⟩ :=
    (takes_head depth code message).append data'
  rw [decode, envelope, takes.decode rfl]
  show Except.ok (NodeError.mk code message ((data.map Json.nonNull?).getD none)) = _
  rw [getD_map_nonNull]
  rfl

end NodeError

/-! ### Responses -/

namespace Response

/-- The values that a node puts into a response as it likes. -/
def values (response : Response) : List Json :=
  response.result.toList ++ response.params.toList ++ (response.error.bind (·.data)).toList

/-- The response without its result, its parameters and the data of its error where they are
`null`. -/
def withoutNulls (response : Response) : Response :=
  { response with
    result := response.result.bind Json.nonNull?
    error := response.error.map NodeError.withoutNull
    params := response.params.bind Json.nonNull? }

theorem depth_envelope (response : Response) : response.envelope.depth =
    max (depthOf response.result) (max (depthOf (response.error.map NodeError.envelope))
      (depthOf response.params)) + 1 := by
  have method : depthOf (response.method.map Json.string) = 0 := by
    cases response.method <;> rfl
  simp [envelope, members, Json.depth, Json.depthMembers, depthMembers_append,
    depthMembers_optional, RpcId.depth_toJson, method]

theorem takes_head (depth : Nat) (version : String) (id : RpcId) :
    schema.Takes depth [("jsonrpc", .string version), ("id", id.toJson)] Draft.empty
      ⟨some version, some id, none, none, none, none⟩ := by
  have version' : schema.store "jsonrpc" (Place.mk depth (Json.string version).tree) Draft.empty =
      .ok ⟨some version, none, none, none, none, none⟩ := rfl
  have id' : schema.store "id" (Place.mk depth id.toJson.tree)
      ⟨some version, none, none, none, none, none⟩ =
        .ok ⟨some version, some id, none, none, none, none⟩ := by
    show (RpcId.decode (Place.mk depth id.toJson.tree) >>= fun _ => _) = _
    rw [RpcId.decode_tree]
    rfl
  exact .cons (by decide) rfl version' <| .cons (by decide) rfl id' .nil

theorem takes_error {depth : Nat} (version : Option String) (id : Option RpcId)
    (result : Option (Option Json)) (error : Option NodeError)
    (reads : ∀ e, error = some e → ∀ v, e.data = some v → Json.ofText v.text = .ok v)
    (shallow : depthOf (error.map NodeError.envelope) ≤ depth) :
    schema.Takes depth (NodeError.optionalMember "error" (error.map NodeError.envelope))
      ⟨version, id, result, none, none, none⟩
      ⟨version, id, result, error.map fun e => some e.withoutNull, none, none⟩ := by
  refine .optional (Draft.mk version id result · none none) error (by decide) rfl (fun _ => rfl)
    fun e there => ?_
  have below : e.envelope.depth ≤ depth := depth_le_of_depthOf (by rw [there]; rfl) shallow
  -- the error is an object of its own, so its data stand a level deeper than the other values
  rw [e.depth_envelope] at below
  obtain ⟨less, rfl⟩ : ∃ less, depth = less + 1 := ⟨depth - 1, by omega⟩
  have data (v : Json) (heq : e.data = some v) : Json.Reads ⟨less, v.tree⟩ v :=
    Json.reads_of_ofText (reads e there v heq)
      (depth_le_of_depthOf heq (Nat.le_of_succ_le_succ below))
  have object : e.envelope ≠ .null := nofun
  rw [Json.decodeOption_tree object, NodeError.decode_envelope data]
  rfl

theorem decode_envelope {response : Response} {depth : Nat}
    (reads : ∀ v ∈ response.values, Json.ofText v.text = .ok v)
    (shallow : response.envelope.depth ≤ depth + 1) :
    decode (Place.mk (depth + 1) response.envelope.tree) = .ok response.withoutNulls := by
  obtain ⟨version, id, result, error, method, params⟩ := response
  rw [depth_envelope] at shallow
  dsimp only at shallow
  have value {value : Option Json} (below : depthOf value ≤ depth)
      (there : ∀ v, value = some v → v ∈ values ⟨version, id, result, error, method, params⟩)
      (v : Json) (heq : value = some v) : Json.Reads ⟨depth, v.tree⟩ v :=
    Json.reads_of_ofText (reads v (there v heq)) (depth_le_of_depthOf heq below)
  have result' : schema.Takes depth (NodeError.optionalMember "result" result)
      ⟨some version, some id, none, none, none, none⟩
      ⟨some version, some id, result.map Json.nonNull?, none, none, none⟩ :=
    .optionalValue (Draft.mk (some version) (some id) · none none none) result (by decide) rfl
      (fun _ => rfl) (value (by omega) fun v there => by simp [values, there])
  have error' := @takes_error depth (some version) (some id) (result.map Json.nonNull?) error
    (fun e there v heq => reads v (by simp [values, there, heq])) (by omega)
  have method' : schema.Takes depth (NodeError.optionalMember "method" (method.map .string))
      ⟨some version, some id, result.map Json.nonNull?,
        error.map fun e => some e.withoutNull, none, none⟩
      ⟨some version, some id, result.map Json.nonNull?,
        error.map fun e => some e.withoutNull, method.map some, none⟩ :=
    .optional (Draft.mk (some version) (some id) (result.map Json.nonNull?)
      (error.map fun e => some e.withoutNull) · none) method (by decide) rfl (fun _ => rfl)
      fun _ _ => rfl
  have params' : schema.Takes depth (NodeError.optionalMember "params" params)
      ⟨some version, some id, result.map Json.nonNull?,
        error.map fun e => some e.withoutNull, method.map some, none⟩
      ⟨some version, some id, result.map Json.nonNull?,
        error.map fun e => some e.withoutNull, method.map some, params.map Json.nonNull?⟩ :=
    .optionalValue (Draft.mk (some version) (some id) (result.map Json.nonNull?)
      (error.map fun e => some e.withoutNull) (method.map some)) params (by decide) rfl
      (fun _ => rfl) (value (by omega) fun v there => by simp [values, there])
  have takes : schema.Takes depth (members ⟨version, id, result, error, method, params⟩)
      Draft.empty _ :=
    (takes_head depth version id).append (((result'.append error').append method').append params')
  rw [decode, envelope, takes.decode rfl]
  show Except.ok (Response.mk version id ((result.map Json.nonNull?).getD none)
    ((error.map fun e => some e.withoutNull).getD none) ((method.map some).getD none)
    ((params.map Json.nonNull?).getD none)) = _
  rw [getD_map_nonNull, getD_map_nonNull]
  cases error <;> cases method <;> rfl

theorem ofText_text {response : Response}
    (reads : ∀ v ∈ response.values, Json.ofText v.text = .ok v)
    (shallow : response.envelope.depth ≤ Json.maxDepth) :
    ofText response.text = .ok response.withoutNulls := by
  rw [ofText, text, Json.decodeText_text]
  exact decode_envelope reads shallow

theorem withoutNulls_eq_self {response : Response} : response.withoutNulls = response ↔
    response.result ≠ some .null ∧ response.params ≠ some .null ∧
      ∀ error, response.error = some error → error.data ≠ some .null := by
  obtain ⟨version, id, result, error, method, params⟩ := response
  have errors : error.map NodeError.withoutNull = error ↔
      ∀ e, error = some e → e.data ≠ some .null := by
    cases error with
    | none => simp
    | some e =>
      obtain ⟨code, message, data⟩ := e
      simp [NodeError.withoutNull, nonNull_eq_self]
  simp only [withoutNulls, Response.mk.injEq, true_and, nonNull_eq_self, errors]
  exact ⟨fun ⟨h, h', h''⟩ => ⟨h, h'', h'⟩, fun ⟨h, h', h''⟩ => ⟨h, h'', h'⟩⟩

theorem withoutNulls_idem (response : Response) :
    response.withoutNulls.withoutNulls = response.withoutNulls := by
  obtain ⟨version, id, result, error, method, params⟩ := response
  cases error <;> simp [withoutNulls, NodeError.withoutNull, nonNull_idem]

theorem mem_values_of_withoutNulls {response : Response} {v : Json}
    (there : v ∈ response.withoutNulls.values) : v ∈ response.values := by
  obtain ⟨version, id, result, error, method, params⟩ := response
  cases error <;>
    simp only [values, withoutNulls, List.mem_append, Option.mem_toList, Option.bind_none,
      Option.map_none, Option.map_some, Option.bind_some, NodeError.withoutNull] at there ⊢
  · exact there.imp_left (Or.imp eq_of_nonNull eq_of_nonNull)
  · exact there.imp (Or.imp eq_of_nonNull eq_of_nonNull) eq_of_nonNull

theorem depth_withoutNulls (response : Response) :
    response.withoutNulls.envelope.depth = response.envelope.depth := by
  have errors : depthOf (response.withoutNulls.error.map NodeError.envelope) =
      depthOf (response.error.map NodeError.envelope) := by
    obtain ⟨version, id, result, - | error, method, params⟩ := response
    · rfl
    · show error.withoutNull.envelope.depth = error.envelope.depth
      rw [NodeError.depth_envelope, NodeError.depth_envelope, NodeError.withoutNull,
        depthOf_nonNull]
  rw [depth_envelope, depth_envelope, errors]
  simp only [withoutNulls, depthOf_nonNull]

end Response

/-! ### Envelopes -/

/-- A request written as text is decoded as itself.  A response written as text is decoded as it is
but for result, parameters and error data that are `null`, so as itself just if there are none, and
what has been decoded once is not changed by writing and decoding it again. -/
theorem envelopes_survive_text :
    (∀ request : Request, Json.ofText request.params.text = .ok request.params →
      request.envelope.depth ≤ Json.maxDepth → Request.ofText request.text = .ok request) ∧
    ∀ response : Response, (∀ v ∈ response.values, Json.ofText v.text = .ok v) →
      response.envelope.depth ≤ Json.maxDepth →
        Response.ofText response.text = .ok response.withoutNulls ∧
        (Response.ofText response.text = .ok response ↔
          response.result ≠ some .null ∧ response.params ≠ some .null ∧
            ∀ error, response.error = some error → error.data ≠ some .null) ∧
        Response.ofText response.withoutNulls.text = .ok response.withoutNulls := by
  refine ⟨fun request reads shallow => Request.ofText_text reads shallow,
    fun response reads shallow => ?_⟩
  have once := Response.ofText_text reads shallow
  have reads' (v : Json) (there : v ∈ response.withoutNulls.values) : Json.ofText v.text = .ok v :=
    reads v (Response.mem_values_of_withoutNulls there)
  have twice := Response.ofText_text reads' (by rwa [Response.depth_withoutNulls])
  rw [Response.withoutNulls_idem] at twice
  refine ⟨once, ?_, twice⟩
  rw [once, Except.ok.injEq]
  exact Response.withoutNulls_eq_self

/-- A call under the largest number, with parameters that hold numbers and texts like them. -/
def largestIdCall : Request :=
  ⟨"1.0", "eth_call", .array [.ofUInt64 0xFFFFFFFFFFFFFFFF, .string "18446744073709551615",
    .object [("data", .string "\"0x\""), ("gas", .number (.ofInt64 (-7)))], .null],
    .number 0xFFFFFFFFFFFFFFFF⟩

/-- An answer to a text that looks like a number, with every `null` there can be. -/
def nullAnswer : Response :=
  ⟨"2.0", .text "42", some .null, some ⟨-32000, "busy", some .null⟩, none, some .null⟩

theorem envelopes_survive_text_largest_id_and_nulls :
    (Json.ofText largestIdCall.params.text = .ok largestIdCall.params ∧
      largestIdCall.envelope.depth ≤ Json.maxDepth ∧
      (∀ v ∈ nullAnswer.values, Json.ofText v.text = .ok v) ∧
      nullAnswer.envelope.depth ≤ Json.maxDepth) ∧
    Request.ofText largestIdCall.text = .ok largestIdCall ∧
    Response.ofText nullAnswer.text =
      .ok ⟨"2.0", .text "42", none, some ⟨-32000, "busy", none⟩, none, none⟩ ∧
    Response.ofText nullAnswer.text ≠ .ok nullAnswer := by
  have reads : Json.ofText largestIdCall.params.text = .ok largestIdCall.params := by
    refine Json.ofText_text_of_plain ?_ (by decide)
    simp only [largestIdCall, Json.Plain, Json.PlainItems, Json.PlainMembers, Json.ofUInt64,
      Json.Number.ofUInt64, Json.Number.ofInt64]
    decide
  have shallow : largestIdCall.envelope.depth ≤ Json.maxDepth := by decide
  have reads' : ∀ v ∈ nullAnswer.values, Json.ofText v.text = .ok v := by
    intro v there
    obtain rfl : v = .null := by simpa [nullAnswer, Response.values] using there
    exact Json.ofText_text_of_plain trivial (by decide)
  have shallow' : nullAnswer.envelope.depth ≤ Json.maxDepth := by decide
  obtain ⟨once, same, -⟩ := envelopes_survive_text.2 nullAnswer reads' shallow'
  exact ⟨⟨reads, shallow, reads', shallow'⟩,
    envelopes_survive_text.1 largestIdCall reads shallow, once,
    fun unchanged => (same.mp unchanged).1 rfl⟩

end NodeCall
