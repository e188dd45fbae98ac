import NodeCall.Http.Endpoint
import NodeCall.Proofs.Batch.Closing
import NodeCall.Proofs.Batch.Pairing
import NodeCall.Proofs.Json.Bytes
import NodeCall.Proofs.Results

/-!
# What one element of a reply does to the others

The elements of a reply to a batch are read as a whole.  A call gets the response that carries its
number, whatever the elements for the other calls say, as long as each of them can be read as a
response.  One that cannot be read takes the reply away from every call of the batch.
-/

namespace NodeCall.Http

open Json (Tree Decoded Failure)

/-! ### The elements of an array -/

/-- Elements may nest this deep. -/
def elementDepth : Nat := Json.maxDepth - 1

def elementValue (tree : Tree) : Decoded Json := (tree.value elementDepth).mapError .fault

/-- The response that an element of an array stands for. -/
def element (tree : Tree) : Decoded Response := do Response.ofJson (← elementValue tree)

/-- What is wrong with the elements of an array: the first of them that has no value, or else the
first whose value is no response. -/
def flaw? (trees : List Tree) : Option Failure :=
  (firstError? elementValue trees).or (firstError? element trees)

/-- An answer whose status tells of success and whose body is this tree. -/
inductive Carries (tree : Tree) : Delivery → Prop
  | intro (status : UInt16) (retryAfter : Option String) (body : Body)
      (success : 200 ≤ status ∧ status < 300)
      (reads : Json.Document.ofBytes body.bytes = ⟨tree, false⟩) :
      Carries tree (.answer status retryAfter (.ok body))

theorem Carries.ofText {tree : Tree} {status : UInt16} {retryAfter : Option String} {text : String}
    (success : 200 ≤ status ∧ status < 300)
    (reads : Json.Document.ofText text.toList = ⟨tree, false⟩) :
    Carries tree (.answer status retryAfter (.ok text)) :=
  .intro status retryAfter text success ((Json.Document.ofBytes_encode text.toList).trans reads)

/-- An answer whose body is an array of these elements. -/
def ArrayReply (trees : List Tree) (delivery : Delivery) : Prop :=
  Carries (.array trees none) delivery

/-- One element stands for this response, and no other one for a response with its id. -/
def Holds (trees : List Tree) (response : Response) : Prop :=
  ∃ before own after, trees = before ++ own :: after ∧ element own = .ok response ∧
    ∀ tree ∈ before ++ after, ∀ other, element tree = .ok other → other.id ≠ response.id

theorem flaw?_eq_none {trees : List Tree} :
    flaw? trees = none ↔ ∀ tree ∈ trees, ∃ response, element tree = .ok response := by
  rw [flaw?, Option.or_eq_none_iff, firstError?_eq_none, firstError?_eq_none,
    and_iff_right_iff_imp]
  intro readable tree member
  obtain ⟨response, hresponse⟩ := readable tree member
  obtain ⟨value, hvalue, -⟩ := bind_eq_ok.mp hresponse
  exact ⟨value, hvalue⟩

theorem values_eq_mapM (trees : List Tree) :
    (Tree.values elementDepth trees).mapError Failure.fault = trees.mapM elementValue := by
  induction trees with
  | nil => rfl
  | cons tree rest ih =>
    rw [List.mapM_cons, ← ih]
    rw [Tree.values, elementValue]
    cases tree.value elementDepth with
    | error f => rfl
    | ok value => cases Tree.values elementDepth rest <;> rfl

theorem mapM_ofJson {trees : List Tree} {values : List Json}
    (read : trees.mapM elementValue = .ok values) :
    values.mapM Response.ofJson = trees.mapM element := by
  induction trees generalizing values with
  | nil =>
    obtain rfl : [] = values := Except.ok.inj read
    rfl
  | cons tree rest ih =>
    rw [List.mapM_cons] at read
    obtain ⟨value, hvalue, read⟩ := bind_eq_ok.mp read
    obtain ⟨others, hrest, read⟩ := bind_eq_ok.mp read
    obtain rfl : value :: others = values := Except.ok.inj read
    have helement : element tree = Response.ofJson value := by
      simp [element, hvalue, bind, Except.bind]
    rw [List.mapM_cons, List.mapM_cons, ih hrest, helement]

theorem ofBytes_array {bytes : List UInt8} {trees : List Tree}
    (reads : Json.Document.ofBytes bytes = ⟨.array trees none, false⟩) :
    (Json.ofBytes bytes).mapError Failure.fault = (trees.mapM elementValue).map Json.array := by
  have depth : Json.maxDepth = elementDepth + 1 := rfl
  rw [← values_eq_mapM, Json.ofBytes, Json.Document.value, reads, depth]
  dsimp only
  rw [Tree.value]
  cases Tree.values elementDepth trees <;> rfl

theorem received_of_success (endpoint : Endpoint) {status : UInt16} (retryAfter : Option String)
    (body : Body) (success : 200 ≤ status ∧ status < 300) :
    endpoint.received (.answer status retryAfter (.ok body)) = .ok body := by
  simp only [Endpoint.received, success, decide_true, Bool.and_self, if_true]
  rfl

/-- The elements of an array reply together give the first flaw or all their responses. -/
theorem responses_of_array (endpoint : Endpoint) (requests : List Request) {trees : List Tree}
    {delivery : Delivery} (reply : ArrayReply trees delivery) :
    endpoint.responses requests delivery =
      match flaw? trees with
      | some f => .error (.ofFailure f)
      | none => .ok (valuesOf element trees) := by
  obtain ⟨status, retryAfter, body, success, reads⟩ := reply
  have received := received_of_success endpoint retryAfter body success
  have opened : endpoint.responses requests (.answer status retryAfter (.ok body)) =
      (Outcome.ofDecoded ((trees.mapM elementValue).map Json.array)).bind
        (endpoint.responsesOf requests) := by
    rw [Endpoint.responses, received, ← ofBytes_array reads]
    rfl
  rw [opened, flaw?]
  cases hvalues : firstError? elementValue trees with
  | some f =>
    rw [mapM_eq_firstError?, hvalues]
    rfl
  | none =>
    have read : trees.mapM elementValue = .ok (valuesOf elementValue trees) := by
      rw [mapM_eq_firstError?, hvalues]
    have elements : endpoint.responsesOf requests (.array (valuesOf elementValue trees)) =
        .ofDecoded (trees.mapM element) := by
      rw [← mapM_ofJson read]
      exact mapM_mapError Response.ofJson TransportError.ofFailure _
    rw [read, Option.none_or]
    refine elements.trans ?_
    rw [mapM_eq_firstError?]
    cases firstError? element trees <;> rfl

/-! ### What the callers are told -/

open Batch (Item Dispatch)

/-- What a call whose response is among the elements is told. -/
def told (trees : List Tree) (response : Response) (callerId : RpcId) : Outcome Response :=
  match flaw? trees with
  | some f => .error (.ofFailure f)
  | none => .ok (response.withId callerId)

theorem lastWithId_of_holds {trees : List Tree} {response : Response}
    (holds : Holds trees response) :
    Batch.lastWithId response.id (valuesOf element trees) = some response := by
  obtain ⟨before, own, after, rfl, hown, others⟩ := holds
  have hvalues : valuesOf element (before ++ own :: after) =
      valuesOf element before ++ response :: valuesOf element after := by
    simp [valuesOf, hown, Except.toOption]
  have hlater : ∀ later ∈ (valuesOf element after).reverse, ¬ decide (later.id = response.id) := by
    intro later member
    obtain ⟨tree, htree, hlater⟩ := mem_valuesOf.mp (List.mem_reverse.mp member)
    simpa using others tree (List.mem_append_right _ htree) later hlater
  rw [Batch.lastWithId, hvalues, List.reverse_append, List.reverse_cons, List.append_assoc,
    List.find?_append, List.find?_eq_none.mpr hlater]
  simp

theorem mem_settle_of_holds {items : List Item} (distinct : (items.map (·.request.id)).Nodup)
    {call : Item} (member : call ∈ items) (endpoint : Endpoint) (requests : List Request)
    {trees : List Tree} {response : Response} {delivery : Delivery}
    (carries : response.id = call.request.id) (holds : Holds trees response)
    (reply : ArrayReply trees delivery) :
    (call.ticket, told trees response call.callerId) ∈
      Batch.settle (endpoint.responses requests delivery) items := by
  rw [responses_of_array endpoint requests reply, told]
  cases flaw? trees with
  | some f => exact List.mem_map.mpr ⟨call, member, rfl⟩
  | none =>
    have hanswer : Batch.answer (valuesOf element trees) call =
        .ok (response.withId call.callerId) := by
      rw [Batch.answer, ← carries, lastWithId_of_holds holds]
    show _ ∈ Batch.pair (valuesOf element trees) items
    rw [Batch.pair_eq_map distinct, ← hanswer]
    exact List.mem_map.mpr ⟨call, member, rfl⟩

theorem told_inj {trees trees' : List Tree} {response : Response} {callerId : RpcId} :
    told trees response callerId = told trees' response callerId ↔
      (flaw? trees).map TransportError.ofFailure = (flaw? trees').map TransportError.ofFailure := by
  unfold told
  cases flaw? trees <;> cases flaw? trees' <;> simp

/-- In every run of a scheduler whose batch takes an array reply, a call whose response the reply
holds is told one thing.  Two such replies tell it the same just when they have the same flaw or
none, so elements for other calls may be missing, added or errors; one that cannot be read as a
response fails the call. -/
theorem outcome_of_own_element (config : Batch.Config) (first : Counter)
    (before after : List Batch.Event) (batch : Nat) (dispatch : Dispatch) (endpoint : Endpoint)
    (call : Item) (response : Response) (short : config.batchSize ≤ UInt64.size)
    (takes : Batch.Run.Takes ((Batch.Run.initial config first).steps before) batch dispatch)
    (member : call ∈ dispatch.items) (carries : response.id = call.request.id) :
    let outcomes := fun delivery => ((Batch.Run.initial config first).steps
      (before ++ .turn batch
        (some (endpoint.responses (dispatch.items.map (·.request)) delivery)) ::
          after)).outcomesFor call.ticket
    (∀ trees delivery, ArrayReply trees delivery → Holds trees response →
      outcomes delivery = [told trees response call.callerId]) ∧
    ∀ trees delivery trees' delivery', ArrayReply trees delivery → Holds trees response →
      ArrayReply trees' delivery' → Holds trees' response →
      (outcomes delivery = outcomes delivery' ↔
        (flaw? trees).map TransportError.ofFailure =
          (flaw? trees').map TransportError.ofFailure) ∧
      ((∀ tree ∈ trees ++ trees', ∃ other, element tree = .ok other) →
        outcomes delivery = outcomes delivery') := by
  intro outcomes
  have distinct := Batch.Run.nodup_numbers_short takes.1 short
  have one : ∀ trees delivery, ArrayReply trees delivery → Holds trees response →
      outcomes delivery = [told trees response call.callerId] := by
    intro trees delivery reply holds
    apply Batch.Run.outcomesFor_of_mem ((Batch.Run.conserved_initial config first).steps _)
    rw [Batch.Run.steps_append]
    apply (Batch.Run.outcomes_prefix_steps _ after).subset
    rw [Batch.Run.step_taken takes, Batch.Run.outcomes_apply, Batch.outcomesOf_settledAll]
    exact List.mem_append_right _ (mem_settle_of_holds distinct member endpoint _ carries holds reply)
  refine ⟨one, fun trees delivery trees' delivery' reply holds reply' holds' => ?_⟩
  rw [one trees delivery reply holds, one trees' delivery' reply' holds', List.cons.injEq]
  refine ⟨(and_iff_left rfl).trans told_inj, fun readable => ⟨told_inj.mpr ?_, rfl⟩⟩
  rw [flaw?_eq_none.mpr fun tree member => readable tree (List.mem_append_left _ member),
    flaw?_eq_none.mpr fun tree member => readable tree (List.mem_append_right _ member)]

/-! ### Two calls in a batch -/

/-- Two callers chose the same id, and the task of their batch awaits the reply. -/
def pairAwaited : List Batch.Event :=
  [.schedule (.new (.number 7) "a" []), .schedule (.new (.number 7) "b" []), .turn 0 none]

def pairDispatch : Dispatch :=
  ⟨[.of 1 0 (.new (.number 7) "a" []), .of 1 1 (.new (.number 7) "b" [])], .sending⟩

def pairEndpoint : Endpoint where
  url := ⟨"http".toList, [], [], some (.domain "node".toList), none, .rooted [[]], none, none⟩
  display := "http://node/"
  credentials := none
  headers := []
  timeout := .ofSecs 10

/-- The element that answers the first of the two calls. -/
def ownElement : Tree :=
  .object [(.text "id", .numeral ⟨false, [1], none, none⟩), (.text "result", .bool true)] none

/-- An element for the second call, with a number where the error object belongs. -/
def flawedElement : Tree :=
  .object [(.text "id", .numeral ⟨false, [2], none, none⟩),
    (.text "error", .numeral ⟨false, [5], none, none⟩)] none

def lonelyReply : Delivery := .answer 200 none (.ok "[\x7b\"id\":1,\"result\":true\x7d]")

def flawedReply : Delivery :=
  .answer 200 none (.ok "[\x7b\"id\":2,\"error\":5\x7d,\x7b\"id\":1,\"result\":true\x7d]")

theorem arrayReply_lonely : ArrayReply [ownElement] lonelyReply :=
  .ofText (by decide) (by cbv)

theorem arrayReply_flawed : ArrayReply [flawedElement, ownElement] flawedReply :=
  .ofText (by decide) (by cbv)

theorem element_own : element ownElement = .ok (.success (.number 1) (.bool true)) := rfl

theorem element_flawed : element flawedElement =
    .error (.mismatch (.wrongType (.integer 5) (.record "JsonRpcError"))) := rfl

theorem holds_lonely : Holds [ownElement] (.success (.number 1) (.bool true)) :=
  ⟨[], ownElement, [], rfl, element_own, by simp⟩

theorem holds_flawed : Holds [flawedElement, ownElement] (.success (.number 1) (.bool true)) :=
  ⟨[flawedElement], ownElement, [], rfl, element_own, by simp [element_flawed]⟩

theorem takes_pair :
    Batch.Run.Takes ((Batch.Run.initial ⟨2, .zero⟩ 1).steps pairAwaited) 0 pairDispatch :=
  ⟨rfl, rfl, rfl⟩

/-- A reply without an element for the second call, and one with an element that cannot be read:
the first call gets its response from the one and an error from the other. -/
theorem outcome_of_own_element_lonely_and_flawed :
    let first := Item.of 1 0 (.new (.number 7) "a" [])
    let response := Response.success (.number 1) (.bool true)
    let outcomes := fun delivery => ((Batch.Run.initial ⟨2, .zero⟩ 1).steps
      (pairAwaited ++ .turn 0
        (some (pairEndpoint.responses (pairDispatch.items.map (·.request)) delivery)) ::
          [])).outcomesFor first.ticket
    (2 ≤ UInt64.size ∧
      Batch.Run.Takes ((Batch.Run.initial ⟨2, .zero⟩ 1).steps pairAwaited) 0 pairDispatch ∧
      first ∈ pairDispatch.items ∧ response.id = first.request.id) ∧
    (ArrayReply [ownElement] lonelyReply ∧ Holds [ownElement] response) ∧
    (ArrayReply [flawedElement, ownElement] flawedReply ∧
      Holds [flawedElement, ownElement] response) ∧
    outcomes lonelyReply = [told [ownElement] response (.number 7)] ∧
    (outcomes lonelyReply = outcomes flawedReply ↔
      (flaw? [ownElement]).map TransportError.ofFailure =
        (flaw? [flawedElement, ownElement]).map TransportError.ofFailure) := by
  intro first response outcomes
  have short : 2 ≤ UInt64.size := by decide
  have member : first ∈ pairDispatch.items := List.mem_cons_self
  have general := outcome_of_own_element ⟨2, .zero⟩ 1 pairAwaited [] 0 pairDispatch pairEndpoint
    first response short takes_pair member rfl
  exact ⟨⟨short, takes_pair, member, rfl⟩, ⟨arrayReply_lonely, holds_lonely⟩,
    ⟨arrayReply_flawed, holds_flawed⟩, general.1 _ _ arrayReply_lonely holds_lonely,
    (general.2 _ _ _ _ arrayReply_lonely holds_lonely arrayReply_flawed holds_flawed).1⟩

/-- Two array replies hold the same response for the first of two calls and differ in the element
for the second one only, yet the first call gets the response from one and an error from the
other. -/
theorem flawed_sibling_fails_call :
    let outcomes := fun delivery => ((Batch.Run.initial ⟨2, .zero⟩ 1).steps
      (pairAwaited ++ [.turn 0
        (some (pairEndpoint.responses (pairDispatch.items.map (·.request)) delivery))])).outcomesFor 0
    (ArrayReply [ownElement] lonelyReply ∧
      Holds [ownElement] (.success (.number 1) (.bool true))) ∧
    (ArrayReply [flawedElement, ownElement] flawedReply ∧
      Holds [flawedElement, ownElement] (.success (.number 1) (.bool true))) ∧
    (outcomes lonelyReply).map (·.isOk) = [true] ∧ (outcomes flawedReply).map (·.isOk) = [false] := by
  refine ⟨⟨arrayReply_lonely, holds_lonely⟩, ⟨arrayReply_flawed, holds_flawed⟩, ?_, ?_⟩
  · decide +kernel
  · decide +kernel

end NodeCall.Http
