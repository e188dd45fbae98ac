import NodeCall.Proofs.Http.Awaiting
import NodeCall.Proofs.Http.Fairness
import Mathlib

/-!
# Batching is transparent

A node answers a request by its method and parameters, and its answer can be read alone and in an
array.  A call of a client that gathers its calls into batches is then given what the same call of
a client that does not gather is given.
-/

namespace NodeCall.Http

variable {node : Node} {client : Client} {events : List Event}

/-- A client serves its calls: each one that its caller does not leave gets one outcome, the
result of its request.  What the client waits for it has asked for, and only so many times for each
call. -/
structure Serves (result : Request → Outcome Response) (perCall : Nat) (client : Client)
    (events : List Event) : Prop where
  atMost : ∀ {call request}, (sends events)[call]? = some request → .leave call ∉ events →
    ((Run.start client).steps events).outcomes call <+: [result request]
  atLast : ((Run.start client).steps events).client.Done → ∀ {call request},
    (sends events)[call]? = some request → .leave call ∉ events →
    ((Run.start client).steps events).outcomes call = [result request]
  asked : ∀ event, ((Run.start client).steps events).client.awaits event = true →
    ∃ effect ∈ ((Run.start client).steps events).effects, effect.asks event = true
  bounded : waited (.start client) events ≤ (sends events).length * perCall

theorem serves_of_calm {raw : String} {config : Config}
    (short : ∀ batch ∈ config.batch, batch.batchSize ≤ UInt64.size)
    (made : Client.new raw config = .ok client) (calm : Calm node (.start client) events) :
    Serves (client.setting.result (node.attempt client.endpoint))
      (5 * client.executor.config.retryCount.toNat + 5) client events := by
  have start : Fair node client.setting config.batch config.first [] (Run.start client) :=
    .start made
  obtain ⟨fair, spent⟩ := start.steps short calm
  rw [List.nil_append] at fair
  refine ⟨fun {call request} sent stays => ?_, fun done {call request} sent stays => ?_,
    fun event waits => asked_for made events waits, ?_⟩
  · obtain ⟨c, -, progress⟩ := fair.calls sent
    exact progress.outcomes_prefix stays
  · obtain ⟨c, there, progress⟩ := fair.calls sent
    exact progress.outcomes_of_over stays (fair.over_of_done done there)
  · have idle : (Run.start client).client.load = 0 := Client.load_of_new made
    rw [idle, Nat.zero_add] at spent
    exact Nat.le_trans (Nat.le_add_left _ _) spent

/-- A response that a call is given carries the id of its caller. -/
theorem id_of_result {setting : Setting} {request : Request} {response : Response}
    (ok : setting.result (node.attempt setting.endpoint) request = .ok response) :
    response.id = request.id := by
  unfold Setting.result at ok
  split at ok
  · unfold Setting.verdict Node.attempt at ok
    split at ok
    · cases flaw : (node.response (completed request)).error with
      | none =>
        simp only [Executor.judge, flaw, Executor.conclude, Except.ok.injEq] at ok
        rw [← ok]
        rfl
      | some error =>
        simp only [Executor.judge, flaw, Executor.conclude] at ok
        split at ok
        · rw [← Except.ok.inj ok]
          rfl
        · cases ok
    · cases ok
  · cases ok

/-- Two clients of one node and one configuration, of which one gathers its calls into batches and
the other one posts them by themselves, serve their calls with the same results, whatever the sizes
of the batches, the timers, the flushes and the order of the elements in a reply.  The ids may be
equal, but there must be ids; no attempt reaches its timeout, and no client is closed. -/
theorem batching_is_transparent (node : Node) (raw : String) (config : Config)
    (batch : Batch.Config) (gathering posting : Client) (short : batch.batchSize ≤ UInt64.size)
    (on : Client.new raw { config with batch := some batch } = .ok gathering)
    (off : Client.new raw { config with batch := none } = .ok posting)
    (events events' : List Event) (calm : Calm node (.start gathering) events)
    (calm' : Calm node (.start posting) events') :
    let batched := (Run.start gathering).steps events
    let posted := (Run.start posting).steps events'
    let result := posting.setting.result (node.attempt posting.endpoint)
    let perCall := 5 * config.transport.retryCount.toNat + 5
    Serves result perCall gathering events ∧ Serves result perCall posting events' ∧
    (∀ request response, result request = .ok response → response.id = request.id) ∧
    ∀ call call' request, (sends events)[call]? = some request →
      (sends events')[call']? = some request → .leave call ∉ events → .leave call' ∉ events' →
      batched.client.Done → posted.client.Done → batched.outcomes call = posted.outcomes call' := by
  intro batched posted result perCall
  have same : gathering =
      { posting with scheduler := some (Batch.Scheduler.new batch config.first) } := by
    have h := Client.new_eq raw { config with batch := some batch }
    rw [on, off] at h
    exact Except.ok.inj h
  have retryCount := Client.retryCount_of_new off
  have served : Serves result perCall gathering events := by
    have h := serves_of_calm (by simpa using short) on calm
    rw [same] at h ⊢
    rwa [retryCount] at h
  have served' : Serves result perCall posting events' := by
    have h := serves_of_calm (by simp) off calm'
    rwa [retryCount] at h
  refine ⟨served, served', fun request response ok => id_of_result ok, ?_⟩
  intro call call' request sent sent' stays stays' done done'
  rw [served.atLast done sent stays, served'.atLast done' sent' stays']

/-! ### A node, and clients with and without batches -/

open Json (Tree Place)

def idTree : RpcId → Tree
  | .number n => .numeral ⟨false, [n.toNat], none, none⟩
  | .text s => .word (.text s)
  | .null => .null

theorem value_idTree (depth : Nat) (id : RpcId) : (idTree id).value depth = .ok id.toJson := by
  cases id with
  | number n =>
    have bound : 0 * 10 + n.toNat < 0x10000000000000000 := by have := n.toNat_lt; omega
    have gathered : Json.gather 0x10000000000000000 0 [n.toNat] = (n.toNat, 0) := by
      rw [Json.gather, if_pos bound, Json.gather, Nat.zero_mul, Nat.zero_add]
    have fits : (-0x8000000000000000 : Int) ≤ n.toNat ∧ (n.toNat : Int) < 0x10000000000000000 := by
      omega
    have number : Json.Numeral.number? ⟨false, [n.toNat], none, none⟩ = some (.ofUInt64 n) := by
      unfold Json.Numeral.number?
      simp [gathered, fits.2, Json.Number.ofUInt64]
    simp [idTree, Tree.value, Json.Numeral.value, number, RpcId.toJson, Json.ofUInt64]
  | text s => rfl
  | null => rfl

theorem decode_idTree (depth : Nat) (id : RpcId) :
    RpcId.decode (Place.mk depth (idTree id)) = .ok id :=
  Json.Reads.id (value_idTree depth id)

theorem store_id (depth : Nat) (id : RpcId) (draft : Response.Draft) :
    Response.schema.store "id" (Place.mk depth (idTree id)) draft =
      .ok { draft with id := some id } := by
  show (do return { draft with id := some (← RpcId.decode (Place.mk depth (idTree id))) }) = _
  rw [decode_idTree]
  rfl

def yesTree (id : RpcId) : Tree :=
  .object [(.text "id", idTree id), (.text "result", .bool true)] none

theorem decode_yesTree (id : RpcId) :
    Response.decode (Place.mk Json.maxDepth (yesTree id)) = .ok (.success id (.bool true)) := by
  show ((do
    let draft ← Response.schema.takeMembers
      [(.ok "id", Place.mk _ (idTree id)), (.ok "result", Place.mk _ (.bool true))] none
      Response.Draft.empty
    Response.schema.checkMembers draft
    return draft).map Response.Draft.response) = _
  rw [Json.Schema.takeMembers, if_pos (by decide), if_neg (by decide), store_id]
  rfl

/-- A node that says yes to everything. -/
def yesNode : Node where
  answers _ _ := .success .null (.bool true)
  writes request := yesTree request.id
  wellFormed request _ := decode_yesTree request.id
  readable request _ := by
    refine ⟨.ofMembers [("id", request.id.toJson), ("result", .bool true)], ?_⟩
    simp [yesTree, elementDepth, Json.maxDepth, Tree.value, Tree.memberValues, value_idTree]
    rfl

def loopback : Url :=
  ⟨"http".toList, [], [], some (.ipv6 [0, 0, 0, 0, 0, 0, 0, 1]), none, .rooted [[]], none, none⟩

/-- The usual configuration with so many further attempts, perhaps with batches. -/
def loopbackConfig (retryCount : UInt32) (batch : Option Batch.Config) : Config :=
  { Config.standard with transport := { TransportConfig.ofKind .http with retryCount }, batch }

def loopbackClient (retryCount : UInt32) (batch : Option Batch.Config) : Client where
  endpoint := ⟨loopback, "http://[::1]/", none, [], .ofSecs 10⟩
  executor := ⟨(loopbackConfig retryCount batch).transport, Counter.one, "http://[::1]/"⟩
  scheduler := batch.map (Batch.Scheduler.new · Counter.one)
  calls := []

theorem split_loopback : NodeCall.Endpoint.split "http://[::1]" = .ok (loopback, none) :=
  toOption_eq_some.mp (by decide +kernel)

theorem sanitize_loopback : NodeCall.Endpoint.sanitize loopback.text = "http://[::1]/" := by
  decide +kernel

theorem new_loopback (retryCount : UInt32) (batch : Option Batch.Config) :
    Client.new "http://[::1]" (loopbackConfig retryCount batch) =
      .ok (loopbackClient retryCount batch) := by
  unfold Client.new
  rw [split_loopback]
  simp only [bind, Except.bind, sanitize_loopback]
  rfl

def yesTo (method : String) : Request := .new (.number 7) method []

def yesSeven : Delivery := .answer 200 none (.ok "\x7b\"id\":7,\"result\":true\x7d")

def yesBoth : Delivery :=
  .answer 200 none (.ok "[\x7b\"id\":2,\"result\":true\x7d,\x7b\"id\":1,\"result\":true\x7d]")

/-- Two calls with one id fill a batch, and its reply has the elements in the other order. -/
def bothBatched : List Event :=
  [.send (yesTo "a"), .send (yesTo "b"), .turn 0 none,
    .turn 0 (some ((loopbackClient 3 none).endpoint.responses
      [(yesTo "a").withId (.number 1), (yesTo "b").withId (.number 2)] yesBoth))]

def onePosted : List Event := [.send (yesTo "b"), .delivered 0 yesSeven]

theorem calm_batched : Calm yesNode (.start (loopbackClient 3 (some ⟨2, .zero⟩))) bothBatched := by
  have tells : yesNode.TellsAll
      [(yesTo "a").withId (.number 1), (yesTo "b").withId (.number 2)] yesBoth :=
    ⟨[yesTree (.number 2), yesTree (.number 1)], .swap _ _ [],
      .ofText (by decide) (by cbv)⟩
  exact ⟨.send _ (by decide), .send _ (by decide), .turn .nothing,
    .turn (.replied (List.mem_of_getElem? (i := 5) rfl) tells), trivial⟩

theorem calm_posted : Calm yesNode (.start (loopbackClient 3 none)) onePosted := by
  have tells : yesNode.Tells (yesTo "b") yesSeven := .ofText (by decide) (by cbv)
  exact ⟨.send _ (by decide), .delivered (List.mem_of_getElem? (i := 2) rfl) rfl tells, trivial⟩

theorem done_batched :
    ((Run.start (loopbackClient 3 (some ⟨2, .zero⟩))).steps bothBatched).client.Done :=
  Client.done_of_rests (by decide +kernel)

theorem done_posted : ((Run.start (loopbackClient 3 none)).steps onePosted).client.Done :=
  Client.done_of_rests (by decide +kernel)

/-- The second of two calls that travel together, and the same call by itself. -/
theorem batching_is_transparent_second_of_two :
    let gathering := loopbackClient 3 (some ⟨2, .zero⟩)
    let posting := loopbackClient 3 none
    (2 ≤ UInt64.size ∧
      Client.new "http://[::1]" (loopbackConfig 3 (some ⟨2, .zero⟩)) = .ok gathering ∧
      Client.new "http://[::1]" (loopbackConfig 3 none) = .ok posting ∧
      Calm yesNode (.start gathering) bothBatched ∧ Calm yesNode (.start posting) onePosted) ∧
    ((sends bothBatched)[1]? = some (yesTo "b") ∧ (sends onePosted)[0]? = some (yesTo "b") ∧
      .leave 1 ∉ bothBatched ∧ .leave 0 ∉ onePosted ∧
      ((Run.start gathering).steps bothBatched).client.Done ∧
      ((Run.start posting).steps onePosted).client.Done) ∧
    ((Run.start gathering).steps bothBatched).outcomes 1 =
      ((Run.start posting).steps onePosted).outcomes 0 := by
  intro gathering posting
  have short : 2 ≤ UInt64.size := by decide
  have stays : .leave 1 ∉ bothBatched := by simp [bothBatched]
  have stays' : .leave 0 ∉ onePosted := by simp [onePosted]
  have general := batching_is_transparent yesNode "http://[::1]" (loopbackConfig 3 none)
    ⟨2, .zero⟩ gathering posting short (new_loopback 3 _) (new_loopback 3 _) bothBatched onePosted
    calm_batched calm_posted
  exact ⟨⟨short, new_loopback 3 _, new_loopback 3 _, calm_batched, calm_posted⟩,
    ⟨rfl, rfl, stays, stays', done_batched, done_posted⟩,
    general.2.2.2 1 0 (yesTo "b") rfl rfl stays stays' done_batched done_posted⟩

/-! ### Answers that batching tells apart -/

/-- A call in a batch of its own, whose answer is this array. -/
def inBatch (among : Delivery) : Run :=
  (Run.start (loopbackClient 0 (some ⟨1, .zero⟩))).steps
    [.send (.new (.number 1) "a" []), .turn 0 none,
      .turn 0 (some ((loopbackClient 0 none).endpoint.responses [.new (.number 1) "a" []] among))]

/-- The same call with a POST of its own. -/
def byPost (alone : Delivery) : Run :=
  (Run.start (loopbackClient 0 none)).steps
    [.send (.new (.number 1) "a" []), .delivered 0 alone]

/-- A response with half of a surrogate pair in a member that no response has. -/
def unpairedTree : Tree :=
  .object [(.text "id", idTree (.number 1)), (.text "result", .bool true),
    (.text "note", .word .unpaired)] none

def unpairedAlone : Delivery :=
  .answer 200 none (.ok "\x7b\"id\":1,\"result\":true,\"note\":\"\\ud800\"\x7d")

def unpairedAmong : Delivery :=
  .answer 200 none (.ok "[\x7b\"id\":1,\"result\":true,\"note\":\"\\ud800\"\x7d]")

/-- An answer with two faults. -/
def faultyTree : Tree :=
  .object [(.text "id", idTree (.number 1)),
    (.text "jsonrpc", .numeral ⟨false, [5], none, none⟩),
    (.text "error", .numeral ⟨false, [5], none, none⟩)] none

def faultyAlone : Delivery := .answer 200 none (.ok "\x7b\"id\":1,\"jsonrpc\":5,\"error\":5\x7d")

def faultyAmong : Delivery := .answer 200 none (.ok "[\x7b\"id\":1,\"jsonrpc\":5,\"error\":5\x7d]")

def messages (outcomes : List (Outcome Response)) : List String :=
  outcomes.filterMap fun
    | .error e => some e.message
    | .ok _ => none

/-- An answer that can be read alone but is no value inside an array succeeds for a call by itself
and fails for one in a batch.  Of two faults in an answer the call by itself is told the first one
in the text, the call in a batch the first one by the names of the members. -/
theorem batching_tells_answers_apart :
    (Client.new "http://[::1]" (loopbackConfig 0 (some ⟨1, .zero⟩)) =
        .ok (loopbackClient 0 (some ⟨1, .zero⟩)) ∧
      Client.new "http://[::1]" (loopbackConfig 0 none) = .ok (loopbackClient 0 none)) ∧
    (Carries unpairedTree unpairedAlone ∧ ArrayReply [unpairedTree] unpairedAmong ∧
      ((byPost unpairedAlone).outcomes 0).map (·.isOk) = [true] ∧
      ((inBatch unpairedAmong).outcomes 0).map (·.isOk) = [false]) ∧
    Carries faultyTree faultyAlone ∧ ArrayReply [faultyTree] faultyAmong ∧
      messages ((byPost faultyAlone).outcomes 0) ≠ messages ((inBatch faultyAmong).outcomes 0) := by
  refine ⟨⟨new_loopback 0 _, new_loopback 0 _⟩, ⟨?_, ?_, ?_, ?_⟩, ?_, ?_, ?_⟩
  · exact .ofText (by decide) (by cbv)
  · exact .ofText (by decide) (by cbv)
  · decide +kernel
  · decide +kernel
  · exact .ofText (by decide) (by cbv)
  · exact .ofText (by decide) (by cbv)
  · decide +kernel

end NodeCall.Http
