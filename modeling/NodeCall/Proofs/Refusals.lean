import NodeCall.Proofs.Executor.Calls
import NodeCall.Proofs.Fallback.Walks
import NodeCall.Proofs.Http.Final
import NodeCall.Proofs.Http.Lists
import NodeCall.Proofs.Socket.Final

/-!
# Calls that the method filter refuses

A call whose method the filter does not allow is over before it begins: it gets its error, and there
is nothing of it that anything could go back to later.  A list of requests is checked while ids are
drawn for it, but it is posted as a whole or not at all.
-/

namespace NodeCall

/-! ### Single calls -/

theorem Executor.run_of_refused {executor : Executor} {request : Request}
    (refused : executor.config.methods.allows request.method = false)
    (script : UInt32 → Request → Behaviour Response) (cancelAt : Option Nat) :
    executor.run request script cancelAt =
      let e := if cancelAt = some 0 then .cancelled else .methodNotSupported request.method
      (⟨[], 0, .error e⟩, executor) := by
  by_cases starts : cancelAt = some 0
  · rw [run, if_pos starts, if_pos starts]
  · rw [run_refused executor request script refused starts, if_neg starts]

/-- A run rejects a call: the error is all that the call brings about, the client is as it was but
for the record of a call that is over, and that record is left alone whatever happens later. -/
structure Http.Run.Rejects (run : Run) (request : Request) : Prop where
  step : run.step (.send request) =
    ⟨{ run.client with calls := run.client.calls ++ [⟨request, 0, .over⟩] },
      run.effects ++
        [.finished run.client.calls.length (.error (.methodNotSupported request.method))]⟩
  later : ∀ events, LeftAlone run.client.calls.length ⟨request, 0, .over⟩
    (run.step (.send request)) ((run.step (.send request)).steps events)

theorem Http.Run.rejects {run : Run} {request : Request}
    (refused : run.client.executor.config.methods.allows request.method = false) :
    run.Rejects request := by
  have step : run.step (.send request) =
      ⟨{ run.client with calls := run.client.calls ++ [⟨request, 0, .over⟩] }, run.effects ++
        [.finished run.client.calls.length (.error (.methodNotSupported request.method))]⟩ := by
    unfold Run.step Client.step Client.send
    simp only [Executor.check_of_refused refused]
  refine ⟨step, fun events => final ?_ rfl events⟩
  rw [step]
  exact List.getElem?_concat_length

/-- A run rejects a turn in which a caller comes with a request: the answer is all that the turn
brings about, the client is as it was but for the record of a caller that is over, and that record
is left alone whatever happens later. -/
structure Socket.Run.Rejects (run : Run) (event : Event) (request : Request) (answer : Answer) :
    Prop where
  step : run.step event =
    ⟨{ run.client with callers := run.client.callers ++ [⟨.send 0, request, .over⟩] },
      run.effects ++ [.answered run.client.callers.length answer]⟩
  later : ∀ events, LeftAlone run.client.callers.length ⟨.send 0, request, .over⟩
    (run.step event) ((run.step event).steps events)

namespace Socket.Run

variable {run : Run}

theorem rejects_of_joinOver {event : Event} {request : Request} {answer : Answer}
    (joins : run.client.step event = run.client.joinOver request answer) :
    run.Rejects event request answer := by
  have step : run.step event =
      ⟨{ run.client with callers := run.client.callers ++ [⟨.send 0, request, .over⟩] },
        run.effects ++ [.answered run.client.callers.length answer]⟩ := by
    unfold Run.step
    rw [joins]
    rfl
  refine ⟨step, fun events => final ?_ rfl events⟩
  rw [step]
  exact List.getElem?_concat_length

theorem rejects_send {request : Request}
    (refused : run.client.executor.config.methods.allows request.method = false) :
    run.Rejects (.send request) request
      (.response (.error (.methodNotSupported request.method))) := by
  refine rejects_of_joinOver ?_
  unfold Client.step Client.send
  simp only [Executor.check_of_refused refused]

theorem rejects_subscribe
    (refused : run.client.executor.config.methods.allows subscribeMethod = false)
    (params : List Json) :
    run.Rejects (.subscribe params) (.call subscribeMethod params)
      (.subscription (.error (.methodNotSupported subscribeMethod))) := by
  refine rejects_of_joinOver ?_
  unfold Client.step Client.subscribe
  simp only [Executor.check_of_refused refused]

end Socket.Run

/-- A run rejects a send: it is done at once, the order, the stats and the rankings are as they
were, and no call of a child ever finishes for it. -/
structure Fallback.Run.Rejects (config : Config) (run : Run) (method : String) : Prop where
  step : run.step config (.send method) =
    { run with sends := run.sends ++ [.done (.error (.methodNotSupported method))] }
  later : ∀ events,
    let after := run.step config (.send method)
    (after.steps config events).sends[run.sends.length]? =
        some (.done (.error (.methodNotSupported method))) ∧
      ∀ call ∈ after.calls config events, call.send ≠ run.sends.length

theorem Fallback.Run.rejects {config : Config} {run : Run} {method : String}
    (refused : config.transport.methods.allows method = false) : run.Rejects config method := by
  have step : run.step config (.send method) =
      { run with sends := run.sends ++ [.done (.error (.methodNotSupported method))] } := by
    unfold Run.step State.send
    simp only [refused, Bool.false_eq_true, if_false]
  refine ⟨step, fun events => final ?_ config events⟩
  rw [step]
  exact List.getElem?_concat_length

/-! ### Lists -/

namespace Http.Timeline

variable (t : Timeline) (requests : List Request)

def allows (request : Request) : Bool := t.client.executor.config.methods.allows request.method

/-- The first request of a list that the filter refuses. -/
def refused? : Option Request := requests.find? (!t.allows ·)

/-- The timeline when so many numbers have been drawn from the counter of its client. -/
def drawing (drawn : Nat) : Timeline :=
  { t with client := { t.client with executor := { t.client.executor with
      counter := t.client.executor.counter + UInt64.ofNat drawn } } }

/-- The requests of a list as the client prepares them. -/
def prepared : List Request := numbered t.client.executor.counter requests

/-- A list goes out as its prepared requests in order, in one POST.  An endpoint whose URL or headers
cannot be posted with announces the POST and fails to make it, and for an empty list nothing happens
at all. -/
structure PostsOnce : Prop where
  prepares : (t.client.batch requests).1 = .ok (t.prepared requests)
  goes : List.Forall₂ (GoesOutAs t.client.executor.counter (blanks requests)) requests
    (t.prepared requests)
  built : requests ≠ [] → t.client.endpoint.canPost = true →
    (t.sendList requests).2.posts = t.posts ++
      [⟨t.client.endpoint.url, t.client.endpoint.allHeaders, requestsText (t.prepared requests)⟩]
  unbuilt : requests ≠ [] → t.client.endpoint.canPost = false →
    t.sendList requests = (.error (.network "builder error"),
      (t.drawing (blanks requests)).note (.request (requestsText (t.prepared requests))))
  empty : requests = [] → t.sendList requests = (.ok [], t)

variable {t requests}

/-- What has been drawn for the requests before the refused one is all that has happened. -/
theorem sendList_of_refused {first : Request} (found : t.refused? requests = some first) :
    t.sendList requests = (.error (.methodNotSupported first.method),
      t.drawing (blanks (requests.takeWhile t.allows))) := by
  obtain ⟨refused, before, rest, rfl, allowed⟩ := List.find?_eq_some_iff_append.mp found
  replace refused : t.allows first = false := by simpa using refused
  replace allowed : ∀ request ∈ before, t.allows request = true := by simpa using allowed
  have front : (before ++ first :: rest).takeWhile t.allows = before := by
    rw [List.takeWhile_append_of_pos allowed, List.takeWhile_cons_of_neg (by simp [refused]),
      List.append_nil]
  have batched := Client.prepareAll_of_refused t.client.executor
    (fun request member => Executor.check_of_allowed (allowed request member))
    (Executor.check_of_refused refused) rest
  rw [sendList, Client.batch, batched, front]
  rfl

theorem postsOnce (allowed : t.refused? requests = none) : t.PostsOnce requests := by
  have checked : ∀ request ∈ requests, t.client.executor.check request.method = .ok () := by
    intro request member
    have passes : t.allows request = true := by
      simpa using List.find?_eq_none.mp allowed request member
    exact Executor.check_of_allowed passes
  have batched : t.client.batch requests =
      (.ok (t.prepared requests), (t.drawing (blanks requests)).client) := by
    rw [Client.batch, Client.prepareAll_of_allowed t.client.executor checked]
    rfl
  have goes := forall₂_numbered t.client.executor.counter requests
  have some (there : requests ≠ []) : t.prepared requests ≠ [] := by
    rwa [← List.length_pos_iff, prepared, ← goes.length_eq, List.length_pos_iff]
  refine ⟨congrArg Prod.fst batched, goes, fun there built => ?_, fun there unbuilt => ?_, ?_⟩
  · rw [t.posts_sendList batched, Endpoint.postsOf_eq, if_pos ⟨some there, built⟩]
    rfl
  · exact t.sendList_of_unbuilt batched (some there) unbuilt
  · rintro rfl
    rfl

end Http.Timeline

/-- Every transport answers a refused call with the error that names its method, and nothing else
comes of the call, then or later.  A list with a refused request gets the error of the first one and
is not posted; a list without one is posted once if its endpoint can post. -/
theorem refused_calls_leave_no_trace :
    (∀ (executor : Executor) (request : Request)
      (script : UInt32 → Request → Behaviour Response) (cancelAt : Option Nat),
      executor.config.methods.allows request.method = false →
      executor.run request script cancelAt =
        let e := if cancelAt = some 0 then .cancelled else .methodNotSupported request.method
        (⟨[], 0, .error e⟩, executor)) ∧
    (∀ (run : Http.Run) (request : Request),
      run.client.executor.config.methods.allows request.method = false → run.Rejects request) ∧
    (∀ (run : Socket.Run) (request : Request),
      run.client.executor.config.methods.allows request.method = false →
      run.Rejects (.send request) request
        (.response (.error (.methodNotSupported request.method)))) ∧
    (∀ (run : Socket.Run) (params : List Json),
      run.client.executor.config.methods.allows Socket.subscribeMethod = false →
      run.Rejects (.subscribe params) (.call Socket.subscribeMethod params)
        (.subscription (.error (.methodNotSupported Socket.subscribeMethod)))) ∧
    (∀ (config : Fallback.Config) (run : Fallback.Run) (method : String),
      config.transport.methods.allows method = false → run.Rejects config method) ∧
    ∀ (t : Http.Timeline) (requests : List Request),
      (∀ first, t.refused? requests = some first →
        t.sendList requests = (.error (.methodNotSupported first.method),
          t.drawing (Http.blanks (requests.takeWhile t.allows)))) ∧
      (t.refused? requests = none → t.PostsOnce requests) := by
  refine ⟨?_, ?_, ?_, ?_, ?_, ?_⟩
  · intro executor request script cancelAt refused
    exact Executor.run_of_refused refused script cancelAt
  · intro run request refused
    exact Http.Run.rejects refused
  · intro run request refused
    exact Socket.Run.rejects_send refused
  · intro run params refused
    exact Socket.Run.rejects_subscribe refused params
  · intro config run method refused
    exact Fallback.Run.rejects refused
  · intro t requests
    exact ⟨fun first => Http.Timeline.sendList_of_refused, Http.Timeline.postsOnce⟩

/-- A filter that excludes one method and subscriptions. -/
def choosy : TransportConfig :=
  { TransportConfig.ofKind .http with methods := ⟨[], ["b", Socket.subscribeMethod]⟩ }

/-- A client with such a filter, and a network that brings nothing. -/
def Http.choosyTimeline : Timeline :=
  { silentTimeline with client := { silentTimeline.client with
      executor := { silentTimeline.client.executor with config := choosy } } }

/-- The second request of three is refused, and the first one has drawn the number 1. -/
theorem refused_calls_leave_no_trace_second_of_three :
    let t := Http.choosyTimeline
    let requests : List Request := [.call "a" [], .call "b" [], .call "c" []]
    let socket : Socket.Run :=
      .connected { Socket.Config.standard with transport := choosy } "ws://[::1]/"
    let fallback : Fallback.Config := { Fallback.Config.standard with transport := choosy }
    choosy.methods.allows "b" = false ∧ choosy.methods.allows Socket.subscribeMethod = false ∧
      (Http.Run.start t.client).Rejects (.call "b" []) ∧
      socket.Rejects (.send (.call "b" [])) (.call "b" [])
        (.response (.error (.methodNotSupported "b"))) ∧
      socket.Rejects (.subscribe []) (.call Socket.subscribeMethod [])
        (.subscription (.error (.methodNotSupported Socket.subscribeMethod))) ∧
      (Fallback.Run.initial 2).Rejects fallback "b" ∧
      t.sendList requests = (.error (.methodNotSupported "b"), t.drawing 1) ∧
      (t.sendList [.call "a" [], .call "c" []]).2.posts.map (·.body) =
        ["[\x7b\"jsonrpc\":\"2.0\",\"method\":\"a\",\"params\":[],\"id\":1\x7d," ++
          "\x7b\"jsonrpc\":\"2.0\",\"method\":\"c\",\"params\":[],\"id\":2\x7d]"] := by
  intro t requests socket fallback
  have refused : choosy.methods.allows "b" = false := by decide
  have refused' : choosy.methods.allows Socket.subscribeMethod = false := by decide
  obtain ⟨-, http, send, subscribe, walk, list⟩ := refused_calls_leave_no_trace
  refine ⟨refused, refused', http _ (.call "b" []) refused, send _ (.call "b" []) refused,
    subscribe _ [] refused', walk fallback _ "b" refused, (list t requests).1 (.call "b" []) rfl, ?_⟩
  have posts := ((list t [.call "a" [], .call "c" []]).2 rfl).built (by simp) rfl
  rw [posts]
  decide +kernel

/-- A header whose name has a blank in it. -/
def Http.blankHeaderConfig : Config :=
  { loopbackConfig 3 none with headers := [("bad name", "x")] }

def Http.blankHeaderClient : Client :=
  { loopbackClient 3 none with endpoint := { (loopbackClient 3 none).endpoint with
      headers := [("bad name", "x")] } }

/-- A client for a URL that takes frames and no POSTs. -/
def Http.framesClient : Client where
  endpoint := ⟨{ loopback with scheme := "ws".toList }, "ws://[::1]/", none, [], .ofSecs 10⟩
  executor := ⟨(loopbackConfig 3 none).transport, Counter.one, "ws://[::1]/"⟩
  scheduler := none
  calls := []

theorem Http.new_blankHeader :
    Client.new "http://[::1]" blankHeaderConfig = .ok blankHeaderClient := by
  unfold Client.new
  rw [split_loopback]
  simp only [bind, Except.bind, sanitize_loopback]
  rfl

theorem Http.new_frames : Client.new "ws://[::1]" (loopbackConfig 3 none) = .ok framesClient := by
  have split : NodeCall.Endpoint.split "ws://[::1]" = .ok (framesClient.endpoint.url, none) :=
    toOption_eq_some.mp (by decide +kernel)
  have shown : NodeCall.Endpoint.sanitize framesClient.endpoint.url.text = "ws://[::1]/" := by
    decide +kernel
  unfold Client.new
  rw [split]
  simp only [bind, Except.bind, shown]
  rfl

/-- A list of allowed requests is not posted with an illegal header, and not to a URL of another
scheme. -/
theorem Http.unbuilt_list_posts_nothing :
    let requests : List Request := [.call "a" []]
    (Client.new "http://[::1]" blankHeaderConfig = .ok blankHeaderClient ∧
      let t := Timeline.new blankHeaderClient blankHeaderConfig fun _ _ => none
      t.refused? requests = none ∧ (t.sendList requests).2.posts = []) ∧
    Client.new "ws://[::1]" (loopbackConfig 3 none) = .ok framesClient ∧
      let t := Timeline.new framesClient (loopbackConfig 3 none) fun _ _ => none
      t.refused? requests = none ∧ (t.sendList requests).2.posts = [] :=
  ⟨⟨new_blankHeader, rfl, rfl⟩, new_frames, rfl, rfl⟩

end NodeCall
