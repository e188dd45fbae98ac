import NodeCall.Http.Timeline
import NodeCall.Proofs.Http.Transparency
import NodeCall.Proofs.IdGenerator
import Mathlib.Data.List.Forall2
import Mathlib.Data.List.Nodup
import Mathlib.Tactic.ByContra

/-!
# The ids of a list of requests

A list of requests goes out as one POST.  The requests that have an id keep it, and the others draw
theirs from the counter of the client, which knows nothing of the ids that callers choose.  So the
list bears one id twice as soon as a number that is drawn for it is among the ids that it came with.
-/

namespace NodeCall

theorem RpcId.isNull_of_ne_null {id : RpcId} (chosen : id ≠ .null) : id.isNull = false := by
  cases id with
  | null => exact absurd rfl chosen
  | _ => rfl

namespace Http

variable {request : Request} {requests : List Request} {first : Counter}

/-! ### What a list goes out as -/

/-- The requests of a list as they go out, when those without an id draw from a counter. -/
def numbered (first : Counter) : List Request → List Request
  | [] => []
  | request :: rest =>
    match request.id with
    | .null => (completed request).withId (.number first) :: numbered (first + 1) rest
    | _ => completed request :: numbered first rest

/-- How many requests of a list have no id. -/
def blanks (requests : List Request) : Nat := requests.countP (·.id.isNull)

/-- The ids that callers have chosen for a list of requests. -/
def chosenIds (requests : List Request) : List RpcId :=
  (requests.map (·.id)).filter (!·.isNull)

/-- The numbers that a counter hands out next, as ids. -/
def drawnIds (first : Counter) (drawn : Nat) : List RpcId :=
  (List.range drawn).map fun index => .number (first + UInt64.ofNat index)

/-- What becomes of a request in a list that draws so many numbers. -/
structure GoesOutAs (first : Counter) (drawn : Nat) (request sent : Request) : Prop where
  method : sent.method = request.method
  params : sent.params = request.params
  kept : request.id ≠ .null → sent.id = request.id
  filled : request.id = .null →
    ∃ number, Counter.Drawn first drawn number ∧ sent.id = .number number

theorem numbered_of_null (blank : request.id = .null) (first : Counter) (rest : List Request) :
    numbered first (request :: rest) =
      (completed request).withId (.number first) :: numbered (first + 1) rest := by
  rw [numbered, blank]

theorem numbered_of_chosen (chosen : request.id ≠ .null) (first : Counter) (rest : List Request) :
    numbered first (request :: rest) = completed request :: numbered first rest := by
  cases hid : request.id with
  | null => exact absurd hid chosen
  | _ => rw [numbered, hid]

theorem blanks_of_null (blank : request.id = .null) (rest : List Request) :
    blanks (request :: rest) = blanks rest + 1 := by
  simp [blanks, blank, RpcId.isNull]

theorem blanks_of_chosen (chosen : request.id ≠ .null) (rest : List Request) :
    blanks (request :: rest) = blanks rest := by
  simp [blanks, RpcId.isNull_of_ne_null chosen]

theorem chosenIds_of_null (blank : request.id = .null) (rest : List Request) :
    chosenIds (request :: rest) = chosenIds rest := by
  simp [chosenIds, blank, RpcId.isNull]

theorem chosenIds_of_chosen (chosen : request.id ≠ .null) (rest : List Request) :
    chosenIds (request :: rest) = request.id :: chosenIds rest := by
  simp [chosenIds, RpcId.isNull_of_ne_null chosen]

theorem drawnIds_succ (first : Counter) (drawn : Nat) :
    drawnIds first (drawn + 1) = .number first :: drawnIds (first + 1) drawn := by
  simp only [drawnIds, List.range_succ_eq_map, List.map_cons, List.map_map]
  congr 1
  · simp
  · refine List.map_congr_left fun index _ => ?_
    show RpcId.number _ = RpcId.number _
    rw [Counter.add_one_next]

theorem number_mem_drawnIds {drawn : Nat} {number : UInt64} :
    RpcId.number number ∈ drawnIds first drawn ↔ Counter.Drawn first drawn number := by
  simp only [drawnIds, List.mem_map, List.mem_range, RpcId.number.injEq, Counter.Drawn, eq_comm]

/-- The numbers drawn one after another differ until the counter has come round. -/
theorem nodup_drawnIds (first : Counter) (drawn : Nat) :
    (drawnIds first drawn).Nodup ↔ drawn ≤ UInt64.size := by
  constructor
  · intro nodup
    by_contra many
    -- the counter is where it began after as many draws as there are words
    have same : first + UInt64.ofNat UInt64.size = first + UInt64.ofNat 0 := rfl
    have := (List.nodup_map_iff_inj_on List.nodup_range).mp nodup UInt64.size (by simp; omega) 0
      (by simp; omega) (congrArg RpcId.number same)
    cases this
  · intro few
    refine List.Nodup.map_on (fun index here other there same => ?_) List.nodup_range
    rw [List.mem_range] at here there
    exact Counter.number_injective first (by omega) (by omega) (RpcId.number.inj same)

/-! ### Preparing a list -/

theorem prepare_of_blank (executor : Executor) (blank : request.id = .null) :
    executor.prepare request = ((completed request).withId (.number executor.counter),
      { executor with counter := executor.counter + 1 }) := by
  unfold Executor.prepare
  rw [blank]
  rfl

/-- The allowed requests at the front of a list are completed, and the rest draws after them. -/
theorem Client.prepareAll_append (executor : Executor) {before : List Request}
    (allowed : ∀ request ∈ before, executor.check request.method = .ok ())
    (rest : List Request) :
    prepareAll executor (before ++ rest) =
      let result := prepareAll
        { executor with counter := executor.counter + UInt64.ofNat (blanks before) } rest
      (result.1.map (numbered executor.counter before ++ ·), result.2) := by
  induction before generalizing executor with
  | nil =>
    have same : executor.counter + UInt64.ofNat 0 = executor.counter := UInt64.add_zero _
    simp only [List.nil_append, blanks, List.countP_nil, same, numbered]
    generalize prepareAll executor rest = result
    obtain ⟨outcome, executor⟩ := result
    cases outcome <;> rfl
  | cons request before ih =>
    have here := allowed request List.mem_cons_self
    rw [List.cons_append, prepareAll, here]
    by_cases blank : request.id = .null
    · simp only [prepare_of_blank executor blank]
      rw [ih { executor with counter := executor.counter + 1 } fun other member =>
          allowed other (List.mem_cons_of_mem _ member),
        numbered_of_null blank, blanks_of_null blank, Counter.add_one_next]
      dsimp only
      generalize prepareAll _ rest = result
      obtain ⟨outcome, executor⟩ := result
      cases outcome <;> rfl
    · simp only [prepare_of_known executor blank]
      rw [ih executor fun other member => allowed other (List.mem_cons_of_mem _ member),
        numbered_of_chosen blank, blanks_of_chosen blank]
      dsimp only
      generalize prepareAll _ rest = result
      obtain ⟨outcome, executor⟩ := result
      cases outcome <;> rfl

theorem Client.prepareAll_of_allowed (executor : Executor)
    (allowed : ∀ request ∈ requests, executor.check request.method = .ok ()) :
    prepareAll executor requests = (.ok (numbered executor.counter requests),
      { executor with counter := executor.counter + UInt64.ofNat (blanks requests) }) := by
  have whole := prepareAll_append executor allowed []
  rw [List.append_nil] at whole
  rw [whole, prepareAll]
  exact congrArg (Prod.mk · _) (congrArg Except.ok (List.append_nil _))

theorem Client.prepareAll_of_refused (executor : Executor) {before : List Request}
    (allowed : ∀ request ∈ before, executor.check request.method = .ok ()) {e : TransportError}
    (refused : executor.check request.method = .error e) (rest : List Request) :
    prepareAll executor (before ++ request :: rest) = (.error e,
      { executor with counter := executor.counter + UInt64.ofNat (blanks before) }) := by
  rw [prepareAll_append executor allowed, prepareAll]
  have still : Executor.check
      { executor with counter := executor.counter + UInt64.ofNat (blanks before) } request.method =
        .error e := refused
  rw [still]
  rfl

theorem forall₂_numbered (first : Counter) (requests : List Request) :
    List.Forall₂ (GoesOutAs first (blanks requests)) requests (numbered first requests) := by
  induction requests generalizing first with
  | nil => exact .nil
  | cons request rest ih =>
    by_cases blank : request.id = .null
    · rw [numbered_of_null blank, blanks_of_null blank]
      refine .cons ⟨rfl, rfl, fun chosen => absurd blank chosen, fun _ => ⟨first, ?_, rfl⟩⟩ ?_
      · exact ⟨0, by omega, by simp⟩
      · refine (ih (first + 1)).imp fun other sent goes => { goes with filled := fun null => ?_ }
        obtain ⟨_, ⟨index, below, rfl⟩, eq⟩ := goes.filled null
        refine ⟨_, ⟨index + 1, by omega, ?_⟩, eq⟩
        rw [Counter.add_one_next]
    · rw [numbered_of_chosen blank, blanks_of_chosen blank]
      exact .cons ⟨rfl, rfl, fun _ => rfl, fun null => absurd null blank⟩ (ih first)

/-- A list goes out under the ids that were chosen and the numbers that are drawn for it. -/
theorem ids_numbered (first : Counter) (requests : List Request) :
    ((numbered first requests).map (·.id)).Perm
      (chosenIds requests ++ drawnIds first (blanks requests)) := by
  induction requests generalizing first with
  | nil => exact .nil
  | cons request rest ih =>
    by_cases blank : request.id = .null
    · rw [numbered_of_null blank, chosenIds_of_null blank, blanks_of_null blank, drawnIds_succ]
      exact (List.Perm.cons _ (ih (first + 1))).trans List.perm_middle.symm
    · rw [numbered_of_chosen blank, chosenIds_of_chosen blank, blanks_of_chosen blank]
      exact List.Perm.cons _ (ih first)

theorem ids_numbered_ne_null (first : Counter) (requests : List Request) :
    ∀ sent ∈ numbered first requests, sent.id ≠ .null := by
  intro sent member null
  have among := (ids_numbered first requests).mem_iff.mp (List.mem_map_of_mem member)
  rw [null, List.mem_append] at among
  rcases among with given | drawn
  · simp [chosenIds, RpcId.isNull] at given
  · simp [drawnIds] at drawn

theorem nodup_ids_numbered (first : Counter) (requests : List Request) :
    ((numbered first requests).map (·.id)).Nodup ↔
      (chosenIds requests).Nodup ∧ blanks requests ≤ UInt64.size ∧
        ∀ number, Counter.Drawn first (blanks requests) number →
          .number number ∉ chosenIds requests := by
  rw [(ids_numbered first requests).nodup_iff, List.nodup_append', nodup_drawnIds]
  refine and_congr_right fun _ => and_congr_right fun _ => ?_
  constructor
  · intro disjoint number drawn given
    exact disjoint given (number_mem_drawnIds.mpr drawn)
  · intro apart id given drawn
    obtain ⟨index, below, rfl⟩ := List.mem_map.mp drawn
    exact apart _ (number_mem_drawnIds.mp drawn) given

/-! ### The POST of a list -/

/-- The POSTs that are made for a list of requests that goes out. -/
def Endpoint.postsOf (endpoint : Endpoint) (sent : List Request) : List Post :=
  match Endpoint.listBody? sent with
  | none => []
  | some body =>
    match endpoint.post body with
    | .ok post => [post]
    | .error _ => []

theorem Timeline.posts_sendList (t : Timeline) {sent : List Request} {client : Client}
    (batched : t.client.batch requests = (.ok sent, client)) :
    (t.sendList requests).2.posts = t.posts ++ client.endpoint.postsOf sent := by
  unfold Timeline.sendList Endpoint.postsOf
  rw [batched]
  dsimp only
  cases Endpoint.listBody? sent with
  | none => exact (List.append_nil _).symm
  | some body =>
    dsimp only
    cases client.endpoint.post body with
    | error e => exact (List.append_nil _).symm
    | ok post =>
      dsimp only
      split <;> rfl

/-- A POST that is refused while it is built is announced all the same. -/
theorem Timeline.sendList_of_unbuilt (t : Timeline) {sent : List Request} {client : Client}
    (batched : t.client.batch requests = (.ok sent, client)) (some : sent ≠ [])
    (unbuilt : client.endpoint.canPost = false) :
    t.sendList requests = (.error (.network "builder error"),
      { t with client }.note (.request (requestsText sent))) := by
  have body : Endpoint.listBody? sent = .some (requestsText sent) := by
    cases sent with
    | nil => exact absurd rfl some
    | cons request rest => rfl
  unfold Timeline.sendList Endpoint.post
  simp only [batched, body, unbuilt, Bool.false_eq_true, if_false]

theorem Endpoint.postsOf_eq (endpoint : Endpoint) (sent : List Request) :
    endpoint.postsOf sent = if sent ≠ [] ∧ endpoint.canPost then
      [⟨endpoint.url, endpoint.allHeaders, requestsText sent⟩] else [] := by
  unfold Endpoint.postsOf Endpoint.listBody? Endpoint.post
  cases sent with
  | nil => simp
  | cons request rest =>
    cases endpoint.canPost <;> simp

theorem isValueChar_symbol (n : Nat) : isValueChar (Text.Base64.symbol n) = true := by
  have small : ∀ n < 62, isValueChar (Text.Base64.symbol n) = true := by decide
  rcases Nat.lt_or_ge n 62 with lt | ge
  · exact small n lt
  · unfold Text.Base64.symbol
    rw [if_neg (by omega), if_neg (by omega), if_neg (by omega)]
    split <;> rfl

theorem all_isValueChar_encode (bytes : List UInt8) :
    (Text.Base64.encode bytes).all isValueChar = true := by
  fun_induction Text.Base64.encode bytes with
  | case1 => rfl
  | case2 a => simp only [List.all_cons, isValueChar_symbol, Bool.true_and]; rfl
  | case3 a b => simp only [List.all_cons, isValueChar_symbol, Bool.true_and]; rfl
  | case4 a b c rest ih => simp only [List.all_cons, isValueChar_symbol, Bool.true_and, ih]

theorem isLegalHeader_basic (credentials : Credentials) :
    isLegalHeader ("authorization", credentials.basic) = true := by
  have name : (!"authorization".isEmpty && "authorization".toList.length ≤ 0xFFFF &&
      "authorization".toList.all isNameChar) = true := by decide
  have value : credentials.basic.toList.all isValueChar = true := by
    simp only [Credentials.basic, String.toList_append, List.all_append, String.toList_ofList,
      all_isValueChar_encode]
    decide
  exact Bool.and_eq_true_iff.mpr ⟨name, value⟩

/-- Every header of a POST can be sent, those that the endpoint adds to the configured ones too. -/
theorem Endpoint.isLegalHeader_of_post {endpoint : Endpoint} {body : String} {post : Post}
    (made : endpoint.post body = .ok post) : post.headers.all isLegalHeader = true := by
  unfold Endpoint.post at made
  split at made
  · next built =>
    obtain rfl := Except.ok.inj made
    have configured : endpoint.headers.all isLegalHeader = true :=
      (Bool.and_eq_true_iff.mp built).2
    simp only [allHeaders, List.all_cons, List.all_append, configured, List.all_map,
      Bool.true_and]
    cases endpoint.credentials with
    | none => rfl
    | some credentials => simpa using ⟨rfl, isLegalHeader_basic credentials⟩
  · cases made

theorem Endpoint.length_postsOf (endpoint : Endpoint) (sent : List Request) :
    (endpoint.postsOf sent).length =
      if sent ≠ [] ∧ endpoint.canPost then 1 else 0 := by
  rw [postsOf_eq]
  split <;> rfl

theorem Endpoint.body_of_mem_postsOf {endpoint : Endpoint} {sent : List Request} {post : Post}
    (made : post ∈ endpoint.postsOf sent) : post.body = requestsText sent := by
  rw [postsOf_eq] at made
  split at made
  · rw [List.mem_singleton.mp made]
  · cases made

/-- A list of allowed requests goes out in at most one POST, each request in its place and under the
id that was chosen for it or under a number that is drawn.  These ids differ if and only if the
chosen ones do, the counter does not come round, and no number that is drawn has been chosen. -/
theorem Timeline.ids_of_list_differ_iff (t : Timeline) (requests : List Request)
    (allowed : ∀ request ∈ requests, t.client.executor.check request.method = .ok ()) :
    let first := t.client.executor.counter
    ∃ (sent : List Request) (made : List Post),
      (t.client.batch requests).1 = .ok sent ∧
      List.Forall₂ (GoesOutAs first (blanks requests)) requests sent ∧
      (t.sendList requests).2.posts = t.posts ++ made ∧
      made.length = (if requests ≠ [] ∧ t.client.endpoint.canPost then 1 else 0) ∧
      (∀ post ∈ made, post.body = requestsText sent) ∧
      (∀ request ∈ sent, request.id ≠ .null) ∧
      ((sent.map (·.id)).Nodup ↔
        (chosenIds requests).Nodup ∧ blanks requests ≤ UInt64.size ∧
          ∀ number, Counter.Drawn first (blanks requests) number →
            .number number ∉ chosenIds requests) := by
  intro first
  have prepared := Client.prepareAll_of_allowed t.client.executor allowed
  have batched : t.client.batch requests = (.ok (numbered first requests), { t.client with
      executor := { t.client.executor with
        counter := first + UInt64.ofNat (blanks requests) } }) := by
    rw [Client.batch, prepared]
  have goes := forall₂_numbered first requests
  have some : numbered first requests ≠ [] ↔ requests ≠ [] := by
    rw [← List.length_pos_iff, ← List.length_pos_iff, goes.length_eq]
  refine ⟨numbered first requests, _, congrArg Prod.fst batched, goes, t.posts_sendList batched, ?_,
    fun post => Endpoint.body_of_mem_postsOf, ids_numbered_ne_null first requests,
    nodup_ids_numbered first requests⟩
  simp only [Endpoint.length_postsOf, some]

/-- A client that has just been made, and a network that brings nothing. -/
def silentTimeline : Timeline :=
  .new (loopbackClient 3 none) (loopbackConfig 3 none) fun _ _ => none

/-- Two requests draw 1 and 2 among a text and a number that callers have chosen. -/
theorem ids_of_list_differ_two_drawn :
    let requests := [.new (.text "1") "a" [], .call "b" [], .new (.number 3) "c" [], .call "d" []]
    (∀ request ∈ requests, silentTimeline.client.executor.check request.method = .ok ()) ∧
      ∃ sent, (silentTimeline.client.batch requests).1 = .ok sent ∧ (sent.map (·.id)).Nodup := by
  intro requests
  have allowed : ∀ request ∈ requests,
      silentTimeline.client.executor.check request.method = .ok () := fun _ _ => rfl
  obtain ⟨sent, -, batched, -, -, -, -, -, differ⟩ :=
    silentTimeline.ids_of_list_differ_iff requests allowed
  refine ⟨allowed, sent, batched, differ.mpr ⟨by decide, by decide, ?_⟩⟩
  rintro number ⟨index, below, rfl⟩
  replace below : index < 2 := below
  interval_cases index <;> decide

/-- The first number that a client draws is 1, whatever ids its callers have chosen. -/
theorem chosen_id_drawn_again :
    let requests : List Request := [.new (.number 1) "a" [], .call "b" []]
    Client.new "http://[::1]" (loopbackConfig 3 none) = .ok silentTimeline.client ∧
      (∀ request ∈ requests, silentTimeline.client.executor.check request.method = .ok ()) ∧
      (chosenIds requests).Nodup ∧
      (silentTimeline.sendList requests).2.posts.map (·.body) =
        ["[\x7b\"jsonrpc\":\"2.0\",\"method\":\"a\",\"params\":[],\"id\":1\x7d," ++
          "\x7b\"jsonrpc\":\"2.0\",\"method\":\"b\",\"params\":[],\"id\":1\x7d]"] ∧
      ∃ sent, (silentTimeline.client.batch requests).1 = .ok sent ∧ ¬(sent.map (·.id)).Nodup := by
  refine ⟨new_loopback 3 none, fun _ _ => rfl, by decide, by decide +kernel, _, rfl, by decide⟩

end Http
end NodeCall
