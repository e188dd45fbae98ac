import NodeCall.Proofs.Http.Calm

/-!
# What calls are given in a calm run

Every call of a calm run is under way, or it has been given the one result that its request has,
or its caller has left.  Each step keeps this, and what a step was waited for it takes off the load
of the client.  When nothing is waited for any more, every call is over.
-/

namespace NodeCall.Http

variable {node : Node} {setting : Setting} {batch? : Option Batch.Config} {first : Counter}
  {events : List Event} {event : Event} {run : Run}

/-- A calm run so far: every call is under way, or it has been given the one result that its
request has. -/
structure Fair (node : Node) (setting : Setting) (batch? : Option Batch.Config) (first : Counter)
    (events : List Event) (run : Run) : Prop where
  same : run.client.setting = setting
  length : run.client.calls.length = (sends events).length
  known : ∀ request ∈ sends events, request.id ≠ .null
  calls : ∀ {call request}, (sends events)[call]? = some request →
    ∃ c, run.client.calls[call]? = some c ∧
      Progress setting (node.attempt setting.endpoint) request (.leave call ∈ events) c
        (run.outcomes call)
  beyond : ∀ call, (sends events).length ≤ call → run.outcomes call = []
  justified : ∀ effect ∈ run.effects, effect.Justified setting.endpoint
  backed : Backed first run.client run.effects batch?

namespace Fair

theorem endpoint (fair : Fair node setting batch? first events run) :
    run.client.endpoint = setting.endpoint :=
  congrArg (·.endpoint) fair.same

/-- An event that is no send. -/
theorem mono (fair : Fair node setting batch? first events run) (unsent : sends [event] = []) :
    Fair node setting batch? first (events ++ [event]) run := by
  have same : sends (events ++ [event]) = sends events := by
    rw [sends_append, unsent, List.append_nil]
  refine ⟨fair.same, by rw [same, fair.length], by rw [same]; exact fair.known,
    fun {call request} sent => ?_, by rw [same]; exact fair.beyond, fair.justified, fair.backed⟩
  rw [same] at sent
  obtain ⟨c, there, progress⟩ := fair.calls sent
  exact ⟨c, there, progress.mono (List.mem_append_left _)⟩

theorem carried (fair : Fair node setting batch? first events run)
    {result : Client × List Effect}
    (carried : Carried (node.attempt setting.endpoint) batch? first run.client run.effects result) :
    Fair node setting batch? first events ⟨result.1, run.effects ++ result.2⟩ := by
  have turned := carried.turned
  refine ⟨turned.setting.trans fair.same, turned.length.trans fair.length, fair.known,
    fun {call request} sent => ?_, fun call le => ?_, fun effect member => ?_, carried.backed⟩
  · obtain ⟨c, there, progress⟩ := fair.calls sent
    obtain ⟨c', there', evolves⟩ := turned.calls there
    rw [fair.same] at evolves
    refine ⟨c', there', ?_⟩
    rw [Run.outcomes, outcomesOf_append]
    exact progress.evolves evolves
  · have now := turned.beyond call (fair.length ▸ le)
    rw [Run.outcomes, outcomesOf_append, now, List.append_nil]
    exact fair.beyond call le
  · rcases List.mem_append.mp member with before | now
    · exact fair.justified effect before
    · exact fair.endpoint ▸ carried.justified effect now

/-! ### Calls that are known -/

theorem request_of_there (fair : Fair node setting batch? first events run) {call : Nat} {c : Call}
    (there : run.client.calls[call]? = some c) :
    ∃ request, (sends events)[call]? = some request ∧ request.id ≠ .null ∧
      Progress setting (node.attempt setting.endpoint) request (.leave call ∈ events) c
        (run.outcomes call) := by
  have lt : call < (sends events).length :=
    fair.length ▸ (List.getElem?_eq_some_iff.mp there).1
  have sent := List.getElem?_eq_getElem lt
  obtain ⟨c', there', progress⟩ := fair.calls sent
  obtain rfl : c' = c := Option.some.inj (there'.symm.trans there)
  exact ⟨_, sent, fair.known _ (List.getElem_mem lt), progress⟩

theorem known_of_live (fair : Fair node setting batch? first events run) {call : Nat} {c : Call}
    (there : run.client.calls[call]? = some c) (live : c.stage ≠ .over) :
    c.request.id ≠ .null := by
  obtain ⟨request, -, known, progress⟩ := fair.request_of_there there
  rwa [progress.request_of_live live]

/-! ### Steps -/

/-- A new call takes its place after the others. -/
theorem joined (fair : Fair node setting batch? first events run) {request : Request}
    (known : request.id ≠ .null) {c : Call} (ungathered : ∀ ticket, c.stage ≠ .gathered ticket)
    {outcomes : List (Outcome Response)}
    (progress : Progress setting (node.attempt setting.endpoint) request
      (.leave run.client.calls.length ∈ events ++ [.send request]) c outcomes)
    {more : List Effect} (own : outcomesOf run.client.calls.length more = outcomes)
    (others : ∀ call, call ≠ run.client.calls.length → outcomesOf call more = [])
    (silent : ∀ effect ∈ more, effect.posts = false) :
    Fair node setting batch? first (events ++ [.send request])
      ⟨{ run.client with calls := run.client.calls ++ [c] }, run.effects ++ more⟩ := by
  have sent : sends (events ++ [.send request]) = sends events ++ [request] := sends_append _ _
  have length := fair.length
  refine ⟨fair.same, ?_, ?_, fun {call other} there => ?_, fun call le => ?_, ?_, ?_⟩
  · rw [sent, List.length_append, List.length_append, length]
    rfl
  · intro other member
    rw [sent, List.mem_append, List.mem_singleton] at member
    rcases member with before | rfl
    · exact fair.known other before
    · exact known
  · rw [sent] at there
    rw [Run.outcomes, outcomesOf_append]
    rcases Nat.lt_or_ge call (sends events).length with lt | ge
    · rw [List.getElem?_append_left lt] at there
      obtain ⟨d, hd, progress'⟩ := fair.calls there
      refine ⟨d, (List.getElem?_append_left (length ▸ lt)).trans hd, ?_⟩
      rw [others call (by omega), List.append_nil]
      exact progress'.mono (List.mem_append_left _)
    · have lt := (List.getElem?_eq_some_iff.mp there).1
      obtain rfl : call = run.client.calls.length := by
        simp only [List.length_append, List.length_singleton] at lt
        omega
      obtain rfl : request = other := by
        rw [length] at there
        simpa using there
      refine ⟨c, by simp, ?_⟩
      have unheard := fair.beyond _ ge
      rw [Run.outcomes] at unheard
      rw [own, unheard]
      exact progress
  · rw [sent, List.length_append, List.length_singleton] at le
    rw [Run.outcomes, outcomesOf_append, others call (by omega), List.append_nil]
    exact fair.beyond call (by omega)
  · intro effect member
    rcases List.mem_append.mp member with before | now
    · exact fair.justified effect before
    · exact Effect.justified_of_silent (silent effect now) _
  · refine fair.backed.kept rfl rfl (fun {call d ticket} waits => ?_) silent
    obtain ⟨there, stage⟩ := waits
    rcases Nat.lt_or_ge call run.client.calls.length with lt | ge
    · exact ⟨(List.getElem?_append_left lt).symm.trans there, stage⟩
    · have member : (run.client.calls ++ [c])[call]? = some d := there
      rw [List.getElem?_append_right ge] at member
      obtain rfl : c = d := List.mem_singleton.mp (List.mem_of_getElem? member) |>.symm
      exact absurd stage (ungathered ticket)

theorem load_joined (client : Client) (c : Call) :
    ({ client with calls := client.calls ++ [c] } : Client).load =
      client.load + c.weight client.executor.config.retryCount := by
  simp only [Client.load, total_snoc]
  omega

/-- A new call takes part unless its method is turned away. -/
theorem send (fair : Fair node setting batch? first events run) {request : Request}
    (known : request.id ≠ .null) :
    Fair node setting batch? first (events ++ [.send request]) (run.step (.send request)) ∧
      (run.step (.send request)).client.load ≤
        run.client.load + (5 * setting.config.retryCount.toNat + 5) := by
  have config : run.client.executor.config = setting.config := congrArg (·.config) fair.same
  have hstep : run.step (.send request) =
      ⟨(run.client.send request).1, run.effects ++ (run.client.send request).2⟩ := rfl
  rw [hstep]
  unfold Client.send Executor.check
  rw [config]
  cases allowed : setting.config.methods.allows request.method with
  | false =>
    let c : Call := ⟨request, 0, .over⟩
    have refused : setting.result (node.attempt setting.endpoint) request =
        .error (.methodNotSupported request.method) := by
      rw [Setting.result, allowed]
      rfl
    simp only [Bool.false_eq_true, if_false]
    refine ⟨fair.joined known (c := c) (by simp [c]) (.told rfl) ?_ ?_ ?_, ?_⟩
    · simp [outcomesOf, Effect.outcome?, refused]
    · intro call ne
      simp [outcomesOf, Effect.outcome?, ne.symm]
    · simp [Effect.posts]
    · rw [load_joined, Call.weight, Stage.weight]
      omega
  | true =>
    let c : Call := ⟨completed request, 0, .resting⟩
    let begun : Client := { run.client with calls := run.client.calls ++ [c] }
    have joined : Fair node setting batch? first (events ++ [.send request])
        ⟨begun, run.effects⟩ := by
      rw [← List.append_nil run.effects]
      exact fair.joined known (c := c) (by simp [c]) (.waiting (by simp [c]) rfl allowed) rfl
        (fun _ _ => rfl) (by simp)
    have there : begun.calls[run.client.calls.length]? = some c := by simp [begun]
    obtain ⟨carried, load⟩ := joined.backed.attempt node there rfl
    rw [joined.endpoint] at carried
    simp only [if_true, prepare_of_known _ known]
    refine ⟨joined.carried carried, ?_⟩
    have grown : begun.load = run.client.load + _ := load_joined run.client c
    rw [Call.weight, Stage.weight, config] at grown
    replace load : (begun.attempt run.client.calls.length).1.load + 1 ≤ begun.load := load
    have further : setting.config.retryCount.toNat - c.attempt.toNat ≤
        setting.config.retryCount.toNat := Nat.sub_le _ _
    show (begun.attempt run.client.calls.length).1.load ≤ _
    omega

/-- Whoever made a call may leave it. -/
theorem leave (fair : Fair node setting batch? first events run) (call : Nat) :
    Fair node setting batch? first (events ++ [.leave call]) (run.step (.leave call)) ∧
      (run.step (.leave call)).client.load ≤ run.client.load := by
  have stays : Fair node setting batch? first (events ++ [.leave call]) run := fair.mono rfl
  have hstep : run.step (.leave call) = ⟨(run.client.step (.leave call)).1,
    run.effects ++ (run.client.step (.leave call)).2⟩ := rfl
  have unmoved : Fair node setting batch? first (events ++ [.leave call])
      ⟨run.client, run.effects ++ []⟩ := by rwa [List.append_nil]
  rw [hstep]
  unfold Client.step
  dsimp only
  split
  · exact ⟨unmoved, Nat.le_refl _⟩
  · exact ⟨unmoved, Nat.le_refl _⟩
  · next c live there =>
    let c' : Call := { c with stage := .over }
    have others {other : Nat} (ne : other ≠ call) :
        outcomesOf other [.finished call (.error .cancelled)] = [] := by
      simp [outcomesOf, Effect.outcome?, ne.symm]
    have lt : call < (sends events).length := fair.length ▸ (List.getElem?_eq_some_iff.mp there).1
    have same : sends (events ++ [.leave call]) = sends events := by
      rw [sends_append]
      exact List.append_nil _
    refine ⟨⟨stays.same, ?_, stays.known, fun {other request} sent => ?_,
      fun other le => ?_, ?_, ?_⟩, ?_⟩
    · exact List.length_set.trans stays.length
    · obtain ⟨d, hd, progress⟩ := stays.calls sent
      rw [Run.outcomes, outcomesOf_append]
      by_cases own : other = call
      · subst own
        exact ⟨c', Client.getElem?_withCall there c', .gone rfl (by simp) _⟩
      · refine ⟨d, (List.getElem?_set_ne (Ne.symm own)).trans hd, ?_⟩
        rw [others own, List.append_nil]
        exact progress
    · have ne : other ≠ call := by
        rw [same] at le
        omega
      rw [Run.outcomes, outcomesOf_append, others ne, List.append_nil]
      exact stays.beyond other le
    · intro effect member
      rcases List.mem_append.mp member with before | now
      · exact stays.justified effect before
      · rw [List.mem_singleton.mp now]
        trivial
    · exact stays.backed.kept rfl rfl (Client.gathered_of_ended (by simp)) (by simp [Effect.posts])
    · have load := Client.load_withCall there c'
      have weightless : c'.weight run.client.executor.config.retryCount = 0 := rfl
      show (run.client.withCall call c').load ≤ _
      omega

/-- Every other event of a calm run goes on with the attempts, and one that was waited for uses
something up. -/
theorem goes_on (fair : Fair node setting batch? first events run)
    (short : ∀ config ∈ batch?, config.batchSize ≤ UInt64.size) (brings : Brings node run event)
    (unsent : ∀ request, event ≠ .send request) (unleft : ∀ call, event ≠ .leave call) :
    Carried (node.attempt setting.endpoint) batch? first run.client run.effects
        (run.client.step event) ∧
      (run.client.step event).1.load + (if run.client.awaits event then 1 else 0) ≤
        run.client.load := by
  rw [← fair.endpoint]
  have justified : ∀ effect ∈ run.effects, effect.Justified run.client.endpoint :=
    fair.endpoint ▸ fair.justified
  have still : Carried (node.attempt run.client.endpoint) batch? first run.client run.effects
      (run.client, []) := fair.backed.still
  cases brings with
  | send request => exact absurd rfl (unsent request)
  | leave call => exact absurd rfl (unleft call)
  | flush => exact fair.backed.flush
  | fire generation => exact fair.backed.fire generation
  | turn told => exact fair.backed.turn short justified told
  | wake call =>
    cases there : run.client.calls[call]? with
    | none =>
      simp only [Client.step, Client.awaits, there, Option.any_none]
      exact ⟨still, Nat.le_refl _⟩
    | some c =>
      obtain ⟨request, attempt, stage⟩ := c
      simp only [Client.step, Client.awaits, Call.awaits, there, Option.any_some]
      cases stage with
      | resting => exact fair.backed.attempt node there rfl
      | _ => exact ⟨still, Nat.le_refl _⟩
  | @delivered call c post delivery posted there tells =>
    obtain ⟨request, attempt, stage⟩ := c
    simp only [Client.step, Client.awaits, Call.awaits, there, Option.any_some]
    cases stage with
    | posting =>
      have live : Stage.posting ≠ .over := Stage.noConfusion
      have answered : run.client.endpoint.response delivery =
          node.attempt run.client.endpoint request := by
        have built : run.client.endpoint.canPost = true := justified _ posted
        rw [Node.attempt, if_pos built]
        exact Node.response_of_tells (fair.known_of_live there live) tells
      refine ⟨fair.backed.conclude there live answered, ?_⟩
      exact Client.load_conclude there (.inl rfl) _
    | _ => exact ⟨still, Nat.le_refl _⟩

theorem step (fair : Fair node setting batch? first events run)
    (short : ∀ config ∈ batch?, config.batchSize ≤ UInt64.size) (brings : Brings node run event) :
    Fair node setting batch? first (events ++ [event]) (run.step event) ∧
      (run.step event).client.load + (if run.client.awaits event then 1 else 0) ≤
        run.client.load +
          (sends [event]).length * (5 * setting.config.retryCount.toNat + 5) := by
  by_cases sent : ∃ request, event = .send request
  · obtain ⟨request, rfl⟩ := sent
    cases brings with
    | send _ known =>
      obtain ⟨sent, load⟩ := fair.send known
      refine ⟨sent, ?_⟩
      rw [show (sends [.send request]).length = 1 from rfl, Nat.one_mul]
      exact load
  by_cases gone : ∃ call, event = .leave call
  · obtain ⟨call, rfl⟩ := gone
    obtain ⟨left, load⟩ := fair.leave call
    exact ⟨left, Nat.le_add_right_of_le load⟩
  have unsent : ∀ request, event ≠ .send request := fun request eq => sent ⟨request, eq⟩
  obtain ⟨carried, load⟩ := fair.goes_on short brings unsent fun call eq => gone ⟨call, eq⟩
  have silent : sends [event] = [] := by
    cases event with
    | send request => exact absurd rfl (unsent request)
    | _ => rfl
  refine ⟨(fair.mono silent).carried carried, ?_⟩
  rw [silent]
  exact Nat.le_trans load (Nat.le_add_right _ _)

/-- A whole calm run. -/
theorem steps (fair : Fair node setting batch? first events run)
    (short : ∀ config ∈ batch?, config.batchSize ≤ UInt64.size) {more : List Event}
    (calm : Calm node run more) :
    Fair node setting batch? first (events ++ more) (run.steps more) ∧
      (run.steps more).client.load + waited run more ≤
        run.client.load + (sends more).length * (5 * setting.config.retryCount.toNat + 5) := by
  induction more generalizing run events with
  | nil =>
    rw [List.append_nil]
    exact ⟨fair, Nat.le_add_right _ _⟩
  | cons event rest ih =>
    obtain ⟨now, spent⟩ := fair.step short calm.1
    obtain ⟨later, more⟩ := ih now calm.2
    have sent : (sends (event :: rest)).length = (sends [event]).length + (sends rest).length := by
      rw [← List.length_append, ← sends_append]
      rfl
    rw [List.append_assoc] at later
    refine ⟨later, ?_⟩
    rw [sent, Nat.add_mul]
    show ((run.step event).steps rest).client.load +
      ((if run.client.awaits event then 1 else 0) + waited (run.step event) rest) ≤ _
    omega

/-! ### The beginning and the end -/

theorem start {raw : String} {config : Config} {client : Client}
    (made : Client.new raw config = .ok client) :
    Fair node client.setting config.batch config.first [] (Run.start client) := by
  obtain ⟨calls, counter, scheduler⟩ := Client.of_new made
  have ungathered : ∀ {call c ticket}, ¬ client.Gathered call c ticket := by
    rintro call c ticket ⟨there, -⟩
    simp [calls] at there
  refine ⟨rfl, congrArg List.length calls, by simp [sends], by simp [sends], fun _ _ => rfl,
    by simp [Run.start], ?_⟩
  show Backed config.first client [] config.batch
  cases batch : config.batch with
  | none =>
    rw [batch] at scheduler
    exact .posting scheduler ungathered
  | some gathers =>
    rw [batch] at scheduler
    have tracked : Tracked [] [] client := ⟨fun waits => absurd waits ungathered,
      fun waits => absurd waits ungathered, fun waits => absurd waits ungathered⟩
    have follows : Follows gathers config.first [] client [] :=
      ⟨by simp, scheduler, counter, tracked, by simp⟩
    exact .gathering follows

/-- A call that waits for a batch is not forgotten: its scheduler waits for a timer or a turn. -/
theorem scheduler_awaits {config : Batch.Config} {entered : List Batch.Event} {client : Client}
    {effects : List Effect} {call ticket : Nat} {c : Call}
    (follows : Follows config first entered client effects)
    (waits : client.Gathered call c ticket) :
    ∃ event, (alone config first entered).scheduler.awaits event = true := by
  have conserved := (Batch.Run.conserved_initial config first).steps entered
  have given : ticket < (alone config first entered).scheduler.nextTicket := by
    rw [follows.fresh.1]
    exact (List.getElem?_eq_some_iff.mp (follows.tracked.known waits)).1
  have unanswered := Batch.Run.outcomesFor_eq_nil.mpr (follows.tracked.unsettled waits)
  rcases Batch.Run.pending_or_underWay conserved given unanswered with
    ⟨item, pending, -⟩ | ⟨batch, dispatch, there, live, -⟩
  · have timer := (Batch.Run.guarded_steps config first entered).timer
    have waiting : ¬ (alone config first entered).scheduler.pending.isEmpty = true := by
      rw [List.isEmpty_iff]
      exact List.ne_nil_of_mem pending
    refine ⟨.fire (alone config first entered).scheduler.generation, ?_⟩
    exact decide_eq_true (timer.trans (if_neg waiting))
  · cases stage : dispatch.stage with
    | queued => exact ⟨.turn batch none, by simp [Batch.Scheduler.awaits, there, stage]⟩
    | sending => exact ⟨.turn batch (some (.ok [])), by simp [Batch.Scheduler.awaits, there, stage]⟩
    | _ => exact absurd stage live

theorem over_of_done (fair : Fair node setting batch? first events run) (done : run.client.Done)
    {call : Nat} {c : Call} (there : run.client.calls[call]? = some c) : c.stage = .over := by
  cases stage : c.stage with
  | posting =>
    have idle := done (.delivered call (.lost .timeout))
    simp [Client.awaits, Call.awaits, there, stage] at idle
  | resting =>
    have idle := done (.wake call)
    simp [Client.awaits, Call.awaits, there, stage] at idle
  | gathered ticket =>
    cases fair.backed with
    | posting scheduler posts => exact absurd ⟨there, stage⟩ posts
    | gathering follows =>
      obtain ⟨event, waits⟩ := scheduler_awaits follows ⟨there, stage⟩
      have idle := done event
      cases event with
      | fire generation =>
        rw [Client.awaits, follows.scheduler, Option.any_some] at idle
        exact absurd (waits.symm.trans idle) (by decide)
      | turn batch reply =>
        rw [Client.awaits, follows.scheduler, Option.any_some] at idle
        exact absurd (waits.symm.trans idle) (by decide)
      | _ => cases waits
  | _ => rfl

end Fair
end NodeCall.Http
