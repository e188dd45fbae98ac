import NodeCall.Proofs.Socket.Lifecycle
import NodeCall.Proofs.Socket.Replays

/-!
# Frames stay with their connection

A frame waits in the queue or in the hands of the task until it is written, and all frames that
wait are dropped with the connection.  So a frame is written on the connection on which it was
made, or never; and as every frame carries a number of its own, no two frames carry the same.
-/

namespace NodeCall

/-! ### The number in a frame -/

namespace Request

/-- The text of a request ends in its id. -/
theorem text_ends {request : Request} {number : UInt64} (id : request.id = .number number) :
    ∃ before, request.text.toList = before ++ ':' :: (number.toNat.repr.toList ++ ['\x7d']) := by
  refine ⟨'\x7b' :: (Json.quote "jsonrpc" ++ ':' :: (Json.quote request.version ++
    ',' :: (Json.quote "method" ++ ':' :: (Json.quote request.method ++
      ',' :: (Json.quote "params" ++ ':' :: (request.params.chars ++
        ',' :: Json.quote "id")))))), ?_⟩
  have own : request.id.toJson.chars = number.toNat.repr.toList := by
    rw [id]
    rfl
  simp [text, envelope, members, Json.text, Json.chars, Json.charsMembers, own]

end Request

/-- Where a mark stands for the first time is the same for both readings of a list. -/
theorem eq_of_append_mark {α : Type} {mark : α} {front other rest last : List α}
    (absent : mark ∉ front) (absent' : mark ∉ other)
    (same : front ++ mark :: rest = other ++ mark :: last) : front = other := by
  induction front generalizing other with
  | nil =>
    cases other with
    | nil => rfl
    | cons first tail =>
      obtain ⟨rfl, -⟩ := List.cons.inj same
      exact absurd List.mem_cons_self absent'
  | cons first tail ih =>
    cases other with
    | nil =>
      obtain ⟨rfl, -⟩ := List.cons.inj same
      exact absurd List.mem_cons_self absent
    | cons first' tail' =>
      obtain ⟨rfl, tails⟩ := List.cons.inj same
      rw [ih (List.not_mem_of_not_mem_cons absent) (List.not_mem_of_not_mem_cons absent') tails]

theorem Request.number_of_text {request other : Request} {number number' : UInt64}
    (id : request.id = .number number) (id' : other.id = .number number')
    (same : request.text = other.text) : number = number' := by
  obtain ⟨before, ends⟩ := text_ends id
  obtain ⟨before', ends'⟩ := text_ends id'
  have unmarked (n : Nat) : ':' ∉ ('\x7d' :: n.repr.toList.reverse) := by
    rw [List.mem_cons, not_or, List.mem_reverse, Nat.toList_repr]
    refine ⟨by decide, fun member => ?_⟩
    have digit := Nat.isDigit_of_mem_toDigits (by decide) (by decide) member
    exact absurd digit (by decide)
  have reversed :=
    congrArg List.reverse (ends.symm.trans ((congrArg String.toList same).trans ends'))
  simp only [List.reverse_append, List.reverse_cons, List.append_assoc, List.reverse_nil,
    List.nil_append, List.cons_append] at reversed
  have digits := eq_of_append_mark (unmarked number.toNat) (unmarked number'.toNat) reversed
  have texts := List.reverse_injective (List.cons.inj digits).2
  rw [Nat.toList_repr, Nat.toList_repr] at texts
  have values := congrArg (Nat.ofDigitChars 10 · 0) texts
  simp only [Nat.ofDigitChars_ten_toDigits] at values
  exact UInt64.toNat_inj.mp values

namespace Socket

/-- A frame is the text of a request under a number. -/
def Carries (frame : String) (number : UInt64) : Prop :=
  ∃ request : Request, request.id = .number number ∧ frame = request.text

theorem Carries.unique {frame : String} {number other : UInt64} (carries : Carries frame number)
    (carries' : Carries frame other) : number = other := by
  obtain ⟨request, id, rfl⟩ := carries
  obtain ⟨request', id', same⟩ := carries'
  exact Request.number_of_text id id' same

theorem carries_frame (number : UInt64) (method : String) (params : List Json) :
    Carries (frame number method params) number := ⟨_, rfl, rfl⟩

/-! ### The frames that wait -/

/-- The state of the connection stays. -/
def Steady (effects : List Effect) : Prop := ∀ state, .entered state ∉ effects

theorem steady_nil : Steady [] := fun _ => List.not_mem_nil

theorem Steady.append {effects others : List Effect} (first : Steady effects)
    (second : Steady others) : Steady (effects ++ others) := by
  intro state member
  rcases List.mem_append.mp member with member | member
  · exact first state member
  · exact second state member

/-- The frame that the task has in its hands. -/
def Phase.frames : Phase → List String
  | .writing frame => [frame]
  | _ => []

@[simp] theorem frames_replayPhase (left : List (Key × List Json)) :
    (Client.replayPhase left).frames = [] := by
  cases left <;> rfl

namespace Client

variable {client next : Client} {event : Event} {effects others : List Effect}

/-- The frames that wait to be written. -/
def stock (client : Client) : List String := client.outgoing ++ client.phase.frames

theorem SameElsewhere.stock (same : SameElsewhere client next) : next.stock = client.stock := by
  rw [same]
  rfl

/-- Without a connection no frame waits. -/
structure Dry (client : Client) : Prop where
  linked : client.Linked
  outgoing : client.phase.linked = false → client.outgoing = []

theorem Dry.stock (dry : Dry client) (unlinked : client.phase.linked = false) :
    client.stock = [] := by
  rw [Client.stock, dry.outgoing unlinked]
  cases phase : client.phase <;> first | rfl | simp [phase, Phase.linked] at unlinked

/-- A move brings about a new state of the connection and leaves no frame, or it writes some of the
frames that wait and adds one at most, which carries the number that it draws. -/
inductive Supplies (client next : Client) (effects : List Effect) : Prop
  | drops (stock : next.stock = []) (silent : written effects = [])
  | keeps (steady : Steady effects) (frames : (written effects ++ next.stock).Perm client.stock)
  | adds (steady : Steady effects) (frame : String)
      (carries : Carries frame client.executor.counter)
      (drawn : next.executor.counter = client.executor.counter + 1)
      (frames : (written effects ++ next.stock).Perm (frame :: client.stock))

theorem stock_shutDown : client.shutDown.1.stock = [] := rfl

theorem stock_pause (stock : client.stock = []) (dial : Nat) :
    (client.pause dial).1.stock = [] := by
  rcases @pause_cases client dial with ⟨-, heq⟩ | ⟨-, heq⟩ <;> rw [heq]
  · show client.outgoing ++ [] = []
    rw [List.append_nil]
    exact (List.append_eq_nil_iff.mp stock).1
  · exact stock_shutDown

theorem stock_disconnect : client.disconnect.1.stock = [] := by
  obtain ⟨-, heq⟩ | ⟨state, tried, -, heq⟩ := @disconnect_cases client <;> rw [heq]
  · show client.lost.outgoing ++ [] = []
    rw [lost_same]
    rfl
  · exact stock_shutDown

theorem written_toldLost : written client.toldLost = [] := by
  simp [written, toldLost, List.filterMap_map]

theorem written_disconnect : written client.disconnect.2 = [] := by
  obtain ⟨-, heq⟩ | ⟨state, tried, tries, heq⟩ := @disconnect_cases client <;> rw [heq]
  · rw [written_append, ← List.singleton_append, written_append, written_toldLost]
    rfl
  · rw [written_append, ← List.singleton_append, written_append, written_toldLost]
    rcases tries with ⟨-, rfl⟩ | ⟨-, rfl⟩ <;> rfl

theorem stock_serving (serving : client.phase = .serving) : client.stock = client.outgoing := by
  rw [stock, serving]
  exact List.append_nil _

theorem stock_writeOwn (serving : client.phase = .serving) (method : String) (params : List Json) :
    (client.writeOwn method params).stock =
      client.stock ++ [frame client.executor.counter method params] := by
  have same := client.drawn_same .keepAlive
  have outgoing : (client.draw.2.expect client.executor.counter .keepAlive).outgoing =
      client.outgoing := by rw [same]; rfl
  rw [stock_serving serving, ← outgoing]
  rfl

theorem supplies_writeOwn (serving : client.phase = .serving) (method : String)
    (params : List Json) (steady : Steady effects) (silent : written effects = []) :
    Supplies client (client.writeOwn method params) effects := by
  refine .adds steady _ (carries_frame _ method params) (counter_writeOwn method params) ?_
  rw [silent, List.nil_append, stock_writeOwn serving]
  exact List.perm_append_singleton _ _

theorem supplies_bindOrEnd (serving : client.phase = .serving) (key : Key) (id : String)
    (steady : Steady effects) (silent : written effects = []) :
    Supplies client (client.bindOrEnd key id) effects := by
  rw [bindOrEnd_eq]
  split
  · refine .keeps steady ?_
    rw [silent, List.nil_append]
    exact .refl _
  · exact supplies_writeOwn serving _ _ steady silent

theorem Supplies.of_same (supplies : Supplies client next effects) {last : Client}
    (same : SameElsewhere next last) : Supplies client last effects := by
  cases supplies with
  | drops stock silent => exact .drops (same.stock.trans stock) silent
  | keeps steady frames => exact .keeps steady (same.stock ▸ frames)
  | adds steady frame carries drawn frames =>
    refine .adds steady frame carries ?_ (same.stock ▸ frames)
    rw [same.executor, drawn]

theorem Supplies.after_same {start : Client} (supplies : Supplies start next effects)
    (same : SameElsewhere client start) : Supplies client next effects := by
  cases supplies with
  | drops stock silent => exact .drops stock silent
  | keeps steady frames => exact .keeps steady (same.stock ▸ frames)
  | adds steady frame carries drawn frames =>
    rw [same.executor] at carries drawn
    exact .adds steady frame carries drawn (same.stock ▸ frames)

theorem Supplies.still (steady : Steady effects) (silent : written effects = [])
    (stock : next.stock = client.stock) : Supplies client next effects := by
  refine .keeps steady ?_
  rw [silent, stock]
  exact .refl _

theorem supplies_takeReply (serving : client.phase = .serving) (number : UInt64) (entry : Pending)
    (response : Response) :
    Supplies client (client.takeReply number entry response).1
      (client.takeReply number entry response).2 := by
  unfold takeReply
  cases entry with
  | call caller => exact .still steady_nil rfl (deliver_same _ _ _).stock
  | keepAlive => exact .still steady_nil rfl rfl
  | subscribe key caller =>
    dsimp only
    split
    · exact (supplies_bindOrEnd serving key _ steady_nil rfl).of_same (deliver_same _ _ _)
    · exact .still steady_nil rfl (deliver_same _ _ _).stock
  | resubscribe key =>
    dsimp only
    split
    · exact supplies_bindOrEnd serving key _ steady_nil rfl
    · refine .still ?_ ?_ rfl
      · split <;> simp [Steady]
      · split <;> rfl

theorem Move.supplies (move : Move event client next effects) (dry : Dry client) :
    Supplies client next effects := by
  have quiet {effect : Effect} (plain : ∀ state, .entered state ≠ effect) : Steady [effect] :=
    fun state member => plain state (List.mem_singleton.mp member)
  cases move with
  | draw => exact .still steady_nil rfl rfl
  | arrive c resting => exact .still steady_nil rfl rfl
  | refuse request answer => exact .still (quiet (by simp)) rfl rfl
  | begin caller c there resting connected =>
    refine .adds (quiet (by simp)) (c.request.withId (.number client.executor.counter)).text
      ⟨_, rfl, rfl⟩ (@counter_expect client.draw.2 _ (c.entry caller)) ?_
    have same := client.drawn_same (c.entry caller)
    have outgoing : (client.begun caller c).outgoing =
        client.outgoing ++ [(c.request.withId (.number client.executor.counter)).text] := by
      unfold begun
      dsimp only
      rw [same]
      rfl
    have phase : (client.begun caller c).phase = client.phase := same.phase
    rw [stock, stock, outgoing, phase, List.append_assoc]
    exact List.perm_middle
  | release caller purpose request exchange there turn =>
    exact .still steady_nil rfl (forget_same _).stock
  | rest caller attempt request delay there => exact .still (quiet (by simp)) rfl rfl
  | finish caller c answer there resting => exact .still (quiet (by simp)) rfl rfl
  | leave caller purpose request there leaves => exact .still steady_nil rfl rfl
  | abandon caller purpose request exchange there leaves =>
    exact .still steady_nil rfl (forget_same _).stock
  | insert params => exact .still steady_nil rfl rfl
  | remove key => exact .still steady_nil rfl rfl
  | close => exact .still steady_nil rfl rfl
  | stop closing phase => exact .drops stock_shutDown rfl
  | lose connected => exact .drops stock_disconnect written_disconnect
  | write frame rest serving next =>
    refine .keeps (quiet (by simp)) ?_
    rw [stock, stock, next]
    exact .refl _
  | writeOwn frame writing =>
    refine .keeps (quiet (by simp)) ?_
    rw [stock, stock, writing]
    exact (List.perm_append_singleton frame (client.outgoing ++ [])).symm.trans
      (by simp [Phase.frames])
  | replay key params left next =>
    refine .adds (quiet (by simp)) _ (carries_frame _ subscribeMethod params)
      (counter_replaying key) ?_
    have same := client.drawn_same (.resubscribe key)
    have outgoing : (client.replaying key).outgoing = client.outgoing := by
      unfold replaying
      rw [same]
      rfl
    rw [stock, stock, outgoing, frames_replayPhase, next]
    exact .refl _
  | loseReplay key params left next => exact .drops stock_disconnect written_disconnect
  | push notification key serving routed => exact .still (quiet (by simp)) rfl rfl
  | reply text number response entry received means serving pending =>
    let taken := { client with pending := client.pending.erase number }
    have same : SameElsewhere client taken := .withPending client _
    exact (@supplies_takeReply taken serving number entry response).after_same same
  | probe serving => exact supplies_writeOwn serving _ _ steady_nil rfl
  | dial dial pausing =>
    refine .still (quiet (by simp)) rfl ?_
    rw [stock, stock, pausing]
    rfl
  | reconnect dial dialling =>
    refine .drops ?_ rfl
    show client.outgoing ++ (replayPhase client.registry.parked).frames = []
    rw [frames_replayPhase, dry.outgoing (by rw [dialling]; rfl)]
    rfl
  | redial dial dialling =>
    refine .drops (stock_pause (dry.stock (by rw [dialling]; rfl)) _) ?_
    rcases @pause_cases client (dial + 1) with ⟨-, heq⟩ | ⟨-, heq⟩ <;> rw [heq] <;> rfl

theorem SameElsewhere.outgoing (same : SameElsewhere client next) :
    next.outgoing = client.outgoing := by
  rw [same]

theorem outgoing_of_stock (stock : client.stock = []) : client.outgoing = [] :=
  (List.append_eq_nil_iff.mp stock).1

theorem Dry.move (dry : Dry client) (move : Move event client next effects) : Dry next := by
  have linked' := dry.linked.move move
  refine ⟨linked', fun unlinked => ?_⟩
  have still (phase : next.phase = client.phase) (outgoing : next.outgoing = client.outgoing) :
      next.outgoing = [] :=
    outgoing.trans (dry.outgoing (phase ▸ unlinked))
  cases move with
  | begin caller c there resting connected =>
    have linked := dry.linked.state.mp connected
    have phase : (client.begun caller c).phase = client.phase :=
      (client.drawn_same (c.entry caller)).phase
    rw [phase, linked] at unlinked
    cases unlinked
  | release caller purpose request exchange there turn =>
    have same :=
      @forget_same (client.withCaller caller ⟨purpose, request, .resting⟩) exchange.number
    exact still same.phase same.outgoing
  | abandon caller purpose request exchange there leaves =>
    have same := @forget_same (client.withCaller caller ⟨purpose, request, .over⟩) exchange.number
    exact still same.phase same.outgoing
  | stop closing phase => rfl
  | lose connected => exact outgoing_of_stock stock_disconnect
  | write frame rest serving next =>
    rw [serving] at unlinked
    cases unlinked
  | writeOwn frame writing => cases unlinked
  | replay key params left next =>
    rw [replayPhase_linked] at unlinked
    cases unlinked
  | loseReplay key params left next => exact outgoing_of_stock stock_disconnect
  | reply text number response entry received means serving pending =>
    let taken := { client with pending := client.pending.erase number }
    have state : (taken.takeReply number entry response).1.state = client.state :=
      (@stays_takeReply taken number entry response).2.1
    have connected : client.state = .connected := dry.linked.state.mpr (by rw [serving]; rfl)
    cases (linked'.state.mp (state.trans connected)).symm.trans unlinked
  | probe serving => cases unlinked
  | dial dial pausing => exact dry.outgoing (by rw [pausing]; rfl)
  | reconnect dial dialling =>
    have linked := replayPhase_linked client.registry.parked
    cases linked.symm.trans unlinked
  | redial dial dialling =>
    exact outgoing_of_stock (stock_pause (dry.stock (by rw [dialling]; rfl)) _)
  | _ => exact still rfl rfl

/-- A turn leaves the connection alone, or it leaves no frame and writes none. -/
theorem steady_or_drops (client : Client) (event : Event) (dry : Dry client) :
    Steady (client.step event).2 ∨
      (client.step event).1.stock = [] ∧ written (client.step event).2 = [] := by
  cases ofCaller : event.ofCaller with
  | true =>
    refine .inl fun state member => ?_
    have about := (aside_step ofCaller).effects _ member
    simp [Effect.caller?] at about
  | false =>
    rcases step_of_task ofCaller with same | move
    · rw [same]
      exact .inl steady_nil
    · cases move.supplies dry with
      | drops stock silent => exact .inr ⟨stock, silent⟩
      | keeps steady frames => exact .inl steady
      | adds steady frame carries drawn frames => exact .inl steady

/-- A frame waits after a turn or is written in it, and did not wait before. -/
def Produces (client : Client) (event : Event) (frame : String) : Prop :=
  (frame ∈ (client.step event).1.stock ∨ frame ∈ written (client.step event).2) ∧
    frame ∉ client.stock

/-- A turn that makes a frame leaves the connection alone. -/
theorem Produces.steady {frame : String} (produces : client.Produces event frame)
    (dry : Dry client) : Steady (client.step event).2 := by
  rcases client.steady_or_drops event dry with steady | ⟨stock, silent⟩
  · exact steady
  · have there := produces.1
    rw [stock, silent] at there
    simp at there

end Client

/-! ### The numbers of frames -/

/-- No number stands in both frames. -/
def Apart (frame other : String) : Prop := ∀ number, Carries frame number → ¬ Carries other number

theorem Apart.symm {frame other : String} (apart : Apart frame other) : Apart other frame :=
  fun number carries carries' => apart number carries' carries

/-- Frames that carry different numbers have a list of different numbers. -/
theorem numbers_of_apart {frames : List String}
    (numbered : ∀ frame ∈ frames, ∃ number, Carries frame number)
    (apart : frames.Pairwise Apart) :
    ∃ numbers, List.Forall₂ Carries frames numbers ∧ numbers.Nodup := by
  induction frames with
  | nil => exact ⟨[], .nil, .nil⟩
  | cons frame rest ih =>
    rw [List.pairwise_cons] at apart
    obtain ⟨number, carries⟩ := numbered frame List.mem_cons_self
    obtain ⟨numbers, all, nodup⟩ :=
      ih (fun other member => numbered other (List.mem_cons_of_mem _ member)) apart.2
    refine ⟨number :: numbers, .cons carries all, List.nodup_cons.mpr ⟨fun member => ?_, nodup⟩⟩
    obtain ⟨index, lt, rfl⟩ := List.getElem_of_mem member
    have lt' : index < rest.length := all.length_eq ▸ lt
    exact apart.1 rest[index] (List.getElem_mem lt') _ carries
      ((List.forall₂_iff_get.mp all).2 index lt' lt)

namespace Client

variable {client next origin : Client} {event : Event} {effects others : List Effect} {drawn : Nat}

/-- Since a client: the frames that have been written or wait now waited then, or carry numbers
that have been drawn since.  If none waited then, no two carry the same number until the numbers
have come round. -/
structure Supplied (origin : Client) (drawn : Nat) (effects : List Effect) (client : Client) :
    Prop where
  dry : Dry client
  counter : client.executor.counter = origin.executor.counter + UInt64.ofNat drawn
  frames : ∀ frame ∈ written effects ++ client.stock, frame ∈ origin.stock ∨
    ∃ number, Counter.Drawn origin.executor.counter drawn number ∧ Carries frame number
  apart : origin.stock = [] → drawn < UInt64.size →
    (written effects ++ client.stock).Pairwise Apart

namespace Supplied

theorem start (dry : Dry origin) : Supplied origin 0 [] origin := by
  refine ⟨dry, ?_, fun frame member => .inl member, fun empty _ => ?_⟩
  · show _ = _ + 0
    rw [UInt64.add_zero]
  · rw [empty]
    exact .nil

/-- A frame that is added has a number that no earlier frame has. -/
theorem apart_added (supplied : Supplied origin drawn others client) (empty : origin.stock = [])
    (few : drawn < UInt64.size) {added : String} (carries : Carries added client.executor.counter)
    {frame : String} (member : frame ∈ written others ++ client.stock) : Apart added frame := by
  intro number own other
  obtain rfl := carries.unique own
  rcases supplied.frames frame member with old | ⟨number, before, carries'⟩
  · rw [empty] at old
    cases old
  · obtain rfl := carries'.unique other
    exact before.ne_next few supplied.counter

theorem move (supplied : Supplied origin drawn others client)
    (move : Move event client next effects) :
    Supplied origin (drawn + client.drawnTo next) (others ++ effects) next := by
  have earlier {frame : String} (member : frame ∈ written others ++ client.stock) :
      frame ∈ origin.stock ∨ ∃ number,
        Counter.Drawn origin.executor.counter (drawn + client.drawnTo next) number ∧
          Carries frame number := by
    rcases supplied.frames frame member with old | ⟨number, before, carries⟩
    · exact .inl old
    · exact .inr ⟨number, before.mono (Nat.le_add_right _ _), carries⟩
  have apart (empty : origin.stock = []) (few : drawn + client.drawnTo next < UInt64.size) :=
    supplied.apart empty (Nat.lt_of_le_of_lt (Nat.le_add_right _ _) few)
  have all : written (others ++ effects) ++ next.stock =
      written others ++ (written effects ++ next.stock) := by
    rw [written_append, List.append_assoc]
  -- what matters is which frames there are, not their order
  have suffice {frames : List String}
      (perm : (written others ++ (written effects ++ next.stock)).Perm frames)
      (known : ∀ frame ∈ frames, frame ∈ origin.stock ∨ ∃ number,
        Counter.Drawn origin.executor.counter (drawn + client.drawnTo next) number ∧
          Carries frame number)
      (distinct : origin.stock = [] → drawn + client.drawnTo next < UInt64.size →
        frames.Pairwise Apart) :
      Supplied origin (drawn + client.drawnTo next) (others ++ effects) next := by
    refine ⟨supplied.dry.move move, counter_of_drawnTo supplied.counter, ?_, ?_⟩ <;> rw [all]
    · exact fun frame member => known frame (perm.mem_iff.mp member)
    · exact fun empty few => (perm.pairwise_iff Apart.symm).mpr (distinct empty few)
  cases move.supplies supplied.dry with
  | drops stock silent =>
    rw [silent, stock] at suffice
    exact suffice (.of_eq (List.append_nil _))
      (fun frame member => earlier (List.mem_append_left _ member))
      (fun empty few => (apart empty few).sublist (List.sublist_append_left _ _))
  | keeps steady frames => exact suffice (frames.append_left _) (fun _ => earlier) apart
  | adds steady added carries next frames =>
    refine suffice ((frames.append_left _).trans List.perm_middle) ?_ fun empty few => ?_
    · intro frame member
      rcases List.mem_cons.mp member with rfl | old
      · refine .inr ⟨client.executor.counter, ⟨drawn, ?_, supplied.counter⟩, carries⟩
        rw [drawnTo_of_draw next]
        exact Nat.lt_succ_self _
      · exact earlier old
    · have few' := Nat.lt_of_le_of_lt (Nat.le_add_right _ _) few
      exact .cons (fun frame old => supplied.apart_added empty few' carries old) (apart empty few)

end Supplied

end Client

namespace Run

open Client

variable {config : Config} {display : String}

theorem dry_connected (config : Config) (display : String) :
    (connected config display).client.Dry :=
  ⟨.of_linked rfl rfl, fun _ => rfl⟩

theorem dry (config : Config) (display : String) (events : List Event) :
    ((connected config display).steps events).client.Dry :=
  invariant (P := fun _ client => client.Dry) (fun move dry => dry.move move)
    (dry_connected config display) events

variable {before after : List Event} {frame : String}

theorem supplied (run : Run) (dry : run.client.Dry) (events : List Event) :
    Supplied run.client (run.draws events) (run.further events) (run.steps events).client := by
  let fresh : Run := ⟨run.client, []⟩
  have initial : Supplied run.client 0 fresh.effects fresh.client := .start dry
  have final : Supplied run.client (0 + fresh.draws events) (fresh.steps events).effects
      (fresh.steps events).client :=
    draws_invariant (P := Supplied run.client) (fun _ move supplied => supplied.move move) initial
  have client : (fresh.steps events).client = (run.steps events).client :=
    @client_steps fresh run rfl events
  have draws : fresh.draws events = run.draws events := @draws_eq fresh run rfl events
  rwa [Nat.zero_add, client, draws] at final

/-- A turn that brings a new state of the connection leaves no frame and writes none. -/
theorem drops_of_entered {event : Event} {state : State}
    (entered : .entered state ∈
      (((connected config display).steps before).client.step event).2) :
    (((connected config display).steps (before ++ [event])).client).stock = [] ∧
      written (((connected config display).steps before).client.step event).2 = [] := by
  rw [steps_snoc]
  rcases steady_or_drops _ event (dry config display before) with steady | drops
  · exact absurd entered (steady state)
  · exact drops

/-- The frames so far carry numbers that have been drawn. -/
theorem drawn_of_made (made : frame ∈ written ((connected config display).further before) ++
      ((connected config display).steps before).client.stock) :
    ∃ number, Counter.Drawn config.first ((connected config display).draws before) number ∧
      Carries frame number := by
  rcases (supplied _ (dry_connected config display) before).frames frame made with none | drawn
  · cases none
  · exact drawn

/-- A frame whose number has been drawn before the state of the connection changes is not written
after it. -/
theorem not_written_after_entered {event : Event} {state : State} {number : UInt64}
    (few : (connected config display).draws (before ++ event :: after) < UInt64.size)
    (entered : .entered state ∈
      (((connected config display).steps before).client.step event).2)
    (drawn : Counter.Drawn config.first ((connected config display).draws before) number)
    (carries : Carries frame number) :
    frame ∉ written (((connected config display).steps before).further (event :: after)) := by
  obtain ⟨stock, silent⟩ := drops_of_entered entered
  obtain ⟨index, lt, rfl⟩ := drawn
  intro later
  have split : before ++ event :: after = (before ++ [event]) ++ after := by simp
  have turn : (connected config display).steps (before ++ [event]) =
      ((connected config display).steps before).step event := steps_append _ _ _
  rw [further_cons, written_append, silent, List.nil_append] at later
  rw [split, draws_append, draws_append] at few
  have rest := supplied ((connected config display).steps (before ++ [event]))
    (dry config display _) after
  obtain none | ⟨number, ⟨index', lt', rfl⟩, carries'⟩ := rest.frames frame
    (List.mem_append_left _ (turn ▸ later))
  · rw [stock] at none
    cases none
  -- the number was drawn before the turn, and then once more after it
  have same := carries.unique carries'
  rw [counter_connected, draws_append] at same
  have eq := Counter.number_injective config.first (by omega) (by omega) same
  omega

/-- A frame that waits has been made since the state of the connection last changed. -/
theorem made_since {events : List Event}
    (waits : frame ∈ ((connected config display).steps events).client.stock) :
    ∃ made producer rest, events = made ++ producer :: rest ∧
      ((connected config display).steps made).client.Produces producer frame ∧
      Steady (((connected config display).steps made).further (producer :: rest)) := by
  induction events using List.reverseRecOn with
  | nil => cases waits
  | append_singleton before event ih =>
    have dry := dry config display before
    rw [steps_snoc] at waits
    by_cases old : frame ∈ ((connected config display).steps before).client.stock
    · obtain ⟨made, producer, rest, rfl, produces, steady⟩ := ih old
      refine ⟨made, producer, rest ++ [event], by simp, produces, ?_⟩
      rw [← List.cons_append, further_snoc]
      rcases steady_or_drops _ event dry with now | ⟨stock, -⟩
      · rw [steps_append] at now
        exact steady.append now
      · rw [stock] at waits
        cases waits
    · have produces : ((connected config display).steps before).client.Produces event frame :=
        ⟨.inl waits, old⟩
      refine ⟨before, event, [], rfl, produces, ?_⟩
      rw [further_cons]
      exact (produces.steady dry).append steady_nil

/-- A frame that is written has been made since the state of the connection last changed. -/
theorem written_since {event : Event}
    (written' : frame ∈ written (((connected config display).steps before).client.step event).2) :
    ∃ made producer rest, before ++ [event] = made ++ producer :: rest ∧
      ((connected config display).steps made).client.Produces producer frame ∧
      Steady (((connected config display).steps made).further (producer :: rest)) := by
  have dry := dry config display before
  have now : Steady (((connected config display).steps before).client.step event).2 := by
    rcases steady_or_drops _ event dry with steady | ⟨-, silent⟩
    · exact steady
    · rw [silent] at written'
      cases written'
  by_cases old : frame ∈ ((connected config display).steps before).client.stock
  · obtain ⟨made, producer, rest, rfl, produces, steady⟩ := made_since old
    refine ⟨made, producer, rest ++ [event], by simp, produces, ?_⟩
    rw [← List.cons_append, further_snoc]
    rw [steps_append] at now
    exact steady.append now
  · have produces : ((connected config display).steps before).client.Produces event frame :=
      ⟨.inr written', old⟩
    refine ⟨before, event, [], rfl, produces, ?_⟩
    rw [further_cons]
    exact now.append steady_nil

/-- What has been made on a connection whose state has changed since is not written any more. -/
theorem not_written_after_unsteady {made rest : List Event} {producer : Event}
    (few : (connected config display).draws (made ++ producer :: (rest ++ after)) < UInt64.size)
    (produces : ((connected config display).steps made).client.Produces producer frame)
    (unsteady : ¬ Steady (((connected config display).steps made).further (producer :: rest))) :
    frame ∉ written (((connected config display).steps (made ++ producer :: rest)).further
      after) := by
  have turn : (connected config display).steps (made ++ [producer]) =
      ((connected config display).steps made).step producer := steps_append _ _ _
  obtain ⟨state, entered⟩ : ∃ state, .entered state ∈
      ((connected config display).steps (made ++ [producer])).further rest := by
    have steady := produces.steady (dry config display made)
    rw [further_cons, ← turn] at unsteady
    by_contra none
    exact unsteady (steady.append fun state member => none ⟨state, member⟩)
  obtain ⟨front, event, back, rfl, there⟩ := mem_further entered
  rw [← steps_append] at there
  -- the number of the frame was drawn in the turn that made it
  obtain ⟨number, drawn, carries⟩ : ∃ number,
      Counter.Drawn config.first ((connected config display).draws (made ++ [producer])) number ∧
        Carries frame number := by
    refine drawn_of_made ?_
    rw [further_snoc, written_append, turn]
    rcases produces.1 with waits | now
    · exact List.mem_append_right _ waits
    · exact List.mem_append_left _ (List.mem_append_right _ now)
  have before : Counter.Drawn config.first
      ((connected config display).draws ((made ++ [producer]) ++ front)) number := by
    rw [draws_append]
    exact drawn.mono (Nat.le_add_right _ _)
  have gone : frame ∉ written (((connected config display).steps
      ((made ++ [producer]) ++ front)).further (event :: (back ++ after))) :=
    not_written_after_entered (by simpa using few) there before carries
  rw [← List.cons_append, further_append, written_append, List.mem_append, not_or,
    ← steps_append] at gone
  simpa using gone.2

/-- In every run in which the numbers do not come round: a frame that is written was made after the
state of the connection last changed; what is made, and what waits, before the state changes is not
written after it; and all frames that are written carry different numbers. -/
theorem frames_stay_with_connection (config : Config) (display : String) (events : List Event)
    (few : (connected config display).draws events < UInt64.size) :
    let run := connected config display
    (∀ before event after, events = before ++ event :: after →
      ∀ frame ∈ written ((run.steps before).client.step event).2,
        ∃ made producer rest, before ++ [event] = made ++ producer :: rest ∧
          (run.steps made).client.Produces producer frame ∧
          Steady ((run.steps made).further (producer :: rest))) ∧
    (∀ made producer rest after, events = made ++ producer :: (rest ++ after) →
      ∀ frame, (run.steps made).client.Produces producer frame →
        ¬ Steady ((run.steps made).further (producer :: rest)) →
        frame ∉ written ((run.steps (made ++ producer :: rest)).further after)) ∧
    (∀ before event after, events = before ++ event :: after →
      ∀ state, .entered state ∈ ((run.steps before).client.step event).2 →
        ∀ frame ∈ (run.steps before).client.stock,
          frame ∉ written ((run.steps before).further (event :: after))) ∧
    ∃ numbers, List.Forall₂ Carries (written (run.steps events).effects) numbers ∧
      numbers.Nodup := by
  intro run
  refine ⟨?_, ?_, ?_, ?_⟩
  · rintro before event after - frame written'
    exact written_since written'
  · rintro made producer rest after rfl frame produces unsteady
    exact not_written_after_unsteady few produces unsteady
  · rintro before event after rfl state entered frame waits
    obtain ⟨number, drawn, carries⟩ := drawn_of_made (List.mem_append_right _ waits)
    exact not_written_after_entered few entered drawn carries
  · have supplied := supplied run (dry_connected config display) events
    have effects : written (run.steps events).effects = written (run.further events) := by
      rw [effects_steps, written_append]
      rfl
    rw [effects]
    refine numbers_of_apart (fun frame member => ?_)
      ((supplied.apart rfl few).sublist (List.sublist_append_left _ _))
    obtain ⟨number, -, carries⟩ := drawn_of_made (List.mem_append_left _ member)
    exact ⟨number, carries⟩

/-- Of two frames that are made on the first connection one is written before the connection is
lost; the other is not written on the next one, and a third that is made there is. -/
theorem frames_stay_with_connection_over_two_connections :
    let run := connected .standard "ws://node"
    let ask := Event.subscribe [.string "newHeads"]
    let before := [ask, .write true, ask]
    let after := [.dial, .dialled true, ask, .write true]
    let frame := fun number => Socket.frame number subscribeMethod [.string "newHeads"]
    run.draws (before ++ .lose :: after) < UInt64.size ∧
      .entered .disconnected ∈ ((run.steps before).client.step .lose).2 ∧
      frame 2 ∈ (run.steps before).client.stock ∧
      frame 2 ∉ written ((run.steps before).further (.lose :: after)) ∧
      written (run.steps (before ++ .lose :: after)).effects = [frame 1, frame 3] ∧
      ∃ numbers, List.Forall₂ Carries [frame 1, frame 3] numbers ∧ numbers.Nodup := by
  intro run ask before after frame
  have few : run.draws (before ++ .lose :: after) < UInt64.size := by decide +kernel
  have entered : .entered .disconnected ∈ ((run.steps before).client.step .lose).2 := by
    rw [show ((run.steps before).client.step .lose).2 =
      (run.steps before).client.disconnect.2 from rfl]
    exact List.mem_cons_self
  have waits : frame 2 ∈ (run.steps before).client.stock := by decide +kernel
  have all : written (run.steps (before ++ .lose :: after)).effects = [frame 1, frame 3] := by
    decide +kernel
  clear_value before after
  obtain ⟨-, -, dropped, numbers⟩ :=
    frames_stay_with_connection .standard "ws://node" (before ++ .lose :: after) few
  rw [all] at numbers
  exact ⟨few, entered, waits, dropped before .lose after rfl _ entered _ waits, all, numbers⟩

end Run
end Socket
end NodeCall
