import NodeCall.Fallback.Ranking
import NodeCall.Transport

/-!
# Fallback over several transports

A send walks over the children in the order it found at its start, one call at a time, until one
succeeds or says that the call was cancelled.  Every finished call but a cancelled one is counted
for its child.  Ranking changes the order of later sends only.
-/

namespace NodeCall.Fallback

structure RankConfig where
  interval : Duration
  weights : Weights Float

def RankConfig.standard : RankConfig := ⟨pollingInterval none, .standard⟩

/-- The configuration; without ranking the children keep their order. -/
structure Config where
  transport : TransportConfig
  rank : Option RankConfig

namespace Config

def standard : Config := ⟨.ofKind .fallback, some .standard⟩

def forBlockTime (blockTime : Option Duration) : Config :=
  { standard with rank := some { RankConfig.standard with interval := pollingInterval blockTime } }

def weights (config : Config) : Weights Float :=
  match config.rank with
  | some rank => rank.weights
  | none => .standard

end Config

def url : String := "fallback"

def requireChildren (children : Nat) : Outcome Unit :=
  if children = 0 then .error (.config "fallback transport needs at least one child transport")
  else .ok ()

/-- A send that is calling a child, and the children it has not tried yet. -/
structure Walk where
  child : Nat
  later : List Nat
  deriving DecidableEq, Repr

inductive Progress
  | calling (walk : Walk)
  | done (outcome : Outcome Response)

def Progress.start : List Nat → Progress
  | [] => .done (.error (.config "no child transports"))
  | child :: later => .calling ⟨child, later⟩

/-- What a send does after a call: it hands on a success or a cancellation and else tries the
next child; the error of the last child is its own. -/
def Walk.advance (walk : Walk) : Outcome Response → Progress
  | .ok response => .done (.ok response)
  | .error .cancelled => .done (.error .cancelled)
  | .error e =>
    match walk.later with
    | [] => .done (.error e)
    | child :: later => .calling ⟨child, later⟩

theorem Walk.later_lt_of_advance {walk next : Walk} {outcome : Outcome Response}
    (h : walk.advance outcome = .calling next) : next.later.length < walk.later.length := by
  unfold Walk.advance at h
  split at h
  · simp at h
  · simp at h
  · split at h
    · simp at h
    · next later heq => cases h; simp [heq]

def Stats.record (stats : Stats) (elapsed : Duration) : Outcome Response → Stats
  | .ok _ => stats.recordSuccess elapsed
  | .error .cancelled => stats
  | .error _ => stats.recordFailure

/-- The order of the children and what is known about each of them. -/
structure State where
  order : List Nat
  stats : List Stats

namespace State

def initial (children : Nat) : State :=
  ⟨List.range children, List.replicate children .fresh⟩

def send (config : Config) (state : State) (method : String) : Progress :=
  if config.transport.methods.allows method then .start state.order
  else .done (.error (.methodNotSupported method))

def record (state : State) (child : Nat) (elapsed : Duration) (outcome : Outcome Response) : State :=
  { state with stats := state.stats.modify child (·.record elapsed outcome) }

def rank (config : Config) (state : State) : State :=
  { state with order := reorder config.weights state.stats state.order }

end State

/-- The health of a transport with so many children, some of which are unhealthy. -/
def healthOf (children unhealthy : Nat) : Health :=
  if unhealthy = 0 then .healthy
  else if unhealthy = children then .unhealthy
  else .degraded

def health (children : List Health) : Health :=
  healthOf children.length (children.countP (· == .unhealthy))

def closeOutcome (results : List (Outcome Unit)) : Outcome Unit :=
  match results.filterMap fun
    | .ok () => none
    | .error e => some e with
  | [] => .ok ()
  | errors => .error (.close errors)

/-- The time of the ranking tick with the given number, counted from one. -/
def tickAt (interval : Duration) (n : Nat) : Nat := (n * interval.nanos + 999999) / 1000000

/-! ### Runs with many sends -/

/-- A ranking that takes its steps one by one: it has looked at the stats, then also at the order,
which it has sorted, or it is over. -/
inductive Ranking
  | measured (stats : List Stats)
  | sorted (found next : List Nat)
  | over

/-- What can happen: a send begins, the call of a send finishes, the children are ranked.  A
ranking takes place at once, or between its steps other things happen. -/
inductive Event
  | send (method : String)
  | finish (send : Nat) (elapsed : Duration) (outcome : Outcome Response)
  | rank
  /-- A ranking begins with the present stats. -/
  | measure
  | sort (ranking : Nat)
  | swap (ranking : Nat)

/-- The state together with all sends and all rankings so far, in the order of their beginning. -/
structure Run where
  state : State
  sends : List Progress
  rankings : List Ranking

namespace Run

def initial (children : Nat) : Run := ⟨.initial children, [], []⟩

/-- The run after an event; one that does not fit its send or its ranking changes nothing. -/
def step (config : Config) (run : Run) : Event → Run
  | .send method => { run with sends := run.sends ++ [run.state.send config method] }
  | .rank => { run with state := run.state.rank config }
  | .measure => { run with rankings := run.rankings ++ [.measured run.state.stats] }
  | .sort ranking =>
    match run.rankings[ranking]? with
    | some (.measured stats) =>
      let next := reorder config.weights stats run.state.order
      { run with rankings := run.rankings.set ranking (.sorted run.state.order next) }
    | _ => run
  | .swap ranking =>
    match run.rankings[ranking]? with
    | some (.sorted found next) =>
      let order := if next = found then run.state.order else next
      { run with state := { run.state with order }, rankings := run.rankings.set ranking .over }
    | _ => run
  | .finish send elapsed outcome =>
    match run.sends[send]? with
    | some (.calling walk) =>
      { run with
        state := run.state.record walk.child elapsed outcome
        sends := run.sends.set send (walk.advance outcome) }
    | _ => run

def steps (config : Config) (run : Run) (events : List Event) : Run :=
  events.foldl (step config) run

end Run
end NodeCall.Fallback
