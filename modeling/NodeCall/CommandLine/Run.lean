import NodeCall.CommandLine.Command
import NodeCall.Fallback.Transport

/-!
# Running commands

What each command does with connections, a clock and two streams of lines.  These come from
outside, so the same commands run over real sockets and over nodes that are only imagined.
-/

namespace NodeCall.CommandLine

structure Link (m : Type → Type) where
  url : String
  send : Request → m (Outcome Response)
  health : m Health
  close : m (Outcome Unit)

structure Feed (m : Type → Type) where
  url : String
  id : Option String
  /-- The next news; none when the connection is gone for good. -/
  next : m (Option Json)
  unsubscribe : m (Outcome Bool)
  close : m (Outcome Unit)

/-- What commands need of the world. -/
structure World (m : Type → Type) where
  connect : String → m (Outcome (Link m))
  subscribe : String → List Json → m (Outcome (Feed m))
  clock : m Nat
  print : String → m Unit
  notify : String → m Unit

inductive Failure
  | misuse (cause : Misuse)
  | transport (error : TransportError)
  | node (method : String) (error : NodeError)
  | closed

namespace Failure

def message : Failure → String
  | .misuse cause => cause.message
  | .transport error =>
    match error.source? with
    | some source => error.message ++ ": " ++ source
    | none => error.message
  | .node method error => method ++ " failed: " ++ error.display
  | .closed => "connection closed"

end Failure

section

variable {m : Type → Type} [Monad m]

abbrev Step (m : Type → Type) (α : Type) := ExceptT Failure m α

def Step.take {α : Type} (action : m (Outcome α)) : Step m α :=
  ExceptT.mk do
    match ← action with
    | .ok a => return .ok a
    | .error e => return .error (.transport e)

/-! ### Fallback -/

def follow (links : List (Link m)) (request : Request) (walk : Fallback.Walk) :
    m (Outcome Response) :=
  match links[walk.child]? with
  | none => return .error .shutdown
  | some link => do
    let outcome ← link.send request
    match _h : walk.advance outcome with
    | .done outcome => return outcome
    | .calling next => follow links request next
termination_by walk.later.length
decreasing_by exact Fallback.Walk.later_lt_of_advance _h

/-- Several connections as one, each of which is tried if those before it fail. -/
def fallback (links : List (Link m)) : Link m where
  url := Fallback.url
  send request :=
    match (Fallback.State.initial links.length).send .standard request.method with
    | .done outcome => return outcome
    | .calling walk => follow links request walk
  health := do return Fallback.health (← links.mapM (·.health))
  close := do return Fallback.closeOutcome (← links.mapM (·.close))

/-! ### Commands -/

def callString (link : Link m) (method : String) : Step m String :=
  Step.take do return typedResult link.url method Json.decodeString (← link.send (.call method []))

/-- The number that a node writes in hexadecimal digits; zero if it is none. -/
def quantity (text : String) : UInt64 :=
  match Decimal.word 16 (digits text.toList) with
  | .ok n => n
  | .error _ => 0
where
  digits : List Char → List Char
    | '0' :: 'x' :: rest => digits rest
    | rest => rest

def test (world : World m) (url : String) : Step m Unit := do
  let link ← Step.take (world.connect url)
  world.print ("Testing " ++ link.url ++ "...")
  let start ← world.clock
  let block ← callString link "eth_blockNumber"
  let finish ← world.clock
  let chain ← callString link "eth_chainId"
  world.print "  Status:       OK"
  world.print ("  Chain id:     " ++ chain)
  world.print ("  Block number: " ++ toString (quantity block) ++ " (" ++ block ++ ")")
  world.print ("  Latency:      " ++ toString (finish - start) ++ "ms")
  world.print ("  Health:       " ++ (← link.health).display)
  Step.take link.close

def connectAll (world : World m) : List String → Step m (List (Link m))
  | [] => return []
  | url :: rest => do
    let link ← Step.take (world.connect url)
    return link :: (← connectAll world rest)

def call (world : World m) (url method : String) (params : List Json) (fallbacks : List String) :
    Step m Unit := do
  let first ← Step.take (world.connect url)
  let link ←
    if fallbacks.isEmpty then pure first
    else pure (fallback (first :: (← connectAll world fallbacks)))
  let response ← Step.take (link.send (.call method params))
  match response.outcome with
  | .error error => throw (.node method error)
  | .ok result =>
    world.print result.prettyText
    Step.take link.close

def printNews (world : World m) (feed : Feed m) : Nat → Step m Unit
  | 0 => return
  | left + 1 => do
    match ← feed.next with
    | none => throw .closed
    | some news =>
      world.print news.text
      printNews world feed left

def subscribe (world : World m) (url kind : String) (count : UInt64) : Step m Unit := do
  let feed ← Step.take (world.subscribe url [.string kind])
  world.notify ("Subscribed to " ++ kind ++ " on " ++ feed.url ++ " (id " ++ feed.id.getD "" ++ ")")
  printNews world feed count.toNat
  let _ ← Step.take feed.unsubscribe
  Step.take feed.close

def Command.run (world : World m) : Command → Step m Unit
  | .help => usage.forM (world.print ·)
  | .version => world.print versionLine
  | .test url => CommandLine.test world url
  | .call url method params fallbacks => CommandLine.call world url method params fallbacks
  | .subscribe url kind count => CommandLine.subscribe world url kind count

/-- Runs the command that words ask for; the exit code tells whether all went well. -/
def run (world : World m) (words : List String) : m UInt32 := do
  match Command.ofWords words with
  | .error .noCommand =>
    usage.forM world.print
    return 1
  | .error (.unknown command) =>
    world.notify (Misuse.unknown command).message
    usage.forM world.print
    return 1
  | .error cause => fail (.misuse cause)
  | .ok command =>
    match ← (command.run world).run with
    | .ok () => return 0
    | .error failure => fail failure
where
  fail (failure : Failure) : m UInt32 := do
    world.notify ("Error: " ++ failure.message)
    return 1

end

end NodeCall.CommandLine
