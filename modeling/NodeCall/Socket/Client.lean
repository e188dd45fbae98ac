import NodeCall.Socket.Client.Callers
import NodeCall.Socket.Client.Connection

/-!
# WebSocket client

Many callers share one connection, which has a task of its own.  Callers and the task take turns:
the client is a state, and each turn is an event that changes it and brings about effects.
-/

namespace NodeCall.Socket

namespace Client

/-- The client after a turn; one that does not fit where its party stands changes nothing. -/
def step (client : Client) : Event → Client × List Effect
  | .send request => client.send request
  | .subscribe params => client.subscribe params
  | .unsubscribe key => client.unsubscribe key
  | .resume caller => client.resume caller
  | .timeout caller number => client.giveUp caller number
  | .wake caller => client.wake caller
  | .leave caller => (client.leave caller, [])
  | .close => ({ client with closing := true }, [])
  | .write succeeds => client.write succeeds
  | .receive text =>
    match client.phase with
    | .serving => client.receive text
    | _ => (client, [])
  | .lose =>
    match client.phase with
    | .serving => client.disconnect
    | _ => (client, [])
  | .tick =>
    match client.phase with
    | .serving =>
      if client.config.keepAlive.isSome then (client.writeOwn keepAliveMethod [], [])
      else (client, [])
    | _ => (client, [])
  | .stop =>
    if client.closing then
      match client.phase with
      | .serving | .pausing _ | .dialling _ => client.shutDown
      | _ => (client, [])
    else (client, [])
  | .dial =>
    match client.phase with
    | .pausing dial => ({ client with phase := .dialling dial }, [.dialling])
    | _ => (client, [])
  | .dialled succeeds =>
    match client.phase with
    | .dialling dial => client.dialled dial succeeds
    | _ => (client, [])

end Client

/-! ### Runs -/

structure Run where
  client : Client
  effects : List Effect

namespace Run

def start (client : Client) : Run := ⟨client, [.entered .connecting, .entered .connected]⟩

def step (run : Run) (event : Event) : Run :=
  let (client, effects) := run.client.step event
  ⟨client, run.effects ++ effects⟩

def steps (run : Run) (events : List Event) : Run := events.foldl step run

end Run
end NodeCall.Socket
