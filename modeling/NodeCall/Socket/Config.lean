import NodeCall.Config
import NodeCall.IdGenerator
import NodeCall.Transport

/-!
# WebSocket configuration

The stages of a connection's life, and when it is kept alive and made again.
-/

namespace NodeCall.Socket

inductive State
  | connecting
  | connected
  | disconnected
  | reconnecting
  | closed
  deriving DecidableEq, Repr

namespace State

def all : List State := [.connecting, .connected, .disconnected, .reconnecting, .closed]

def display : State → String
  | .connecting => "connecting"
  | .connected => "connected"
  | .disconnected => "disconnected"
  | .reconnecting => "reconnecting"
  | .closed => "closed"

def health : State → Health
  | .connected => .healthy
  | .closed => .unhealthy
  | _ => .degraded

end State

/-- Whether, after what wait and how often a lost connection is dialled again. -/
structure Reconnect where
  enabled : Bool
  delay : Duration
  maxAttempts : UInt32
  deriving DecidableEq, Repr

def Reconnect.standard : Reconnect := ⟨true, .ofSecs 2, 5⟩

structure Config where
  transport : TransportConfig
  keepAlive : Option Duration
  reconnect : Reconnect
  /-- The first number that the client's frames travel under. -/
  first : Counter

def Config.standard : Config := ⟨.ofKind .webSocket, some (.ofSecs 30), .standard, Counter.one⟩

end NodeCall.Socket
