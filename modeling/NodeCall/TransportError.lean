import NodeCall.Duration
import NodeCall.Rpc.Response

/-!
# Transport errors

What can become of a call other than a response, how each error is worded, and which of them are
worth another attempt.  The wording of an answer that cannot be read leaves out where in the answer
the trouble is; for a text that is not JSON it tells the kind of the fault only.
-/

namespace NodeCall

inductive DecodeCause
  | fault (fault : Json.Fault)
  | reason (text : String)
  deriving DecidableEq, Repr

namespace DecodeCause

def text : DecodeCause → String
  | .fault f => f.message
  | .reason text => text

def ofFailure : Json.Failure → DecodeCause
  | .fault f => .fault f
  | .mismatch mismatch => .reason mismatch.message

end DecodeCause

inductive TransportError
  | config (reason : String)
  | methodNotSupported (method : String)
  | rpc (error : NodeError) (url body : String)
  | http (status : UInt16) (body url : String) (retryAfter : Option Duration)
  | network (reason : String)
  | webSocket (reason : String)
  | socketClosed
  | deserialization (cause : DecodeCause)
  | timeout (millis : UInt64)
  | cancelled
  | missingResponse (id : RpcId)
  | shutdown
  | close (errors : List TransportError)

inductive ErrorKind
  | configuration
  | methodNotAllowed
  | rpc
  | transport
  | timeout
  | cancelled
  | missingResponse
  | shutdown
  deriving DecidableEq, Repr

namespace TransportError

instance : Inhabited TransportError := ⟨.shutdown⟩

mutual

def message : TransportError → String
  | .config reason => "configuration error: " ++ reason
  | .methodNotSupported method => "method not supported: " ++ method
  | .rpc error url _ => "RPC error " ++ toString error.code ++ " from " ++ url ++ ": " ++ error.message
  | .http status body url _ => "HTTP " ++ toString status ++ " from " ++ url ++ ": " ++ body
  | .network reason => "network error: " ++ reason
  | .webSocket reason => "WebSocket error: " ++ reason
  | .socketClosed => "socket closed"
  | .deserialization cause => "deserialization error: " ++ cause.text
  | .timeout millis => "request timed out after " ++ toString millis ++ "ms"
  | .cancelled => "request cancelled"
  | .missingResponse id => "missing response for request " ++ id.display
  | .shutdown => "transport shut down"
  | .close errors =>
    "failed to close " ++ toString errors.length ++ " transport(s): " ++
      "; ".intercalate (messages errors)

def messages : List TransportError → List String
  | [] => []
  | e :: rest => message e :: messages rest

end

def kind : TransportError → ErrorKind
  | .config _ => .configuration
  | .methodNotSupported _ => .methodNotAllowed
  | .rpc .. => .rpc
  | .http .. | .network _ | .webSocket _ | .socketClosed | .deserialization _ => .transport
  | .timeout _ => .timeout
  | .cancelled => .cancelled
  | .missingResponse _ => .missingResponse
  | .shutdown | .close _ => .shutdown

def retryableStatuses : List UInt16 := [403, 408, 413, 429, 500, 502, 503, 504]

def isRetryable : TransportError → Bool
  | .rpc error _ _ => error.isTransient
  | .http status _ _ _ => status ∈ retryableStatuses
  | .network _ | .webSocket _ | .socketClosed | .deserialization _ | .timeout _ => true
  | _ => false

def retryAfter : TransportError → Option Duration
  | .http _ _ _ wait => wait
  | _ => none

def nodeError? : TransportError → Option NodeError
  | .rpc error _ _ => some error
  | _ => none

def isExecutionError (e : TransportError) : Bool := e.nodeError?.isSome

def source? (e : TransportError) : Option String := e.nodeError?.map NodeError.display

def ofFailure (failure : Json.Failure) : TransportError :=
  .deserialization (.ofFailure failure)

end TransportError

abbrev Outcome (α : Type) := Except TransportError α

def Outcome.ofDecoded {α : Type} (decoded : Json.Decoded α) : Outcome α :=
  decoded.mapError TransportError.ofFailure

end NodeCall
