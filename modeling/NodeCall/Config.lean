import NodeCall.Duration

/-!
# Transport configuration

Which methods a transport may call, how it retries, and how long an attempt may take.
-/

namespace NodeCall

structure MethodFilter where
  included : List String
  excluded : List String
  deriving DecidableEq, Repr

namespace MethodFilter

def all : MethodFilter := ⟨[], []⟩

/-- An excluded method never passes, any other one if it is included or nothing is. -/
def allows (filter : MethodFilter) (method : String) : Bool :=
  !filter.excluded.contains method &&
    (filter.included.isEmpty || filter.included.contains method)

end MethodFilter

inductive TransportKind
  | http
  | webSocket
  | fallback
  | custom
  deriving DecidableEq, Repr

namespace TransportKind

def all : List TransportKind := [.http, .webSocket, .fallback, .custom]

def display : TransportKind → String
  | .http => "http"
  | .webSocket => "webSocket"
  | .fallback => "fallback"
  | .custom => "custom"

def label : TransportKind → String
  | .http => "Http"
  | .webSocket => "WebSocket"
  | .fallback => "Fallback"
  | .custom => "Custom"

def defaultName : TransportKind → String
  | .http => "HTTP JSON-RPC"
  | .webSocket => "WebSocket JSON-RPC"
  | .fallback => "Fallback"
  | .custom => "Custom Provider"

end TransportKind

/-- Identity and request policy of a transport. -/
structure TransportConfig where
  name : String
  key : String
  kind : TransportKind
  methods : MethodFilter
  retryCount : UInt32
  /-- The wait before the second attempt. -/
  retryDelay : Duration
  timeout : Duration
  /-- Whether node errors are handed back inside responses. -/
  raw : Bool
  deriving DecidableEq, Repr

namespace TransportConfig

def defaultRetryCount : UInt32 := 3

def defaultRetryDelay : Duration := .ofMillis 150

def ofKind (kind : TransportKind) : TransportConfig where
  name := kind.defaultName
  key := kind.display
  kind := kind
  methods := .all
  retryCount := defaultRetryCount
  retryDelay := defaultRetryDelay
  timeout := .ofSecs 10
  raw := false

def custom : TransportConfig := ofKind .custom

end TransportConfig

def minPollingInterval : Duration := .ofMillis 500

def maxPollingInterval : Duration := .ofSecs 4

/-- Half the time between two blocks, within bounds; the upper bound when it is not known. -/
def pollingInterval (blockTime : Option Duration) : Duration :=
  match blockTime with
  | some time => time.half.clamp minPollingInterval maxPollingInterval
  | none => maxPollingInterval

end NodeCall
