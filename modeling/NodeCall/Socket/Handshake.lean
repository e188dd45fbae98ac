import NodeCall.Http.Endpoint

/-!
# Handshakes

What a WebSocket connection is opened with: a URL that names a host, and perhaps credentials in
the basic scheme.  The URL must be one that can be requested.
-/

namespace NodeCall.Socket

/-- What is sent to open a connection. -/
structure Handshake where
  url : String
  authorization : Option String
  deriving DecidableEq, Repr

def handshake (url : Url) (credentials : Option Credentials) : Outcome Handshake :=
  match Url.Strict.check url.chars with
  | .ok () => .ok ⟨url.text, credentials.map Credentials.basic⟩
  | .error e => .error (.config ("invalid WebSocket URL: HTTP format error: " ++ e.message))

inductive Dial
  | opened
  | failed (reason : String)
  | silent

def Dial.outcome (timeout : Duration) : Dial → Outcome Unit
  | .opened => .ok ()
  | .failed reason => .error (.webSocket reason)
  | .silent => .error (.timeout timeout.millisWord)

end NodeCall.Socket
