import NodeCall.Decimal.Word
import NodeCall.Endpoint
import NodeCall.Rpc.Response
import NodeCall.Text.Base64
import NodeCall.Text.Blank
import NodeCall.Url.Strict

/-!
# HTTP endpoints

A node that is reached by POST requests.  A request or a list of requests becomes the body of one
POST, and what comes back for it becomes a response, a list of responses, or an error.
-/

namespace NodeCall

def Credentials.basic (credentials : Credentials) : String :=
  let pair := credentials.username ++ ":" ++ credentials.password.getD ""
  "Basic " ++ String.ofList (Text.Base64.encode (Text.Utf8.encode pair.toList))

namespace Http

structure Post where
  url : Url
  headers : List (String × String)
  body : String

/-- Why nothing, or not all, came back. -/
inductive Loss
  | timeout
  | broken (reason : String)
  deriving DecidableEq, Repr

/-- The body of an answer, which need not be a text. -/
structure Body where
  bytes : List UInt8
  deriving DecidableEq, Repr

namespace Body

def ofText (s : String) : Body := ⟨Text.Utf8.encode s.toList⟩

instance : Coe String Body := ⟨ofText⟩

/-- The body as a text, whatever its bytes are. -/
def text (body : Body) : String := String.ofList (Text.Utf8.decode body.bytes)

end Body

/-- What comes back for a POST: an answer, whose body may be cut off, or nothing. -/
inductive Delivery
  | answer (status : UInt16) (retryAfter : Option String) (body : Except Loss Body)
  | lost (loss : Loss)

structure Endpoint where
  url : Url
  display : String
  credentials : Option Credentials
  headers : List (String × String)
  timeout : Duration

def isNameChar (c : Char) : Bool :=
  c.isAlphanum ||
    ['!', '#', '$', '%', '&', '\'', '*', '+', '-', '.', '^', '_', '\x60', '|', '~'].contains c

def isValueChar (c : Char) : Bool := c = '\t' || (0x20 ≤ c.toNat && c.toNat ≠ 0x7F)

/-- A header that can be sent: its name has at most as many characters as a 16-bit word counts. -/
def isLegalHeader (header : String × String) : Bool :=
  !header.1.isEmpty && header.1.toList.length ≤ 0xFFFF && header.1.toList.all isNameChar &&
    header.2.toList.all isValueChar

/-- A URL that can be posted to: one of the web's two schemes, a host, and nothing in it that the
stricter grammar refuses. -/
def isPostable (url : Url) : Bool :=
  [['h', 't', 't', 'p'], ['h', 't', 't', 'p', 's']].contains url.scheme && url.host.isSome &&
    (Url.Strict.check url.chars).isOk

namespace Endpoint

def allHeaders (endpoint : Endpoint) : List (String × String) :=
  ("content-type", "application/json") ::
    (endpoint.headers ++ endpoint.credentials.toList.map fun c => ("authorization", c.basic))

def canPost (endpoint : Endpoint) : Bool :=
  isPostable endpoint.url && endpoint.headers.all isLegalHeader

/-- The POST with a body; it is refused while it is built if the URL or a header does not allow it. -/
def post (endpoint : Endpoint) (body : String) : Outcome Post :=
  if endpoint.canPost then .ok ⟨endpoint.url, endpoint.allHeaders, body⟩
  else .error (.network "builder error")

def lossError (endpoint : Endpoint) : Loss → TransportError
  | .timeout => .timeout endpoint.timeout.millisWord
  | .broken reason => .network reason

def retryAfter? (value : String) : Option Duration :=
  let chars := value.toList
  if chars.all fun c => c = '\t' || (0x20 ≤ c.toNat && c.toNat < 0x7F) then
    match Decimal.word 10 (Text.trim chars) with
    | .ok secs => some (.ofSecs secs)
    | .error _ => none
  else none

/-- The body of an answer that tells of success. -/
def received (endpoint : Endpoint) : Delivery → Outcome Body
  | .lost loss => .error (endpoint.lossError loss)
  | .answer status retryAfter body =>
    if 200 ≤ status && status < 300 then body.mapError endpoint.lossError
    else
      .error (.http status ((body.map Body.text).toOption.getD "") endpoint.display
        (retryAfter.bind retryAfter?))

def response (endpoint : Endpoint) (delivery : Delivery) : Outcome Response := do
  .ofDecoded (Response.ofBytes (← endpoint.received delivery).bytes)

/-- The responses in a JSON value that answers a list of requests.  A single error object stands
for the rejection of the whole list. -/
def responsesOf (endpoint : Endpoint) (requests : List Request) : Json → Outcome (List Response)
  | .array items => items.mapM fun item => .ofDecoded (Response.ofJson item)
  | .object members =>
    match (Json.object members).get? "error" with
    | some error => do
      throw (.rpc (← .ofDecoded (NodeError.ofJson error)) endpoint.display (requestsText requests))
    | none => .error (.deserialization (.reason "expected a JSON array in reply to a batch"))
  | other => .error (.deserialization (.reason ("unexpected batch reply: " ++ other.text)))

def responses (endpoint : Endpoint) (requests : List Request) (delivery : Delivery) :
    Outcome (List Response) := do
  let body ← endpoint.received delivery
  let value ← Outcome.ofDecoded ((Json.ofBytes body.bytes).mapError .fault)
  endpoint.responsesOf requests value

/-- The body that a list of requests is posted as; nothing is posted for an empty one. -/
def listBody? (requests : List Request) : Option String :=
  if requests.isEmpty then none else some (requestsText requests)

def exchange (endpoint : Endpoint) (wire : Post → Delivery) (requests : List Request) :
    Outcome (List Response) :=
  match listBody? requests with
  | none => .ok []
  | some body => do endpoint.responses requests (wire (← endpoint.post body))

end Endpoint
end Http
end NodeCall
