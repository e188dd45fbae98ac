import NodeCall.Rpc.NodeError
import NodeCall.Rpc.Request

/-!
# Responses and pushes

A response carries the id of its request and a result or an error.  A push of a subscription has
a method and parameters instead, among them the id of the subscription.  A member that is `null`
counts as left out.
-/

namespace NodeCall

structure Response where
  version : String
  id : RpcId
  result : Option Json
  error : Option NodeError
  method : Option String
  params : Option Json

/-- What a push says: which subscription it is for, and its news. -/
structure Notification where
  subscription : String
  result : Json

def pushMethod : String := "eth_subscription"

namespace Notification

structure Draft where
  subscription : Option String
  result : Option Json

def Draft.empty : Draft := ⟨none, none⟩

def Draft.isSet (name : String) (draft : Draft) : Bool :=
  match name with
  | "subscription" => draft.subscription.isSome
  | _ => draft.result.isSome

variable {τ : Type} [Json.Document.Source τ]

def Draft.store (name : String) (place : τ) (draft : Draft) : Json.Decoded Draft := do
  match name with
  | "subscription" => return { draft with subscription := some (← Json.decodeString place) }
  | _ => return { draft with result := some (← Json.Document.Source.value place) }

def schema : Json.Schema τ Draft where
  name := "SubscriptionNotification"
  fields := ["subscription", "result"]
  required := ["subscription"]
  isSet := Draft.isSet
  store := Draft.store

def Draft.notification (draft : Draft) : Notification where
  subscription := draft.subscription.getD ""
  result := draft.result.getD .null

def decode (place : τ) : Json.Decoded Notification :=
  (schema.decode Draft.empty place).map Draft.notification

def ofText (s : String) : Json.Decoded Notification := Json.decodeText decode s

def ofJson (v : Json) : Json.Decoded Notification := decode v

end Notification

namespace Response

instance : Inhabited Response := ⟨⟨protocolVersion, .null, none, none, none, none⟩⟩

def success (id : RpcId) (result : Json) : Response :=
  ⟨protocolVersion, id, some result, none, none, none⟩

def failure (id : RpcId) (error : NodeError) : Response :=
  ⟨protocolVersion, id, none, some error, none, none⟩

def withId (response : Response) (id : RpcId) : Response := { response with id }

def isOk (response : Response) : Bool := response.error.isNone && response.result.isSome

def isNotification (response : Response) : Bool := response.method.isSome

def notification (response : Response) : Option Notification :=
  if response.method = some pushMethod then
    response.params.bind fun v => (Notification.ofJson v).toOption
  else none

/-- The result, or `null` if there is none, unless there is an error. -/
def outcome (response : Response) : Except NodeError Json :=
  match response.error with
  | some error => .error error
  | none => .ok (response.result.getD .null)

def beq (a b : Response) : Bool :=
  a.version == b.version && a.id == b.id && a.result == b.result && a.error == b.error &&
    a.method == b.method && a.params == b.params

instance : BEq Response := ⟨beq⟩

def members (response : Response) : List (String × Json) :=
  ("jsonrpc", .string response.version) :: ("id", response.id.toJson) ::
    (NodeError.optionalMember "result" response.result ++
      NodeError.optionalMember "error" (response.error.map NodeError.envelope) ++
      NodeError.optionalMember "method" (response.method.map .string) ++
      NodeError.optionalMember "params" response.params)

def envelope (response : Response) : Json := .object response.members

def text (response : Response) : String := response.envelope.text

structure Draft where
  version : Option String
  id : Option RpcId
  result : Option (Option Json)
  error : Option (Option NodeError)
  method : Option (Option String)
  params : Option (Option Json)

def Draft.empty : Draft := ⟨none, none, none, none, none, none⟩

def Draft.isSet (name : String) (draft : Draft) : Bool :=
  match name with
  | "jsonrpc" => draft.version.isSome
  | "id" => draft.id.isSome
  | "result" => draft.result.isSome
  | "error" => draft.error.isSome
  | "method" => draft.method.isSome
  | _ => draft.params.isSome

variable {τ : Type} [Json.Document.Source τ]

def Draft.store (name : String) (place : τ) (draft : Draft) : Json.Decoded Draft := do
  match name with
  | "jsonrpc" => return { draft with version := some (← Json.decodeString place) }
  | "id" => return { draft with id := some (← RpcId.decode place) }
  | "result" =>
    return { draft with result := some (← Json.decodeOption Json.Document.Source.value place) }
  | "error" => return { draft with error := some (← Json.decodeOption NodeError.decode place) }
  | "method" => return { draft with method := some (← Json.decodeOption Json.decodeString place) }
  | _ =>
    return { draft with params := some (← Json.decodeOption Json.Document.Source.value place) }

def schema : Json.Schema τ Draft where
  name := "JsonRpcResponse"
  fields := ["jsonrpc", "id", "result", "error", "method", "params"]
  required := []
  isSet := Draft.isSet
  store := Draft.store

def Draft.response (draft : Draft) : Response where
  version := draft.version.getD protocolVersion
  id := draft.id.getD .null
  result := draft.result.getD none
  error := draft.error.getD none
  method := draft.method.getD none
  params := draft.params.getD none

def decode (place : τ) : Json.Decoded Response :=
  (schema.decode Draft.empty place).map Draft.response

def ofText (s : String) : Json.Decoded Response := Json.decodeText decode s

def ofBytes (bytes : List UInt8) : Json.Decoded Response := Json.decodeBytes decode bytes

def ofJson (v : Json) : Json.Decoded Response := decode v

end Response
end NodeCall
