import NodeCall.Rpc.Id

/-!
# Requests

A JSON-RPC 2.0 request: a method, its parameters and an id.  The version defaults to `2.0`, the
parameters to an empty array and the id to none.
-/

namespace NodeCall

def protocolVersion : String := "2.0"

structure Request where
  version : String
  method : String
  params : Json
  id : RpcId

namespace Request

instance : Inhabited Request := ⟨⟨protocolVersion, "", .array [], .null⟩⟩

def new (id : RpcId) (method : String) (params : List Json) : Request :=
  ⟨protocolVersion, method, .array params, id⟩

def call (method : String) (params : List Json) : Request := new .null method params

def withId (request : Request) (id : RpcId) : Request := { request with id }

def beq (a b : Request) : Bool :=
  a.version == b.version && a.method == b.method && a.params == b.params && a.id == b.id

instance : BEq Request := ⟨beq⟩

def members (request : Request) : List (String × Json) :=
  [("jsonrpc", .string request.version), ("method", .string request.method),
    ("params", request.params), ("id", request.id.toJson)]

def envelope (request : Request) : Json := .object request.members

def text (request : Request) : String := request.envelope.text

structure Draft where
  version : Option String
  method : Option String
  params : Option Json
  id : Option RpcId

def Draft.empty : Draft := ⟨none, none, none, none⟩

def Draft.isSet (name : String) (draft : Draft) : Bool :=
  match name with
  | "jsonrpc" => draft.version.isSome
  | "method" => draft.method.isSome
  | "params" => draft.params.isSome
  | _ => draft.id.isSome

variable {τ : Type} [Json.Document.Source τ]

def Draft.store (name : String) (place : τ) (draft : Draft) : Json.Decoded Draft := do
  match name with
  | "jsonrpc" => return { draft with version := some (← Json.decodeString place) }
  | "method" => return { draft with method := some (← Json.decodeString place) }
  | "params" => return { draft with params := some (← Json.Document.Source.value place) }
  | _ => return { draft with id := some (← RpcId.decode place) }

def schema : Json.Schema τ Draft where
  name := "JsonRpcRequest"
  fields := ["jsonrpc", "method", "params", "id"]
  required := ["method"]
  isSet := Draft.isSet
  store := Draft.store

def Draft.request (draft : Draft) : Request where
  version := draft.version.getD protocolVersion
  method := draft.method.getD ""
  params := draft.params.getD (.array [])
  id := draft.id.getD .null

def decode (place : τ) : Json.Decoded Request :=
  (schema.decode Draft.empty place).map Draft.request

def ofText (s : String) : Json.Decoded Request := Json.decodeText decode s

def ofJson (v : Json) : Json.Decoded Request := decode v

end Request

def requestsText (requests : List Request) : String :=
  (Json.array (requests.map Request.envelope)).text

end NodeCall
