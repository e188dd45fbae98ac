import NodeCall.Json.Decode

/-!
# Node errors

The error object with which a node answers a request that it could not serve.
-/

namespace NodeCall

structure NodeError where
  code : Int64
  message : String
  data : Option Json

namespace NodeError

def unknown : Int64 := -1
def parseError : Int64 := -32700
def invalidRequest : Int64 := -32600
def methodNotFound : Int64 := -32601
def invalidParams : Int64 := -32602
def internalError : Int64 := -32603
def limitExceeded : Int64 := -32005

def new (code : Int64) (message : String) : NodeError := ⟨code, message, none⟩

def isTransient (error : NodeError) : Bool :=
  error.code = unknown || error.code = limitExceeded || error.code = internalError

def display (error : NodeError) : String :=
  "JSON-RPC error " ++ toString error.code ++ ": " ++ error.message

def beq (a b : NodeError) : Bool :=
  a.code == b.code && a.message == b.message && a.data == b.data

instance : BEq NodeError := ⟨beq⟩

def optionalMember (name : String) (value : Option Json) : List (String × Json) :=
  match value with
  | some v => [(name, v)]
  | none => []

def members (error : NodeError) : List (String × Json) :=
  ("code", .number (.ofInt64 error.code)) :: ("message", .string error.message) ::
    optionalMember "data" error.data

def envelope (error : NodeError) : Json := .object error.members

def text (error : NodeError) : String := error.envelope.text

structure Draft where
  code : Option Int64
  message : Option String
  data : Option (Option Json)

def Draft.empty : Draft := ⟨none, none, none⟩

def Draft.isSet (name : String) (draft : Draft) : Bool :=
  match name with
  | "code" => draft.code.isSome
  | "message" => draft.message.isSome
  | _ => draft.data.isSome

variable {τ : Type} [Json.Document.Source τ]

def Draft.store (name : String) (place : τ) (draft : Draft) : Json.Decoded Draft := do
  match name with
  | "code" => return { draft with code := some (← Json.decodeInt64 place) }
  | "message" => return { draft with message := some (← Json.decodeString place) }
  | _ =>
    return { draft with data := some (← Json.decodeOption Json.Document.Source.value place) }

def schema : Json.Schema τ Draft where
  name := "JsonRpcError"
  fields := ["code", "message", "data"]
  required := ["code", "message"]
  isSet := Draft.isSet
  store := Draft.store

def Draft.error (draft : Draft) : NodeError where
  code := draft.code.getD 0
  message := draft.message.getD ""
  data := draft.data.getD none

def decode (place : τ) : Json.Decoded NodeError :=
  (schema.decode Draft.empty place).map Draft.error

def ofText (s : String) : Json.Decoded NodeError := Json.decodeText decode s

def ofJson (v : Json) : Json.Decoded NodeError := decode v

end NodeError
end NodeCall
