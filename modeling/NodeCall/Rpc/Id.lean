import NodeCall.Json.Decode

/-!
# Request ids

A request is known by a number, a text or nothing.  A request without an id gets a number before
it is sent.
-/

namespace NodeCall

inductive RpcId
  | number (value : UInt64)
  | text (value : String)
  | null
  deriving DecidableEq, Repr

namespace RpcId

instance : Inhabited RpcId := ⟨.null⟩

def isNull : RpcId → Bool
  | .null => true
  | _ => false

def toJson : RpcId → Json
  | .number n => .ofUInt64 n
  | .text s => .string s
  | .null => .null

def display : RpcId → String
  | .number n => toString n
  | .text s => s
  | .null => "null"

def ofJson? : Json → Option RpcId
  | .number (.integer n _) => if 0 ≤ n then some (.number n.toNat.toUInt64) else none
  | .string s => some (.text s)
  | .null => some .null
  | _ => none

/-- An id is a natural number below 2^64, a string or `null`. -/
def decode {τ : Type} [Json.Document.Source τ] (place : τ) : Json.Decoded RpcId := do
  match ofJson? (← Json.Document.Source.value place) with
  | some id => return id
  | none => .error (.mismatch .badId)

end RpcId
end NodeCall
