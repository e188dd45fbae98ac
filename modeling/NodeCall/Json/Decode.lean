import NodeCall.Json.Meaning
import NodeCall.Json.Printer
import NodeCall.Text.Quoted

/-!
# Decoding records from JSON

A record is an object with named members or an array with its fields in order.  It is decoded
from a text, where the first fault in the order of the text is reported, or from a value.  Both
are documents with the same three questions: what stands at a place, what value it has, and
whether it may be skipped.
-/

namespace NodeCall.Json

inductive Found
  | null
  | bool (value : Bool)
  | integer (value : Int)
  | double (value : Float)
  | string (value : String)
  | sequence
  | map
  deriving DecidableEq

inductive Expected
  | string
  | signedWord
  | word
  | bool
  | sequence
  | record (name : String)
  deriving DecidableEq, Repr

inductive Mismatch
  | wrongType (found : Found) (expected : Expected)
  | outOfRange (value : Int) (expected : Expected)
  | duplicateField (name : String)
  | missingField (name : String)
  | tooShort (length : Nat) (record : String) (fields : Nat)
  | tooLong (length : Nat)
  | badId
  deriving DecidableEq

/-- Why decoding fails: the text is not JSON, or the value has another shape. -/
inductive Failure
  | fault (fault : Fault)
  | mismatch (mismatch : Mismatch)
  deriving DecidableEq

def Found.text : Found → String
  | .null => "null"
  | .bool value => "boolean `" ++ toString value ++ "`"
  | .integer value => "integer `" ++ toString value ++ "`"
  | .double value => "floating point `" ++ numberLayout.float value ++ "`"
  | .string value => "string " ++ Text.quoted value
  | .sequence => "sequence"
  | .map => "map"

def Expected.text : Expected → String
  | .string => "a string"
  | .signedWord => "i64"
  | .word => "u64"
  | .bool => "a boolean"
  | .sequence => "a sequence"
  | .record name => "struct " ++ name

def plural (n : Nat) (noun : String) : String :=
  toString n ++ " " ++ noun ++ (if n = 1 then "" else "s")

def Mismatch.message : Mismatch → String
  | .wrongType found expected => "invalid type: " ++ found.text ++ ", expected " ++ expected.text
  | .outOfRange value expected =>
    "invalid value: " ++ (Found.integer value).text ++ ", expected " ++ expected.text
  | .duplicateField name => "duplicate field `" ++ name ++ "`"
  | .missingField name => "missing field `" ++ name ++ "`"
  | .tooShort length record fields =>
    "invalid length " ++ toString length ++ ", expected struct " ++ record ++ " with " ++
      plural fields "element"
  | .tooLong length => "invalid length " ++ toString length ++ ", expected fewer elements in array"
  | .badId => "data did not match any variant of untagged enum RpcId"

abbrev Decoded (α : Type) := Except Failure α

/-! ### Documents -/

/-- What stands at a place of a document.  Arrays and objects end with a fault when broken off. -/
inductive View (τ : Type)
  | null
  | bool (value : Bool)
  | number (value : Number)
  | string (value : String)
  | items (items : List τ) (broken : Option Fault)
  | members (members : List (Except Fault String × τ)) (broken : Option Fault)
  | fault (fault : Fault)

class Document.Source (τ : Type) where
  view : τ → View τ
  value : τ → Decoded Json
  skip : τ → Decoded Unit
  overfull : Nat → Failure

open Document (Source)

instance : Source Json where
  view
    | .null => .null
    | .bool b => .bool b
    | .number n => .number n
    | .string s => .string s
    | .array items => .items items none
    | .object members => .members (members.map fun (k, v) => (.ok k, v)) none
  value := .ok
  skip _ := .ok ()
  overfull length := .mismatch (.tooLong length)

/-- A tree whose arrays and objects may nest so deep. -/
structure Place where
  depth : Nat
  tree : Tree

def Place.view (p : Place) : View Place :=
  match p.tree with
  | .null => .null
  | .bool b => .bool b
  | .numeral n =>
    match n.number? with
    | some value => .number value
    | none => .fault .malformed
  | .word (.text s) => .string s
  | .word .unpaired => .fault .malformed
  | .cut stop => .fault stop.taken
  | .array items broken =>
    match p.depth with
    | 0 => .fault .malformed
    | depth + 1 => .items (items.map (Place.mk depth)) (broken.map (·.taken))
  | .object members broken =>
    match p.depth with
    | 0 => .fault .malformed
    | depth + 1 =>
      .members (members.map fun (key, tree) => (key.value, ⟨depth, tree⟩)) (broken.map (·.taken))

instance : Source Place where
  view := Place.view
  value p := (p.tree.value p.depth).mapError .fault
  skip p := p.tree.skip.mapError .fault
  overfull _ := .fault .malformed

variable {τ : Type} [Source τ]

/-! ### Single places -/

def View.refuse {α : Type} (view : View τ) (expected : Expected) : Decoded α :=
  match view with
  | .null => .error (.mismatch (.wrongType .null expected))
  | .bool b => .error (.mismatch (.wrongType (.bool b) expected))
  | .number (.integer n _) => .error (.mismatch (.wrongType (.integer n) expected))
  | .number (.double x _) => .error (.mismatch (.wrongType (.double x) expected))
  | .string s => .error (.mismatch (.wrongType (.string s) expected))
  | .items _ _ => .error (.mismatch (.wrongType .sequence expected))
  | .members _ _ => .error (.mismatch (.wrongType .map expected))
  | .fault f => .error (.fault f)

def decodeString (place : τ) : Decoded String :=
  match Source.view place with
  | .string s => .ok s
  | view => view.refuse .string

def decodeInt64 (place : τ) : Decoded Int64 :=
  match Source.view place with
  | .number (.integer n _) =>
    if n < 0x8000000000000000 then .ok (Int64.ofInt n) else .error (.mismatch (.outOfRange n .signedWord))
  | view => view.refuse .signedWord

def decodeUInt64 (place : τ) : Decoded UInt64 :=
  match Source.view place with
  | .number (.integer n _) =>
    if 0 ≤ n then .ok n.toNat.toUInt64 else .error (.mismatch (.outOfRange n .word))
  | view => view.refuse .word

def decodeBool (place : τ) : Decoded Bool :=
  match Source.view place with
  | .bool b => .ok b
  | view => view.refuse .bool

/-- Nothing for `null`, else what the decoder makes of the place. -/
def decodeOption {α : Type} (decode : τ → Decoded α) (place : τ) : Decoded (Option α) :=
  match Source.view place with
  | .null => .ok none
  | _ => (decode place).map some

def decodeItems {α : Type} (decode : τ → Decoded α) : List τ → Option Fault → Decoded (List α)
  | [], none => .ok []
  | [], some fault => .error (.fault fault)
  | place :: rest, broken => do
    let item ← decode place
    let items ← decodeItems decode rest broken
    return item :: items

def decodeList {α : Type} (decode : τ → Decoded α) (place : τ) : Decoded (List α) :=
  match Source.view place with
  | .items items broken => decodeItems decode items broken
  | view => view.refuse .sequence

/-! ### Records -/

/-- The fields of a record in order, and how one of them is put into an unfinished record. -/
structure Schema (τ δ : Type) where
  name : String
  fields : List String
  required : List String
  isSet : String → δ → Bool
  store : String → τ → δ → Decoded δ

variable {δ : Type}

/-- The unfinished record with the members of an object; others than its fields are skipped. -/
def Schema.takeMembers (schema : Schema τ δ) :
    List (Except Fault String × τ) → Option Fault → δ → Decoded δ
  | [], none, draft => .ok draft
  | [], some fault, _ => .error (.fault fault)
  | (.error fault, _) :: _, _, _ => .error (.fault fault)
  | (.ok key, place) :: rest, broken, draft =>
    if key ∈ schema.fields then
      if schema.isSet key draft then .error (.mismatch (.duplicateField key))
      else do schema.takeMembers rest broken (← schema.store key place draft)
    else do
      Source.skip place
      schema.takeMembers rest broken draft

/-- The failure to find the first required field that an object leaves out. -/
def Schema.checkMembers (schema : Schema τ δ) (draft : δ) : Decoded Unit :=
  match schema.fields.find? fun f => f ∈ schema.required && !schema.isSet f draft with
  | some name => .error (.mismatch (.missingField name))
  | none => .ok ()

/-- The unfinished record with the items of an array, from the field with the given index on.
An array that ends before a required field is too short. -/
def Schema.takeItems (schema : Schema τ δ) (total : Nat) :
    List String → Nat → List τ → Option Fault → δ → Decoded δ
  | [], _, _ :: _, _, _ => .error (Source.overfull τ total)
  | [], _, [], none, draft => .ok draft
  | [], _, [], some fault, _ => .error (.fault fault)
  | field :: fields, index, place :: rest, broken, draft => do
    schema.takeItems total fields (index + 1) rest broken (← schema.store field place draft)
  | _ :: _, _, [], some fault, _ => .error (.fault fault)
  | field :: fields, index, [], none, draft =>
    if field ∈ schema.required then
      .error (.mismatch (.tooShort index schema.name schema.fields.length))
    else schema.takeItems total fields (index + 1) [] none draft

def Schema.decode (schema : Schema τ δ) (empty : δ) (place : τ) : Decoded δ :=
  match Source.view place with
  | .members members broken => do
    let draft ← schema.takeMembers members broken empty
    schema.checkMembers draft
    return draft
  | .items items broken => schema.takeItems items.length schema.fields 0 items broken empty
  | view => view.refuse (.record schema.name)

def Document.decode {α : Type} (document : Document) (decode : Place → Decoded α) : Decoded α := do
  let result ← decode ⟨maxDepth, document.tree⟩
  if document.trailing then .error (.fault .malformed) else return result

def decodeText {α : Type} (decode : Place → Decoded α) (s : String) : Decoded α :=
  (Document.ofText s.toList).decode decode

def decodeBytes {α : Type} (decode : Place → Decoded α) (bytes : List UInt8) : Decoded α :=
  (Document.ofBytes bytes).decode decode

end NodeCall.Json
