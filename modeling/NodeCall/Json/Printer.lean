import NodeCall.Decimal.Layout
import NodeCall.Json.Value

/-!
# JSON text of a value

The compact text has no blanks.  A string escapes the quotation mark, the backslash and the
characters below the space, five of them by a letter and the others by four hexadecimal digits;
all else is written as it is.  The indented text puts every item on a line of its own, two
blanks deeper than what holds it.
-/

namespace NodeCall.Json

/-- Plain from 0.00001 to below 10^16, a plus sign before a positive exponent, a point always. -/
def numberLayout : Decimal.Layout := ⟨-5, 16, "+", ".0"⟩

def Number.text : Number → String
  | .integer value _ => toString value
  | .double value _ => numberLayout.float value

def hexDigit (n : Nat) : Char := Nat.digitChar n

def escapeChar (c : Char) : List Char :=
  if c = '"' then ['\\', '"']
  else if c = '\\' then ['\\', '\\']
  else if c = '\x08' then ['\\', 'b']
  else if c = '\x0c' then ['\\', 'f']
  else if c = '\n' then ['\\', 'n']
  else if c = '\r' then ['\\', 'r']
  else if c = '\t' then ['\\', 't']
  else if c.toNat < 32 then
    ['\\', 'u', '0', '0', hexDigit (c.toNat / 16), hexDigit (c.toNat % 16)]
  else [c]

def escape (s : List Char) : List Char := s.flatMap escapeChar

def quote (s : String) : List Char := '"' :: (escape s.toList ++ ['"'])

mutual

def chars : Json → List Char
  | .null => ['n', 'u', 'l', 'l']
  | .bool true => ['t', 'r', 'u', 'e']
  | .bool false => ['f', 'a', 'l', 's', 'e']
  | .number n => n.text.toList
  | .string s => quote s
  | .array [] => ['[', ']']
  | .array (v :: rest) => '[' :: (chars v ++ charsItems rest)
  | .object [] => ['\x7b', '\x7d']
  | .object ((k, v) :: rest) => '\x7b' :: (quote k ++ ':' :: (chars v ++ charsMembers rest))

def charsItems : List Json → List Char
  | [] => [']']
  | v :: rest => ',' :: (chars v ++ charsItems rest)

def charsMembers : List (String × Json) → List Char
  | [] => ['\x7d']
  | (k, v) :: rest => ',' :: (quote k ++ ':' :: (chars v ++ charsMembers rest))

end

def text (v : Json) : String := String.ofList v.chars

def newLine (depth : Nat) : List Char := '\n' :: List.replicate (2 * depth) ' '

mutual

/-- The indented text, whose lines after the first stand at the given depth. -/
def prettyChars (depth : Nat) : Json → List Char
  | .array (v :: rest) =>
    '[' :: (newLine (depth + 1) ++ prettyChars (depth + 1) v ++ prettyItems depth rest)
  | .object ((k, v) :: rest) =>
    '\x7b' :: (newLine (depth + 1) ++ quote k ++ ':' :: ' ' ::
      (prettyChars (depth + 1) v ++ prettyMembers depth rest))
  | .array [] => ['[', ']']
  | .object [] => ['\x7b', '\x7d']
  | .null => ['n', 'u', 'l', 'l']
  | .bool true => ['t', 'r', 'u', 'e']
  | .bool false => ['f', 'a', 'l', 's', 'e']
  | .number n => n.text.toList
  | .string s => quote s

def prettyItems (depth : Nat) : List Json → List Char
  | [] => newLine depth ++ [']']
  | v :: rest => ',' :: (newLine (depth + 1) ++ prettyChars (depth + 1) v ++ prettyItems depth rest)

def prettyMembers (depth : Nat) : List (String × Json) → List Char
  | [] => newLine depth ++ ['\x7d']
  | (k, v) :: rest =>
    ',' :: (newLine (depth + 1) ++ quote k ++ ':' :: ' ' ::
      (prettyChars (depth + 1) v ++ prettyMembers depth rest))

end

def prettyText (v : Json) : String := String.ofList (v.prettyChars 0)

end NodeCall.Json
