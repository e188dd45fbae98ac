import NodeCall.Url.Basic

/-!
# URLs that can be requested

A request names its target by a URL, which is read once more, by a stricter grammar than the one
that took it apart.
-/

namespace NodeCall.Url.Strict

inductive Refusal
  | empty
  | invalidChar
  | invalidAuthority
  | invalidFormat
  | tooLong
  | schemeTooLong
  deriving DecidableEq, Repr

def Refusal.message : Refusal → String
  | .empty => "empty string"
  | .invalidChar => "invalid uri character"
  | .invalidAuthority => "invalid authority"
  | .invalidFormat => "invalid format"
  | .tooLong => "uri too long"
  | .schemeTooLong => "scheme too long"

def isUriChar (c : Char) : Bool :=
  c.isAlphanum ||
    ['-', '.', '_', '~', '!', '$', '&', '\'', '(', ')', '*', '+', ',', ';', '=', ':', '@', '[', ']'].contains c

/-- What has been seen of an authority up to some place. -/
structure Seen where
  colons : Nat
  opened : Bool
  closed : Bool
  escaped : Bool
  atEnd : Bool

def Seen.nothing : Seen := ⟨0, false, false, false, false⟩

def Seen.add (seen : Seen) (c : Char) : Except Refusal Seen :=
  let seen := { seen with atEnd := false }
  if c = ':' then
    if 8 ≤ seen.colons then .error .invalidAuthority else .ok { seen with colons := seen.colons + 1 }
  else if c = '[' then
    if seen.escaped || seen.opened then .error .invalidAuthority else .ok { seen with opened := true }
  else if c = ']' then
    if !seen.opened || seen.closed then .error .invalidAuthority
    else .ok { seen with closed := true, colons := 0, escaped := false }
  else if c = '@' then .ok { seen with colons := 0, escaped := false, atEnd := true }
  else if c = '%' then .ok { seen with escaped := true }
  else if isUriChar c then .ok seen
  else .error .invalidChar

/-- Whether an authority may stand in the URL of a request: brackets match, there is at most one
colon for a port, and no escape outside user names and brackets. -/
def checkAuthority (s : List Char) : Except Refusal Unit := do
  let seen ← s.foldlM Seen.add .nothing
  if seen.opened != seen.closed || 1 < seen.colons || seen.atEnd || seen.escaped then
    throw .invalidAuthority

def isPathChar (c : Char) : Bool :=
  let n := c.toNat
  n = 0x21 || n = 0x22 || (0x24 ≤ n && n ≤ 0x3B) || n = 0x3D || (0x40 ≤ n && n ≤ 0x5F) ||
    (0x61 ≤ n && n ≤ 0x7E) || 0x7F ≤ n

def isQueryChar (c : Char) : Bool :=
  let n := c.toNat
  n = 0x21 || (0x24 ≤ n && n ≤ 0x3B) || n = 0x3D || 0x3F ≤ n

def checkPath (s : List Char) : Except Refusal Unit :=
  let path := s.takeWhile fun c => c ≠ '?' && c ≠ '#'
  let query := ((s.dropWhile fun c => c ≠ '?' && c ≠ '#').takeWhile (· ≠ '#')).drop 1
  if path.all isPathChar && query.all isQueryChar then .ok () else .error .invalidChar

def endsAuthority (c : Char) : Bool := c = '/' || c = '?' || c = '#'

/-- The number of characters before the mark that ends a scheme, if the text has a scheme. -/
def schemeLength? (s : List Char) : Option Nat :=
  let name := s.takeWhile fun c => c.isAlphanum || c = '+' || c = '-' || c = '.'
  if [':', '/', '/'].isPrefixOf (s.drop name.length) then some name.length else none

def check (s : List Char) : Except Refusal Unit :=
  if 65534 < s.length then .error .tooLong
  else
    match schemeLength? s with
    | some length =>
      if 64 < length then .error .schemeTooLong
      else do
        let rest := s.drop (length + 3)
        if rest.isEmpty then throw .empty
        let authority := rest.takeWhile (!endsAuthority ·)
        checkAuthority authority
        if authority.isEmpty then throw .invalidFormat
        checkPath (rest.drop authority.length)
    | none => do
      let authority := s.takeWhile (!endsAuthority ·)
      checkAuthority authority
      if authority.length ≠ s.length then throw .invalidFormat

end NodeCall.Url.Strict
