import NodeCall.Text.Blank
import NodeCall.Url.Basic
import NodeCall.Url.Domain

/-!
# Reading URLs

Text is taken apart from the left: scheme, user name and password, host, port, path, query,
fragment.  Blanks around the text and line breaks in it do not count.
-/

namespace NodeCall.Url

inductive ParseError
  | relativeWithoutBase
  | emptyHost
  | invalidPort
  | invalidIpv4
  | invalidIpv6
  | invalidDomain
  | invalidDomainCharacter
  deriving DecidableEq, Repr

def ParseError.message : ParseError → String
  | .relativeWithoutBase => "relative URL without a base"
  | .emptyHost => "empty host"
  | .invalidPort => "invalid port number"
  | .invalidIpv4 => "invalid IPv4 address"
  | .invalidIpv6 => "invalid IPv6 address"
  | .invalidDomain => "invalid international domain name"
  | .invalidDomainCharacter => "invalid domain character"

/-! ### Hosts -/

def bracketed? (s : List Char) : Option (Except ParseError Host) :=
  match s with
  | '[' :: rest =>
    some <|
      if rest.getLast? = some ']' then
        match Address.ipv6? rest.dropLast with
        | some pieces => .ok (.ipv6 pieces)
        | none => .error .invalidIpv6
      else .error .invalidIpv6
  | _ => none

def domainHost (s : List Char) : Except ParseError Host :=
  match bracketed? s with
  | some result => result
  | none =>
    match Domain.toAscii? (Text.Utf8.decode (Text.Percent.decode s)) with
    | none => .error .invalidDomain
    | some [] => .error .emptyHost
    | some name =>
      if Address.endsInNumber name then
        match Address.ipv4? name with
        | some address => .ok (.ipv4 address)
        | none => .error .invalidIpv4
      else .ok (.domain name)

def isForbiddenHostChar (c : Char) : Bool :=
  ['\x00', '\t', '\n', '\r', ' ', '#', '/', ':', '<', '>', '?', '@', '[', '\\', ']', '^', '|'].contains c

def plainHost (s : List Char) : Except ParseError Host :=
  match bracketed? s with
  | some result => result
  | none =>
    if s.any isForbiddenHostChar then .error .invalidDomainCharacter
    else .ok (.domain (Text.Percent.encode Text.Percent.controls s))

def splitHost : Bool → List Char → List Char × List Char
  | _, [] => ([], [])
  | inside, c :: rest =>
    if c = ':' && !inside then ([], c :: rest)
    else
      let inside := if c = '[' then true else if c = ']' then false else inside
      let (host, after) := splitHost inside rest
      (c :: host, after)

/-- The value of the digits of a port with `value` before them, and what follows. -/
def takePort : Nat → List Char → Except ParseError (Nat × List Char)
  | value, [] => .ok (value, [])
  | value, c :: rest =>
    if c.isDigit then
      let value := value * 10 + (c.toNat - 48)
      if value < 65536 then takePort value rest else .error .invalidPort
    else if ['/', '\\', '?', '#'].contains c then .ok (value, c :: rest)
    else .error .invalidPort

def portOf (scheme : List Char) : List Char → Except ParseError (Option Nat × List Char)
  | ':' :: rest => do
    let (value, after) ← takePort 0 rest
    if after.length = rest.length || defaultPort scheme = some value then return (none, after)
    else return (some value, after)
  | rest => .ok (none, rest)

/-! ### What stands before the path -/

structure Authority where
  username : List Char
  password : List Char
  host : Host
  port : Option Nat

def splitUserinfo (s : List Char) : Option (List Char × List Char) :=
  if s.contains '@' then
    let host := (s.reverse.takeWhile (· ≠ '@')).reverse
    some (s.take (s.length - host.length - 1), host)
  else none

/-- The escaped user name and password of a text in which the first colon separates them. -/
def credentialsOf (s : List Char) : List Char × List Char :=
  let encode := Text.Percent.encode Text.Percent.userinfo
  (encode (s.takeWhile (· ≠ ':')), encode ((s.dropWhile (· ≠ ':')).drop 1))

/-- The authority in a text that ends where a path, a query or a fragment begins; `more` tells
whether something follows.  What the port leaves over is part of the path. -/
def authorityOf (scheme : List Char) (s : List Char) (more : Bool) :
    Except ParseError (Authority × List Char) := do
  let (userinfo, rest) := (splitUserinfo s).getD ([], s)
  if s.head? = some '@' && userinfo.isEmpty && rest.isEmpty && more then throw .emptyHost
  let (username, password) := credentialsOf userinfo
  let (hostText, after) := splitHost false rest
  let web := schemeClass scheme = .web
  if web && hostText.isEmpty then throw .emptyHost
  let host ← if web then domainHost hostText else plainHost hostText
  if hostText.isEmpty && after.head? = some ':' then throw .emptyHost
  let (port, left) ← portOf scheme after
  if hostText.isEmpty && !(username.isEmpty && password.isEmpty) then throw .emptyHost
  return (⟨username, password, host, port⟩, left)

/-! ### Whole URLs -/

def isSlash (cls : SchemeClass) (c : Char) : Bool := c = '/' || (cls ≠ .other && c = '\\')

def endsPath (c : Char) : Bool := c = '?' || c = '#'

def suffixOf (cls : SchemeClass) (s : List Char) : Option (List Char) × Option (List Char) :=
  let queryClass := if cls = .other then Text.Percent.query else Text.Percent.specialQuery
  let encodeFragment := Text.Percent.encode Text.Percent.fragment
  match s with
  | '?' :: rest =>
    let query := Text.Percent.encode queryClass (rest.takeWhile (· ≠ '#'))
    match rest.dropWhile (· ≠ '#') with
    | '#' :: fragment => (some query, some (encodeFragment fragment))
    | _ => (some query, none)
  | '#' :: fragment => (none, some (encodeFragment fragment))
  | _ => (none, none)

def plain (scheme : List Char) (host : Option Host) (path : Path)
    (suffix : Option (List Char) × Option (List Char)) : Url :=
  ⟨scheme, [], [], host, none, path, suffix.1, suffix.2⟩

def withAuthority (scheme s : List Char) : Except ParseError Url := do
  let cls := schemeClass scheme
  let ends (c : Char) : Bool := isSlash cls c || endsPath c
  let (authority, left) ← authorityOf scheme (s.takeWhile (!ends ·)) (s.any ends)
  let rest := left ++ s.dropWhile (!ends ·)
  let pathText := rest.takeWhile (!endsPath ·)
  let suffix := suffixOf cls (rest.dropWhile (!endsPath ·))
  let segments :=
    if cls = .other && pathText.isEmpty then [] else Path.segments (isSlash cls) pathText
  return ⟨scheme, authority.username, authority.password, some authority.host, authority.port,
    .rooted segments, suffix.1, suffix.2⟩

/-- The host of a file, if a text between two slashes and a path names another one than this. -/
def fileHost (s : List Char) : Except ParseError (Option Host) := do
  if s.isEmpty then return none
  let host ← domainHost s
  return if host = .domain "localhost".toList then none else some host

def afterSlash? (s : List Char) : Option (List Char) :=
  match s.dropWhile Path.isBreak with
  | c :: rest => if isSlash .file c then some rest else none
  | [] => none

/-- The host of a file and the text of its path without the first slash.  A drive is no host; where
none is named, a second slash before the path is part of it. -/
def splitFile (s : List Char) : Except ParseError (Option Host × List Char) :=
  match afterSlash? s with
  | none => .ok (none, s)
  | some path =>
    match afterSlash? path with
    | none => .ok (none, path)
    | some rest => do
      let ends (c : Char) : Bool := isSlash .file c || endsPath c
      let hostText := Path.solid (rest.takeWhile (!ends ·))
      if Path.isDrive hostText then return (none, rest)
      let path := rest.dropWhile (!ends ·)
      match ← fileHost hostText with
      | none => return (none, path)
      | some host => return (some host, (afterSlash? path).getD path)

def fileUrl (scheme s : List Char) : Except ParseError Url := do
  let (host, rest) ← splitFile s
  let path := Path.ofFile (isSlash .file) (rest.takeWhile (!endsPath ·))
  let host := if path.hostless then none else host
  return plain scheme (some (host.getD (.domain []))) (.rooted path.segments)
    (suffixOf .file (Path.solid (rest.dropWhile (!endsPath ·))))

def otherUrl (scheme s : List Char) : Except ParseError Url :=
  match s with
  | '/' :: '/' :: rest => withAuthority scheme rest
  | s =>
    let pathText := s.takeWhile (!endsPath ·)
    let path :=
      if s.head? = some '/' then .rooted (Path.segments (isSlash .other) pathText)
      else .rootless (Text.Percent.encode Text.Percent.controls pathText)
    .ok (plain scheme none path (suffixOf .other (s.dropWhile (!endsPath ·))))

def splitScheme (s : List Char) : Option (List Char × List Char) :=
  let name := s.takeWhile fun c => c.isAlphanum || c = '+' || c = '-' || c = '.'
  match s.dropWhile fun c => c.isAlphanum || c = '+' || c = '-' || c = '.' with
  | ':' :: rest => if name.head?.any Char.isAlpha then some (name.map Char.toLower, rest) else none
  | _ => none

def trimmed (s : List Char) : List Char := Text.trimBy (fun c => c.toNat ≤ 0x20) s

def parseChars (s : List Char) : Except ParseError Url :=
  match splitScheme (Path.solid (trimmed s)) with
  | none => .error .relativeWithoutBase
  | some (scheme, rest) =>
    match schemeClass scheme with
    | .web => withAuthority scheme (rest.dropWhile (isSlash .web))
    | .file => fileUrl scheme (((trimmed s).dropWhile (· ≠ ':')).drop 1)
    | .other => otherUrl scheme rest

def parse (s : String) : Except ParseError Url := parseChars s.toList

end NodeCall.Url
