import NodeCall.Url.Address
import NodeCall.Url.Path

/-!
# URLs

A URL taken apart.  Its text parts are kept as they are written, escapes included.
-/

namespace NodeCall

namespace Url

inductive Host
  | domain (name : List Char)
  | ipv4 (address : Nat)
  | ipv6 (pieces : List Nat)
  deriving DecidableEq, Repr

def Host.text : Host → List Char
  | .domain name => name
  | .ipv4 address => Address.ipv4Text address
  | .ipv6 pieces => '[' :: (Address.ipv6Text pieces ++ [']'])

inductive SchemeClass
  /-- A host is required, and backslashes count as slashes. -/
  | web
  | file
  | other
  deriving DecidableEq, Repr

def schemeClass (scheme : List Char) : SchemeClass :=
  match String.ofList scheme with
  | "http" | "https" | "ws" | "wss" | "ftp" => .web
  | "file" => .file
  | _ => .other

def defaultPort (scheme : List Char) : Option Nat :=
  match String.ofList scheme with
  | "http" | "ws" => some 80
  | "https" | "wss" => some 443
  | "ftp" => some 21
  | _ => none

end Url

structure Url where
  scheme : List Char
  username : List Char
  password : List Char
  /-- What follows two slashes, if they are there. -/
  host : Option Url.Host
  port : Option Nat
  path : Url.Path
  query : Option (List Char)
  fragment : Option (List Char)
  deriving DecidableEq, Repr

namespace Url

def userinfoText (url : Url) : List Char :=
  let password := if url.password.isEmpty then [] else ':' :: url.password
  let both := url.username ++ password
  if both.isEmpty then [] else both ++ ['@']

def portText : Option Nat → List Char
  | some port => ':' :: Nat.toDigits 10 port
  | none => []

/-- The host with all that belongs to it; a path that begins with two slashes is kept apart from
where a host would stand. -/
def authorityText (url : Url) : List Char :=
  match url.host with
  | some host => '/' :: '/' :: (userinfoText url ++ host.text ++ portText url.port)
  | none =>
    match url.path with
    | .rooted ([] :: _ :: _) => ['/', '.']
    | _ => []

def markedText (mark : Char) : Option (List Char) → List Char
  | some part => mark :: part
  | none => []

def chars (url : Url) : List Char :=
  url.scheme ++ ':' :: (authorityText url ++ url.path.text ++ markedText '?' url.query ++
    markedText '#' url.fragment)

def text (url : Url) : String := String.ofList url.chars

/-- Path and query, as a server is asked for them. -/
def target (url : Url) : List Char := url.path.text ++ markedText '?' url.query

def effectivePort (url : Url) : Option Nat := url.port.orElse fun _ => defaultPort url.scheme

def hostText (url : Url) : List Char :=
  match url.host with
  | some host => host.text ++ portText url.port
  | none => []

end Url
end NodeCall
