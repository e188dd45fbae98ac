import NodeCall.TransportError
import NodeCall.Url.Parser

/-!
# Endpoints

The address of a node as it is configured: a URL that may hold a user name and a password.  They
are taken out before the URL is used, and a URL that is shown hides them, together with the query
values that look like keys.
-/

namespace NodeCall

structure Credentials where
  username : String
  password : Option String
  deriving DecidableEq, Repr

namespace Credentials

def mask : String := "***"

def text (credentials : Credentials) : String :=
  let password := match credentials.password with
    | some _ => "Some(" ++ Text.quoted mask ++ ")"
    | none => "None"
  "Credentials \x7b username: " ++ Text.quoted credentials.username ++ ", password: " ++ password ++
    " \x7d"

def optionText : Option Credentials → String
  | some credentials => "Some(" ++ credentials.text ++ ")"
  | none => "None"

/-- What a part of a URL's userinfo stands for.  It is read as a form value: a plus sign is a
space, and an ampersand ends it. -/
def decodePart (part : List Char) : String :=
  String.ofList (Text.Form.decode (part.takeWhile (· ≠ '&')))

def ofUrl (url : Url) : Option Credentials :=
  if url.username.isEmpty && url.password.isEmpty then none
  else
    some ⟨decodePart url.username,
      if url.password.isEmpty then none else some (decodePart url.password)⟩

end Credentials

namespace Endpoint

def stripped (url : Url) : Url := { url with username := [], password := [] }

/-- The URL of an endpoint and the credentials that were taken out of it. -/
def split (raw : String) : Outcome (Url × Option Credentials) :=
  let trimmed := Text.trim raw.toList
  if trimmed.isEmpty then .error (.config "endpoint URL is required")
  else
    match Url.parseChars trimmed with
    | .error e => .error (.config ("invalid endpoint URL: " ++ e.message))
    | .ok url => .ok (stripped url, Credentials.ofUrl url)

/-! ### URLs that may be shown -/

def sensitiveWords : List String :=
  ["key", "apikey", "api_key", "token", "secret", "password", "auth"]

/-- A character in lower case, as far as that is ASCII: the Kelvin sign and the dotted capital I
are the only other characters whose lower case has a letter of ASCII. -/
def lowerChar (c : Char) : List Char :=
  if c = '\u212A' then ['k']
  else if c = '\u0130' then ['i', '\u0307']
  else [c.toLower]

def containsWord (word : List Char) : List Char → Bool
  | [] => word.isEmpty
  | c :: rest => word.isPrefixOf (c :: rest) || containsWord word rest

def isSensitive (name : List Char) : Bool :=
  sensitiveWords.any fun word => containsWord word.toList (name.flatMap lowerChar)

def masked (pair : Text.Form.Pair) : Text.Form.Pair :=
  if isSensitive pair.1 then (pair.1, Credentials.mask.toList) else pair

/-- The URL without its secrets; a query without pairs stays as it is. -/
def sanitized (url : Url) : Url :=
  let password := if url.password.isEmpty then [] else Credentials.mask.toList
  let pairs := Text.Form.parse (url.query.getD [])
  let query := if pairs.isEmpty then url.query else some (Text.Form.serialize (pairs.map masked))
  { url with password, query }

def invalidText : String := "[invalid-url]"

def sanitize (raw : String) : String :=
  match Url.parse raw with
  | .ok url => (sanitized url).text
  | .error _ => invalidText

end Endpoint
end NodeCall
