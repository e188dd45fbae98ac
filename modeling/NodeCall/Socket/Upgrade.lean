import NodeCall.Http.Message
import NodeCall.Socket.Handshake
import NodeCall.Text.Sha1

/-!
# Upgrades

A WebSocket connection begins as a GET request that asks to go on in another way.  A node that
agrees answers a key of the client's with the digest of that key.
-/

namespace NodeCall.Socket

def keySuffix : String := "258EAFA5-E914-47DA-95CA-C5AB0DC85B11"

def acceptance (key : String) : String :=
  String.ofList (Text.Base64.encode (Text.Sha1.digest
    (Text.Utf8.encode (key ++ keySuffix).toList)))

def upgradeKey (random : List UInt8) : String := String.ofList (Text.Base64.encode random)

def upgradeBytes (url : Url) (handshake : Handshake) (key : String) : List UInt8 :=
  Http.line ("GET ".toList ++ url.target ++ " HTTP/1.1".toList) ++
    Http.headerLines ([("host", String.ofList url.hostText), ("connection", "Upgrade"),
      ("upgrade", "websocket"), ("sec-websocket-version", "13"), ("sec-websocket-key", key)] ++
      handshake.authorization.toList.map fun value => ("authorization", value)) ++
    Http.line []

/-- Whether the head of an answer agrees to a key. -/
def agrees (key : String) (head : Http.Head) : Bool :=
  head.status = 101 && (head.headers.lookup "upgrade").any (·.toLower == "websocket") &&
    head.headers.lookup "sec-websocket-accept" == some (acceptance key)

end NodeCall.Socket
