import NodeCall.Rpc.Request
import NodeCall.Rpc.Response

/-!
# Frames

The texts that travel over a WebSocket connection.  A frame that comes in is a push, a reply under
a number, or nothing that anybody waits for.
-/

namespace NodeCall.Socket

def subscribeMethod : String := "eth_subscribe"

def unsubscribeMethod : String := "eth_unsubscribe"

def keepAliveMethod : String := "net_version"

def frame (number : UInt64) (method : String) (params : List Json) : String :=
  (Request.new (.number number) method params).text

inductive Incoming
  | push (notification : Notification)
  | reply (number : UInt64) (response : Response)
  | ignored

def Incoming.ofText (text : String) : Incoming :=
  match Response.ofText text with
  | .error _ => .ignored
  | .ok response =>
    match response.notification with
    | some notification => .push notification
    | none =>
      match response.id with
      | .number number => .reply number response
      | _ => .ignored

end NodeCall.Socket
