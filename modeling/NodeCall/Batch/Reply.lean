import NodeCall.TransportError

/-!
# Replies to a batch

Every request of a batch travels under a number of its own.  Replies are matched by that number,
never by position: of several replies with one number the last one counts, and the reply is
handed on under the id that the caller had chosen.
-/

namespace NodeCall.Batch

/-- A call waiting for a batch, or under way in one.  Calls are told apart by their tickets. -/
structure Item where
  ticket : Nat
  request : Request
  callerId : RpcId

def lastWithId (id : RpcId) (responses : List Response) : Option Response :=
  responses.reverse.find? fun r => r.id = id

/-- What the calls of a batch get when the node answers with these responses. -/
def pair : List Response → List Item → List (Nat × Outcome Response)
  | _, [] => []
  | responses, item :: rest =>
    match lastWithId item.request.id responses with
    | some response =>
      (item.ticket, .ok (response.withId item.callerId)) ::
        pair (responses.filter fun r => r.id ≠ item.request.id) rest
    | none => (item.ticket, .error (.missingResponse item.callerId)) :: pair responses rest

def failAll (error : TransportError) (items : List Item) : List (Nat × Outcome Response) :=
  items.map fun item => (item.ticket, .error error)

def settle (reply : Outcome (List Response)) (items : List Item) : List (Nat × Outcome Response) :=
  match reply with
  | .ok responses => pair responses items
  | .error e => failAll e items

end NodeCall.Batch
