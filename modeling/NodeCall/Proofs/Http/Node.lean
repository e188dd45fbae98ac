import NodeCall.Proofs.Http.Elements
import NodeCall.Proofs.Json.Agreement

/-!
# Nodes that answer by method and parameters

Such a node answers a request in the same way whether it comes alone or among others.  Its answer
is read in two ways, straight from the text of a single reply and as an element of an array whose
value is built first; for a tree that has a value both readings agree.
-/

namespace NodeCall.Http

open Json (Tree)

/-- A node whose answer is a function of the method and the parameters of a request and echoes its
id.  The answer is a response, and it has a value even as an element of an array. -/
structure Node where
  answers : String → Json → Response
  writes : Request → Tree
  wellFormed : ∀ request : Request, request.id ≠ .null →
    Response.decode (Json.Place.mk Json.maxDepth (writes request)) =
      .ok ((answers request.method request.params).withId request.id)
  readable : ∀ request : Request, request.id ≠ .null →
    ∃ v, (writes request).value elementDepth = .ok v

namespace Node

variable (node : Node)

/-- The node's response to a request. -/
def response (request : Request) : Response :=
  (node.answers request.method request.params).withId request.id

/-- What an attempt at a request ends with, when there is a POST of its own for it. -/
def attempt (endpoint : Endpoint) (request : Request) : Outcome Response :=
  if endpoint.canPost then .ok (node.response request)
  else .error (.network "builder error")

/-- The answer to a single request. -/
def Tells (request : Request) (delivery : Delivery) : Prop := Carries (node.writes request) delivery

/-- The answer to a list of requests; its elements may come in any order. -/
def TellsAll (requests : List Request) (delivery : Delivery) : Prop :=
  ∃ trees, trees.Perm (requests.map node.writes) ∧ ArrayReply trees delivery

variable {node}

theorem element_writes {request : Request} (known : request.id ≠ .null) :
    element (node.writes request) = .ok (node.response request) := by
  obtain ⟨v, hv⟩ := node.readable request known
  have whole : Json.Reads ⟨Json.maxDepth, node.writes request⟩ v := Json.value_succ _ _ hv
  have decoded := Response.follows_decode whole (node.wellFormed request known)
  exact bind_eq_ok.mpr ⟨v, mapError_eq_ok.mpr hv, decoded⟩

theorem response_of_tells {endpoint : Endpoint} {request : Request} {delivery : Delivery}
    (known : request.id ≠ .null) (tells : node.Tells request delivery) :
    endpoint.response delivery = .ok (node.response request) := by
  obtain ⟨status, retryAfter, body, success, reads⟩ := tells
  have text : Response.ofBytes body.bytes = .ok (node.response request) := by
    rw [Response.ofBytes, Json.decodeBytes, reads]
    exact bind_eq_ok.mpr ⟨_, node.wellFormed request known, rfl⟩
  rw [Endpoint.response, received_of_success endpoint retryAfter body success]
  exact mapError_eq_ok.mpr text

theorem valuesOf_writes {requests : List Request}
    (known : ∀ request ∈ requests, request.id ≠ .null) :
    valuesOf element (requests.map node.writes) = requests.map node.response := by
  induction requests with
  | nil => rfl
  | cons request rest ih =>
    have own : element (node.writes request) = .ok (node.response request) :=
      element_writes (known request List.mem_cons_self)
    have others := ih fun request member => known request (List.mem_cons_of_mem _ member)
    rw [List.map_cons, List.map_cons, ← others]
    simp [valuesOf, own, Except.toOption]

theorem responses_of_tellsAll {endpoint : Endpoint} {requests : List Request} {delivery : Delivery}
    (known : ∀ request ∈ requests, request.id ≠ .null)
    (tells : node.TellsAll requests delivery) :
    ∃ responses, endpoint.responses requests delivery = .ok responses ∧
      responses.Perm (requests.map node.response) := by
  obtain ⟨trees, perm, reply⟩ := tells
  have flawless : flaw? trees = none := by
    refine flaw?_eq_none.mpr fun tree member => ?_
    obtain ⟨request, hrequest, rfl⟩ := List.mem_map.mp (perm.mem_iff.mp member)
    exact ⟨_, element_writes (known request hrequest)⟩
  refine ⟨valuesOf element trees, ?_, ?_⟩
  · rw [responses_of_array endpoint requests reply, flawless]
  · rw [← valuesOf_writes known]
    exact perm.filterMap _

end Node

end NodeCall.Http
