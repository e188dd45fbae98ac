import NodeCall.Json.Value
import NodeCall.Table

/-!
# Subscription registry

Each subscription has a local key for its lifetime.  While the node knows it, it also has an id
chosen by the node, and a route leads from that id to the key.  When the connection is lost all
routes go, and the confirmed subscriptions are parked until they can be made again.
-/

namespace NodeCall.Socket

/-- The local key of a subscription; it also stands for the subscriber's callbacks. -/
abbrev Key := UInt64

structure Entry where
  params : List Json
  serverId : Option String
  parked : Bool

/-- The subscriptions of a client, and which of them the node's ids lead to. -/
structure Registry where
  entries : Table Key Entry
  routes : Table String Key
  lastKey : Key

namespace Registry

def empty : Registry := ⟨.empty, .empty, 0⟩

def insert (r : Registry) (params : List Json) : Key × Registry :=
  let key := r.lastKey + 1
  (key, { r with entries := r.entries.insert key ⟨params, none, false⟩, lastKey := key })

def dropRoute (routes : Table String Key) : Option String → Table String Key
  | some id => routes.erase id
  | none => routes

/-- Leads the node's id to a subscription, whose former id is dropped.  Nothing happens to a
subscription that is gone. -/
def bind (r : Registry) (key : Key) (id : String) : Bool × Registry :=
  match r.entries.get? key with
  | none => (false, r)
  | some entry =>
    (true,
      { r with
        entries := r.entries.insert key { entry with serverId := some id, parked := false }
        routes := (dropRoute r.routes entry.serverId).insert id key })

def dispatch (r : Registry) (id : String) : Option Key :=
  (r.routes.get? id).filter r.entries.contains

/-- Removes a subscription; yields the id under which the node knows it. -/
def remove (r : Registry) (key : Key) : Option String × Registry :=
  match r.entries.get? key with
  | none => (none, r)
  | some entry =>
    (entry.serverId,
      { r with entries := r.entries.erase key, routes := dropRoute r.routes entry.serverId })

/-- Removes a subscription whose subscriber is to be told an error; yields whether it was there. -/
def fail (r : Registry) (key : Key) : Bool × Registry :=
  (r.entries.contains key, (r.remove key).2)

def serverId (r : Registry) (key : Key) : Option String :=
  (r.entries.get? key).bind (·.serverId)

/-- A confirmed subscription is parked, any other one is left alone. -/
def Entry.parkedIfConfirmed (entry : Entry) : Entry :=
  if entry.serverId.isSome then { entry with serverId := none, parked := true } else entry

/-- Drops all routes and parks the confirmed subscriptions; yields which ones these are. -/
def park (r : Registry) : List Key × Registry :=
  ((r.entries.rows.filter fun row => row.2.serverId.isSome).map (·.1),
    { r with entries := r.entries.mapValues Entry.parkedIfConfirmed, routes := .empty })

def parked (r : Registry) : List (Key × List Json) :=
  (r.entries.rows.filter fun row => row.2.parked).map fun row => (row.1, row.2.params)

def clear (r : Registry) : Registry := { r with entries := .empty, routes := .empty }

def size (r : Registry) : Nat := r.entries.size

end Registry
end NodeCall.Socket
