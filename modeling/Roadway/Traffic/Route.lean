import Roadway.Network.Basic

/-!
# Routes

A route is a list of edge ids of which each edge begins where the one before it
ends. A broken link is reported before an unknown id.

## Main definitions

* `RouteFault` — why a list of edge ids is no route.
* `Network.routeFault?` — the first fault of a route.
-/
namespace Roadway

/-- Why a list of edge ids is no route. -/
inductive RouteFault
  /-- An edge does not start where the previous one ends. -/
  | disconnected (edge previous : String)
  | unknownEdge (id : String)
  deriving DecidableEq, Repr

def RouteFault.message : RouteFault → String
  | disconnected edge previous => s!"route edge '{edge}' does not continue from '{previous}'"
  | unknownEdge id => s!"route references unknown edge '{id}'"

namespace Network
variable {α : Type}

/-- The fault of two consecutive edges; an unknown edge breaks no link. -/
def linkFault? (net : Network α) (first second : String) : Option RouteFault :=
  match net.edge? first, net.edge? second with
  | some a, some b =>
    if a.toJunction = b.fromJunction then none else some (.disconnected b.id a.id)
  | _, _ => none

/-- The first broken link of a route. -/
def brokenLink? (net : Network α) : List String → Option RouteFault
  | first :: second :: rest => net.linkFault? first second <|> net.brokenLink? (second :: rest)
  | _ => none

/-- The first fault of a route. -/
def routeFault? (net : Network α) (route : List String) : Option RouteFault :=
  net.brokenLink? route <|>
  (route.find? fun id => (net.edgeIndex? id).isNone).map .unknownEdge

end Network
end Roadway
