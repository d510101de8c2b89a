/-
  Handles: the ways of reaching a query.

  A query may be reached by itself, through a template that can be locked, or through a forwarder
  that passes every call on.  Templates and forwarders stand in chains of any length, and every
  chain ends in a query.  A handle is such a chain: it never changes; what changes is kept in the
  slots that it names.
-/

namespace SearchQuery

/-- A way of reaching a query. -/
inductive Handle where
  /-- the query in a slot -/
  | query (slot : Nat)
  /-- the template in a slot, which passes calls on unless it is locked -/
  | template (slot : Nat) (inner : Handle)
  /-- a forwarder, which passes calls on -/
  | forwarder (target : Handle)
  deriving DecidableEq, Repr

namespace Handle

/-- The slot of the query at the end of the chain. -/
def terminal : Handle → Nat
  | .query slot => slot
  | .template _ inner => inner.terminal
  | .forwarder target => target.terminal

/-- Whether a handle is that of a query itself. -/
def isQuery : Handle → Bool
  | .query _ => true
  | .template _ _ | .forwarder _ => false

/-- The slots of the templates on the chain, outermost first. -/
def templates : Handle → List Nat
  | .query _ => []
  | .template slot inner => slot :: inner.templates
  | .forwarder target => target.templates

end Handle
end SearchQuery
