/-
  The store of all queries, templates and streams.

  1. **Slots** — a query, a template and a stream each have a slot; a slot is never given up and
     never given twice.
  2. **Calls** — a call on a handle goes to the query at the end of the chain, unless a template on
     the chain is locked: the call is then refused before anything else is looked at.  Reading is
     not held up by a lock.
  3. **Templates** — a template is made from a recipe, and every query built from it once more: the
     recipe is given the template's default modifier and text.  What is built is a new query, which
     has no field open and shares nothing with the template.
-/
import SearchQuery.Query.Clause

namespace SearchQuery

/-- How a template makes queries: a default modifier to fall back on, and a text to begin with. -/
structure Recipe where
  modifier : Option Modifier := none
  seed : Text := []
  deriving DecidableEq, Repr

/-- A new query made from a recipe. -/
def Recipe.make (r : Recipe) (m : Option Modifier) (t : Text) : Query :=
  .new (m.or r.modifier) (r.seed ++ t)

/-- A template. -/
structure Template where
  recipe : Recipe := {}
  locked : Bool := false
  deriving DecidableEq, Repr

/-- All queries, templates and streams. -/
structure Store where
  queries : List Query := []
  templates : List Template := []
  shelf : Shelf := []

namespace Store

/-! ## Reading -/

/-- The query that a handle leads to. -/
def query (s : Store) (h : Handle) : Query := s.queries.getD h.terminal {}

/-- The text of the query that a handle leads to. -/
def text (s : Store) (h : Handle) : Text := (s.query h).text

/-- The default modifier of the query that a handle leads to. -/
def modifier (s : Store) (h : Handle) : Modifier := (s.query h).modifier

/-- The texts and default modifiers of all queries. -/
def readings (s : Store) : Queries := ⟨s.text, s.modifier⟩

/-- The queries around a call on a handle. -/
def around (s : Store) (h : Handle) : Surroundings :=
  { s.readings with isReceiver := fun g => g.terminal == h.terminal }

/-- The template in a slot. -/
def template (s : Store) (slot : Nat) : Template := s.templates.getD slot {}

/-- Whether a template on the way to a query is locked. -/
def isLocked (s : Store) (h : Handle) : Bool := h.templates.any fun slot => (s.template slot).locked

/-! ## Making -/

/-- Adds a query. -/
def addQuery (s : Store) (q : Query) : Handle × Store :=
  (.query s.queries.length, { s with queries := s.queries ++ [q] })

/-- Adds a template, which starts out from what its recipe makes. -/
def addTemplate (s : Store) (r : Recipe) : Handle × Store :=
  let (inner, s) := s.addQuery (r.make none [])
  (.template s.templates.length inner, { s with templates := s.templates ++ [⟨r, false⟩] })

/-- Adds a stream. -/
def addStream (s : Store) (members : List Value) : Value × Store :=
  let (place, shelf) := s.shelf.add members
  (.stream place, { s with shelf })

/-! ## Changing -/

/-- Does something with the query that a handle leads to, unless that is locked. -/
def onQuery (s : Store) (h : Handle) (c : Calling Unit) : Except QueryError Unit × Store :=
  if s.isLocked h then (.error .locked, s)
  else
    let (r, scene) := c.run.run ⟨s.query h, s.shelf⟩
    (r, { s with queries := s.queries.set h.terminal scene.query, shelf := scene.shelf })

/-- A call on a handle. -/
def call (s : Store) (h : Handle) (c : Call) : Except QueryError Unit × Store :=
  s.onQuery h (c.perform (s.around h))

/-- Writes a clause by itself into the query that a handle leads to. -/
def writeClause (s : Store) (h : Handle) (c : Clause) (m : Option Modifier) :
    Except QueryError Unit × Store :=
  s.onQuery h (c.perform (s.around h) m)

/-- Locks a template. -/
def lock (s : Store) (slot : Nat) : Store :=
  { s with templates := s.templates.modify slot fun t => { t with locked := true } }

/-- A new query that starts out from the template in a slot, which guards the query of `inner`. -/
def build (s : Store) (slot : Nat) (inner : Handle) : Handle × Store :=
  s.addQuery ((s.template slot).recipe.make (some (s.modifier inner)) (s.text inner))

end Store
end SearchQuery
