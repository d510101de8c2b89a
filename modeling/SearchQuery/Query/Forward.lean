/-
  Forwarding: how a call gets to the query at the end of a chain.

  A caller may leave arguments out.  The query has a default for each of them, and so have the
  forwarders and the templates in front of it: every link of a chain takes the same calls, fills in
  what is left out, and passes all arguments on to the next link.

  1. **Requests** — `Request` is a call as it is made, `Request.call` what the query at the end takes
     it for, and `Request.passedOn` what a link passes on.
  2. **Sending** — `Store.send` goes through the chain link by link.  A locked template refuses a
     request before it passes it on.  What was called gives itself back, so that the next call goes
     through the same link; setting a property gives nothing back.
  3. **Reading** — `Store.read` goes through the chain too, and no lock holds it up.
-/
import SearchQuery.Query.Store

namespace SearchQuery

/-! ## Requests -/

/-- A call as it is made.  An argument that is `none` was left out. -/
inductive Request where
  | argument (value : Value) (m : Option ModifierArg)
  | fuzzyArgument (value : Value) (m : Option ModifierArg) (fuzziness : Option (Option Number))
  | field (name : Option Text) (value : Value) (m : Option ModifierArg)
      (boost : Option (Option Number)) (allMembers : Option (Option Bool))
  | fuzzyField (name : Option Text) (value : Value) (m : Option ModifierArg)
      (fuzziness : Option (Option Number))
  | range (start stop : Value) (m : Option ModifierArg)
  | rangeField (name : Option Text) (start stop : Value) (m : Option ModifierArg)
  | subquery (query : Option Handle) (m : Option ModifierArg)
  | startField (name : Option Text) (m : Option ModifierArg)
  | endField
  | boost (factor : Number)
  | unescaped (text : Option Text) (mandatory : Option Bool)
  | unescapedField (name text : Option Text) (mandatory : Option Bool)
  | setModifier (m : Option Modifier)
  | setWildcarded (on : Bool)
  deriving Repr

namespace Request

/-- The call that a query takes a request for. -/
def call : Request → Call
  | .argument v m => .argument v (m.getD .absent)
  | .fuzzyArgument v m f => .fuzzyArgument v (m.getD .absent) (f.getD (some Modifier.usualFuzziness))
  | .field name v m factor allMembers =>
    .field name v (m.getD .absent) (factor.getD none) (allMembers.getD none)
  | .fuzzyField name v m f =>
    .fuzzyField name v (m.getD .absent) (f.getD (some Modifier.usualFuzziness))
  | .range start stop m => .range start stop (m.getD .absent)
  | .rangeField name start stop m => .rangeField name start stop (m.getD .absent)
  | .subquery query m => .subquery query (m.getD .absent)
  | .startField name m => .startField name (m.getD .absent)
  | .endField => .endField
  | .boost f => .boost f
  | .unescaped t mandatory => .unescaped t (mandatory.getD false)
  | .unescapedField name t mandatory => .unescapedField name t (mandatory.getD false)
  | .setModifier m => .setModifier m
  | .setWildcarded on => .setWildcarded on

/-- The request that a link of a chain makes of the next one: nothing is left out any more. -/
def passedOn : Request → Request
  | .argument v m => .argument v (some (m.getD .absent))
  | .fuzzyArgument v m f =>
    .fuzzyArgument v (some (m.getD .absent)) (some (f.getD (some Modifier.usualFuzziness)))
  | .field name v m factor allMembers =>
    .field name v (some (m.getD .absent)) (some (factor.getD none)) (some (allMembers.getD none))
  | .fuzzyField name v m f =>
    .fuzzyField name v (some (m.getD .absent)) (some (f.getD (some Modifier.usualFuzziness)))
  | .range start stop m => .range start stop (some (m.getD .absent))
  | .rangeField name start stop m => .rangeField name start stop (some (m.getD .absent))
  | .subquery query m => .subquery query (some (m.getD .absent))
  | .startField name m => .startField name (some (m.getD .absent))
  | .endField => .endField
  | .boost f => .boost f
  | .unescaped t mandatory => .unescaped t (some (mandatory.getD false))
  | .unescapedField name t mandatory => .unescapedField name t (some (mandatory.getD false))
  | .setModifier m => .setModifier m
  | .setWildcarded on => .setWildcarded on

/-- What a request gives back that was made of `h` and not refused. -/
def answer (h : Handle) : Request → Option Handle
  | .setModifier _ | .setWildcarded _ => none
  | _ => some h

end Request

namespace Store

/-! ## Sending -/

/-- Makes a request of a handle: what it gives back, and the store after it. -/
def send (s : Store) : Handle → Request → Except QueryError (Option Handle) × Store
  | .query slot, r =>
    let (done, s') := s.call (.query slot) r.call
    (done.map fun _ => r.answer (.query slot), s')
  | .template slot inner, r =>
    if (s.template slot).locked then (.error .locked, s)
    else
      let (done, s') := s.send inner r.passedOn
      (done.map fun _ => r.answer (.template slot inner), s')
  | .forwarder target, r =>
    let (done, s') := s.send target r.passedOn
    (done.map fun _ => r.answer (.forwarder target), s')

/-- The store after requests that were made of a handle one after the other. -/
def sendAll (s : Store) (h : Handle) (rs : List Request) : Store :=
  rs.foldl (fun s r => (s.send h r).2) s

/-! ## Reading -/

/-- The query that is read through a handle. -/
def read (s : Store) : Handle → Query
  | .query slot => s.queries.getD slot {}
  | .template _ inner => s.read inner
  | .forwarder target => s.read target

end Store
end SearchQuery
