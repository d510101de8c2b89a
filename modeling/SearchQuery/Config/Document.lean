/-
  Documents: what a configuration file holds.

  1. **Tree** — a document is a scalar, a sequence of documents, a set of scalars, or a mapping from
     scalars to documents.  A configuration is the entries of a mapping.
  2. **View** — `at? path` is the document that lies at a path of keys.  Documents that are no
     mappings are the leaves; what a configuration says is which leaves it holds, and where.
-/
import SearchQuery.Scalar

namespace SearchQuery

/-- What a configuration file holds. -/
inductive Document where
  | scalar (s : Scalar)
  | sequence (items : List Document)
  | set (members : List Scalar)
  | mapping (entries : List (Scalar × Document))
  deriving Repr

/-- The entries of a mapping at the top of a document. -/
abbrev Configuration := Entries Document

namespace Document

/-- The absent document. -/
def null : Document := .scalar .null

instance : Inhabited Document := ⟨null⟩

/-- A text as a document. -/
def text (t : Text) : Document := .scalar (.text t)

/-- A truth value as a document. -/
def flag (b : Bool) : Document := .scalar (.number (.flag b))

/-- Whether there is something in a document. -/
def truthy : Document → Bool
  | .scalar s => s.truthy
  | .sequence items => !items.isEmpty
  | .set members => !members.isEmpty
  | .mapping entries => !entries.isEmpty

/-- Whether a document is a mapping. -/
def isMapping : Document → Bool
  | .mapping _ => true
  | _ => false

/-- The document at a path of keys. -/
def at? : List Scalar → Document → Option Document
  | [], d => some d
  | k :: path, .mapping entries => (Entries.get? k entries).bind (at? path)
  | _ :: _, _ => none

end Document

/-- The leaf that a configuration holds at a path: a document there which is no mapping. -/
def Configuration.leaf? (c : Configuration) (path : List Scalar) : Option Document :=
  ((Document.mapping c).at? path).filter fun d => !d.isMapping

end SearchQuery
