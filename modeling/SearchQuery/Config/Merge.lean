/-
  Merging configurations.

  A later configuration overrides an earlier one key by key.  Where both hold a mapping the two are
  merged in turn; anything else is replaced as a whole.  A key that was there keeps its place.
-/
import SearchQuery.Config.Document

namespace SearchQuery

namespace Document

mutual

/-- The entries of a mapping, overridden by others. -/
def mergeEntries (base : Configuration) : List (Scalar × Document) → Configuration
  | [] => base
  | (k, v) :: rest =>
    mergeEntries (Entries.insert k (override (Entries.get? k base) v) base) rest

/-- What stands for a key that held `old`, if it was there, and is overridden by a document. -/
def override (old : Option Document) : Document → Document
  | .mapping entries =>
    match old with
    | some (.mapping base) => .mapping (mergeEntries base entries)
    | _ => .mapping entries
  | d => d

end

end Document

namespace Configuration

/-- A configuration overridden by another. -/
def merge (base later : Configuration) : Configuration := Document.mergeEntries base later

/-- Configurations merged in order, later ones overriding earlier ones. -/
def mergeAll (cs : List Configuration) : Configuration := cs.foldl merge []

end Configuration
end SearchQuery
