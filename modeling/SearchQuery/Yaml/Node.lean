/-
  Nodes: what a YAML text says before it is taken as a document.

  A node has a tag, and any node may be the key of a mapping.  A document has no tags, and its keys are
  scalars.
-/
import SearchQuery.Yaml.Fault
import SearchQuery.Yaml.Tag

namespace SearchQuery.Yaml

/-- A node, with the position where it begins and its tag. -/
inductive Node where
  | scalar (start : Mark) (tag : Tag) (text : Text)
  | sequence (start : Mark) (tag : Tag) (items : List Node)
  | mapping (start : Mark) (tag : Tag) (entries : List (Node × Node))
  deriving Repr

namespace Node

instance : Inhabited Node := ⟨.scalar ⟨0, 0⟩ .null []⟩

/-- Where a node begins. -/
def start : Node → Mark
  | .scalar m _ _ | .sequence m _ _ | .mapping m _ _ => m

/-- The tag of a node. -/
def tag : Node → Tag
  | .scalar _ t _ | .sequence _ t _ | .mapping _ t _ => t

/-- A node with another tag. -/
def withTag (t : Tag) : Node → Node
  | .scalar m _ text => .scalar m t text
  | .sequence m _ items => .sequence m t items
  | .mapping m _ entries => .mapping m t entries

/-- The name of the kind of a node, as messages call it. -/
def kind : Node → Text
  | .scalar _ _ _ => "scalar"
  | .sequence _ _ _ => "sequence"
  | .mapping _ _ _ => "mapping"

end Node
end SearchQuery.Yaml
