import RelationAtlas.RelationKind

/-!
# The relationship graph

The graph has a node for every model that was found and an edge for every relationship that one of
them declares.  Edges may be parallel, and they may lead to classes that are no node of the graph:
what a relationship leads to is only named, never looked up.
-/

namespace RelationAtlas

/-- A model. -/
structure ModelNode where
  id : Text
  label : Text
  path : Text
  deriving DecidableEq, Repr

/-- A relationship between two classes. -/
structure Edge where
  source : Text
  target : Text
  name : Text
  kind : RelationKind
  deriving DecidableEq, Repr

/-- The models that were found and the relationships they declare. -/
structure Graph where
  nodes : List ModelNode
  edges : List Edge
  deriving DecidableEq, Repr

namespace Graph

/-- The graph without nodes and edges. -/
def empty : Graph := ⟨[], []⟩

/-- Is there no model? -/
def isEmpty (g : Graph) : Bool := g.nodes.isEmpty

/-- The names of the models in order. -/
def nodeIds (g : Graph) : List Text := g.nodes.map (·.id)

/-- Is there a model of this name? -/
def declares (g : Graph) (id : Text) : Bool := g.nodeIds.contains id

end Graph

end RelationAtlas
