import RelationAtlas.Graph.Basic
import RelationAtlas.Json.Basic

/-!
# The graph as it is shown

A viewer draws the graph from a payload: nodes with their file as a title, edges with the name of
the declaring method as a label and their kind as a title.  The payload is written as a structured
value with the nodes first.
-/

namespace RelationAtlas

/-- A node as it is shown. -/
structure NodeView where
  id : Text
  label : Text
  path : Text
  title : Text
  deriving DecidableEq, Repr

/-- An edge as it is shown. -/
structure EdgeView where
  source : Text
  target : Text
  label : Text
  title : Text
  deriving DecidableEq, Repr

/-- A graph as it is shown. -/
structure Payload where
  nodes : List NodeView
  edges : List EdgeView
  deriving DecidableEq, Repr

/-- A node as it is shown. -/
def ModelNode.view (n : ModelNode) : NodeView := ⟨n.id, n.label, n.path, "Path: ".toList ++ n.path⟩

/-- An edge as it is shown. -/
def Edge.view (e : Edge) : EdgeView := ⟨e.source, e.target, e.name, "Type: ".toList ++ e.kind.word⟩

/-- The graph as it is shown. -/
def Graph.payload (g : Graph) : Payload := ⟨g.nodes.map ModelNode.view, g.edges.map Edge.view⟩

/-! ## As a structured value -/

/-- The structured value of a node. -/
def NodeView.json (n : NodeView) : Json :=
  .object [("id".toList, .string (Json.codesOf n.id)),
    ("label".toList, .string (Json.codesOf n.label)),
    ("path".toList, .string (Json.codesOf n.path)),
    ("title".toList, .string (Json.codesOf n.title))]

/-- The structured value of an edge. -/
def EdgeView.json (e : EdgeView) : Json :=
  .object [("from".toList, .string (Json.codesOf e.source)),
    ("to".toList, .string (Json.codesOf e.target)),
    ("label".toList, .string (Json.codesOf e.label)),
    ("title".toList, .string (Json.codesOf e.title))]

/-- The structured value of a payload. -/
def Payload.json (p : Payload) : Json :=
  .object [("nodes".toList, .array (p.nodes.map NodeView.json)),
    ("edges".toList, .array (p.edges.map EdgeView.json))]

end RelationAtlas
