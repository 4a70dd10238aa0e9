import RelationAtlas.Graph.Basic
import RelationAtlas.Source.Name

/-!
# Summaries

A summary says how large a graph is, how many edges of each kind it has and how many models of each
namespace, both in the order of code points.  A graph without models comes with a message that says
where models are expected.  The summary of one model lists its relationships.
-/

namespace RelationAtlas

/-- Each of the given texts with the number of times it occurs, in the order of code points. -/
def tally (ts : List Text) : List (Text × Nat) := (Text.sorted ts).map fun t => (t, ts.count t)

/-- What is said about a graph. -/
structure Summary where
  overview : Text
  perKind : List (Text × Nat)
  perNamespace : List (Text × Nat)
  message : Option Text
  deriving DecidableEq, Repr

namespace Graph

/-- The place a summary speaks of; an empty name is not mentioned. -/
def place : Option Text → Text
  | none => []
  | some [] => []
  | some root => " in ".toList ++ root

/-- The size of a graph in words. -/
def overview (g : Graph) (root : Option Text) : Text :=
  Text.ofNat g.nodes.length ++ " models, ".toList ++ Text.ofNat g.edges.length
    ++ " relationships".toList ++ place root

/-- What is said when no models were found. -/
def absence (root : Option Text) : Text :=
  "No models found".toList ++ place root
    ++ ". Models are expected under 'app/Models/' or 'app/'.".toList

/-- The summary of a graph that was found at some root. -/
def summary (g : Graph) (root : Option Text) : Summary where
  overview := g.overview root
  perKind := tally (g.edges.map (·.kind.word))
  perNamespace := tally (g.nodes.map fun n => Name.scope n.id)
  message := if g.isEmpty then some (absence root) else none

/-- The line that lists an edge under its model. -/
def edgeLine (e : Edge) : Text :=
  "  ".toList ++ e.name ++ ": ".toList ++ e.kind.word ++ " -> ".toList ++ e.target

/-- The lines of the edges that start at a model. -/
def edgeLines (g : Graph) (id : Text) : List Text :=
  (g.edges.filter fun e => e.source = id).map edgeLine

/-- The summary of one model: a heading, and a line for each of its relationships. -/
def modelSummary (g : Graph) (id : Text) : Text :=
  Text.join ['\n'] (("Model ".toList ++ id) :: g.edgeLines id)

end Graph

end RelationAtlas
