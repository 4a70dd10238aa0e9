import RelationAtlas.Graph.Contribution
import RelationAtlas.Log

/-!
# Assembling the graph

The graph of a list of files takes up the contributions of the files one after another.  The first
file that declares a class supplies its node; a later file that declares the same class adds its
edges only.  Files that declare no class are passed over.
-/

namespace RelationAtlas.Graph

/-- The graph with one more contribution. -/
def add (g : Graph) (c : Contribution) : Graph where
  nodes := if g.declares c.node.id then g.nodes else g.nodes ++ [c.node]
  edges := g.edges ++ c.edges

/-- The graph with what one more file contributes. -/
def addFile (g : Graph) (file : SourceFile) : Graph :=
  match Contribution.ofFile file with
  | .ok c => g.add c
  | .error _ => g

/-- The graph of a list of files. -/
def ofFiles (files : List SourceFile) : Graph := files.foldl addFile empty

/-- The remark on a file that is taken up after the graph `g` has been assembled. -/
def remark? (g : Graph) (file : SourceFile) : Option Log.Record :=
  match Contribution.ofFile file with
  | .error fault =>
    some ⟨.debug, "No model class in ".toList ++ file.path ++ ": ".toList ++ fault.message⟩
  | .ok c =>
    if g.declares c.node.id then
      some ⟨.warning, c.node.id ++ " declared again in ".toList ++ file.path
        ++ "; keeping the first node".toList⟩
    else none

/-- The remarks made while the files are taken up after `g`. -/
def remarksFrom (g : Graph) : List SourceFile → List Log.Record
  | [] => []
  | file :: files => (g.remark? file).toList ++ remarksFrom (g.addFile file) files

/-- The remarks made while the graph of a list of files is assembled. -/
def remarks (files : List SourceFile) : List Log.Record := empty.remarksFrom files

/-- Taking up two lists of files one after the other is taking up the first and then, from there,
the second. -/
theorem ofFiles_append (xs ys : List SourceFile) :
    ofFiles (xs ++ ys) = ys.foldl addFile (ofFiles xs) := by
  rw [ofFiles, List.foldl_append, ofFiles]

end RelationAtlas.Graph
