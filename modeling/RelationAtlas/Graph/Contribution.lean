import RelationAtlas.Graph.Basic
import RelationAtlas.Source.Declaration
import RelationAtlas.Source.Import
import RelationAtlas.Source.Relationship

/-!
# What one file contributes

A file that declares a class contributes a node for that class and an edge for each relationship it
declares.  The target of an edge is the target as written, turned into a fully qualified name by the
rules of the file: a rooted name is taken without its leading separator, a name whose last segment
is imported is what the import says, and any other name is taken to live in the namespace of the
file.  The result is a guess and is never checked against the models that were found.
-/

namespace RelationAtlas

/-- The fully qualified name of a target as written in a file with the given namespace and
imports. -/
def resolveTarget (raw scope : Text) (imports : ImportTable) : Text :=
  match Text.after? [Name.separator] raw with
  | some rooted => rooted
  | none =>
    let bare := Name.lastSegment raw
    match imports.get? bare with
    | some path => path
    | none => Name.qualify scope bare

/-- The three ways to understand a target. -/
theorem resolveTarget_eq (raw scope : Text) (imports : ImportTable) :
    resolveTarget raw scope imports =
      if raw.head? = some Name.separator then raw.tail
      else (imports.get? (Name.lastSegment raw)).getD
        (Name.qualify scope (Name.lastSegment raw)) := by
  unfold resolveTarget
  cases hafter : Text.after? [Name.separator] raw with
  | some rooted =>
    obtain rfl := Text.after?_eq_some_iff.mp hafter
    rfl
  | none =>
    have hroot : raw.head? ≠ some Name.separator := by
      intro hhead
      obtain ⟨rest, rfl⟩ := List.head?_eq_some_iff.mp hhead
      have hpassed := Text.after?_append [Name.separator] rest
      rw [List.singleton_append, hafter] at hpassed
      cases hpassed
    rw [if_neg hroot]
    dsimp only
    cases imports.get? (Name.lastSegment raw) <;> rfl

/-- A file and its text. -/
structure SourceFile where
  path : Text
  text : Text
  deriving DecidableEq, Repr

/-- The node and the edges that a file contributes. -/
structure Contribution where
  node : ModelNode
  edges : List Edge
  deriving DecidableEq, Repr

namespace Contribution

/-- The contribution of a file whose class is known. -/
def ofClass (c : ClassIdentity) (file : SourceFile) : Contribution :=
  let imports := Import.table file.text
  { node := ⟨c.qualified, c.name, file.path⟩
    edges := (Relationship.ofText file.text).map fun r =>
      ⟨c.qualified, resolveTarget r.target c.scope imports, r.method, r.kind⟩ }

/-- The contribution of a file, or the reason why it has none. -/
def ofFile (file : SourceFile) : Except DeclarationFault Contribution :=
  (Declaration.identity file.text).map fun c => ofClass c file

/-- Every edge a file contributes starts at the class it declares. -/
theorem source_of_mem_edges {file : SourceFile} {c : Contribution} {e : Edge}
    (h : ofFile file = .ok c) (he : e ∈ c.edges) : e.source = c.node.id := by
  unfold ofFile at h
  cases hid : Declaration.identity file.text with
  | error f => rw [hid] at h; cases h
  | ok id =>
    rw [hid] at h
    obtain rfl := Except.ok.inj h
    obtain ⟨r, _, rfl⟩ := List.mem_map.mp he
    rfl

end Contribution

end RelationAtlas
