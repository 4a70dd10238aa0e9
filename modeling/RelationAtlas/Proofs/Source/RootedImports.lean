import RelationAtlas.Proofs.Source.InsertedImports
import RelationAtlas.Proofs.Source.Targets

/-!
# Imports with a separator at their front

A path may be imported with a separator at its front, and names the same class.  The alias of the import
is the same in both spellings, and so they decide the same targets, but what an edge leads to is spelled
as it is in the import (`Contribution.ofFile_insert_eitherSpelling`).  A rooted target loses its first
separator, and an imported path keeps it.  So the spelling does not matter for the edges of a file as long
as the import decides no target, and otherwise it does (`Contribution.not_isIndifferentToRoot`).
-/

namespace RelationAtlas

open Text

namespace SpelledName

/-- The name with a separator at its front. -/
def rooted (n : SpelledName) : SpelledName where
  text := Name.separator :: n.text
  ne_nil := by simp
  isNameChar c hc := by
    rcases List.mem_cons.mp hc with rfl | hc
    · decide
    · exact n.isNameChar c hc

lemma lastSegment_rooted (n : SpelledName) :
    Name.lastSegment n.rooted.text = Name.lastSegment n.text :=
  Name.lastSegment_append_separator [] n.text

end SpelledName

namespace Contribution

/-- Behind a finished statement, imports matter for the meaning of targets only. -/
lemma ofFile_insert_imports (path s t : Text) (imports : List SpelledName) :
    ofFile ⟨path, s ++ ";\n".toList ++ (Blueprint.importText imports ++ t)⟩ =
      ofFileBy (fun c raw => resolveTarget raw c.scope
        (Import.table (s ++ ";\n".toList ++ (Blueprint.importText imports ++ t))))
          ⟨path, s ++ ";\n".toList ++ t⟩ := by
  have hrelationships := Relationship.ofTextWith_insert (Blueprint.isIdle_importText imports)
    RelationKind.all s t
  rw [← Relationship.ofText, ← Relationship.ofText] at hrelationships
  rw [ofFile_eq_ofFileBy, ofFileBy, ofFileBy]
  simp only [Declaration.identity_insert, hrelationships]

/-- With one more import behind a finished statement, the targets that it decides lead to the imported
path, and the other ones to what they lead to without. -/
lemma ofFile_insert_import {p : SpelledName} (hne : Name.lastSegment p.text ≠ []) (path s t : Text) :
    ofFile ⟨path, s ++ ";\n".toList ++ ("use ".toList ++ p.text ++ ";\n".toList) ++ t⟩ =
      ofFileBy (fun c raw =>
        if Import.Decides (Name.lastSegment p.text) t raw then p.text
        else resolveTarget raw c.scope (Import.table (s ++ ";\n".toList ++ t)))
          ⟨path, s ++ ";\n".toList ++ t⟩ := by
  rw [← Blueprint.importText_singleton, List.append_assoc _ (Blueprint.importText [p]),
    ofFile_insert_imports]
  simp only [resolveTarget_insert hne]

/-- Two ways to understand the targets of a file give the same edges when they agree on each target, or
when no class is found in the file. -/
lemma edges_ofFileBy_eq_iff {meaning meaning' : ClassIdentity → Text → Text} {file : SourceFile} :
    (ofFileBy meaning file).map edges = (ofFileBy meaning' file).map edges ↔
      ∀ identity, Declaration.identity file.text = .ok identity →
        ∀ r ∈ Relationship.ofText file.text,
          meaning identity r.target = meaning' identity r.target := by
  rw [ofFileBy, ofFileBy]
  cases Declaration.identity file.text with
  | error fault => simp [Except.map]
  | ok c => simp [Except.map]

/-- An import behind a finished statement, spelled with a separator at its front or without, is what the
targets that it decides lead to as it is spelled, and nothing else changes by it.  So both spellings give
the same edges just when the import decides no target, or when no class is found in the file. -/
theorem ofFile_insert_eitherSpelling {a : Text} (ha : ";\n".toList <:+ a) (b path : Text)
    {p : SpelledName} (hsegment : Name.lastSegment p.text ≠ []) :
    (∀ q ∈ [p, p.rooted],
      ofFile ⟨path, a ++ ("use ".toList ++ q.text ++ ";\n".toList) ++ b⟩ =
        ofFileBy (fun c raw =>
          if Import.Decides (Name.lastSegment p.text) b raw then q.text
          else resolveTarget raw c.scope (Import.table (a ++ b))) ⟨path, a ++ b⟩) ∧
    ((ofFile ⟨path, a ++ ("use ".toList ++ p.text ++ ";\n".toList) ++ b⟩).map edges =
        (ofFile ⟨path, a ++ ("use ".toList ++ (Name.separator :: p.text) ++ ";\n".toList) ++ b⟩).map
          edges ↔
      ∀ identity, Declaration.identity (a ++ b) = .ok identity →
        ∀ r ∈ Relationship.ofText (a ++ b),
          ¬ Import.Decides (Name.lastSegment p.text) b r.target) := by
  obtain ⟨s, rfl⟩ := ha
  have hsame : ∀ q ∈ [p, p.rooted], Name.lastSegment q.text = Name.lastSegment p.text := by
    intro q hq
    rcases List.mem_pair.mp hq with rfl | rfl
    · rfl
    · exact p.lastSegment_rooted
  constructor
  · intro q hq
    rw [ofFile_insert_import (by rwa [hsame q hq]), hsame q hq]
  rw [ofFile_insert_import hsegment, show Name.separator :: p.text = p.rooted.text from rfl,
    ofFile_insert_import (by rwa [p.lastSegment_rooted]), p.lastSegment_rooted, edges_ofFileBy_eq_iff]
  -- The two spellings are different texts.
  have hspelling : p.text ≠ p.rooted.text := (List.cons_ne_self _ _).symm
  apply forall₂_congr
  intro identity _
  apply forall₂_congr
  intro r _
  by_cases hdecides : Import.Decides (Name.lastSegment p.text) b r.target
  · rw [if_pos hdecides, if_pos hdecides]
    exact iff_of_false hspelling (not_not_intro hdecides)
  · rw [if_neg hdecides, if_neg hdecides]
    exact iff_of_true rfl hdecides

/-- What stands in front of an import, a namespace declaration. -/
def importFront : Text := "<?php\nnamespace App;\n".toList

lemma suffix_importFront : ";\n".toList <:+ importFront := ⟨"<?php\nnamespace App".toList, by decide⟩

/-- What stands behind the import, a model that has many of what is imported. -/
def importBack : Text :=
  "class User \x7b\npublic function posts() \x7b return $this->hasMany(Post::class); \x7d\n\x7d\n".toList

/-- The imported path. -/
def blogPost : SpelledName where
  text := "Blog\\Post".toList
  ne_nil := by decide
  isNameChar := List.all_eq_true.mp (by decide +kernel)

/-- The import decides the target of the model, and so the edge leads to the path as it is spelled. -/
theorem ofFile_insert_eitherSpelling_blogPost :
    (∀ q ∈ [blogPost, blogPost.rooted],
      ofFile ⟨"User.php".toList,
          importFront ++ ("use ".toList ++ q.text ++ ";\n".toList) ++ importBack⟩ =
        ofFileBy (fun c raw =>
          if Import.Decides (Name.lastSegment blogPost.text) importBack raw then q.text
          else resolveTarget raw c.scope (Import.table (importFront ++ importBack)))
            ⟨"User.php".toList, importFront ++ importBack⟩) ∧
    Import.Decides (Name.lastSegment blogPost.text) importBack "Post".toList ∧
    (ofFile ⟨"User.php".toList,
        importFront ++ ("use ".toList ++ blogPost.text ++ ";\n".toList) ++ importBack⟩).map edges ≠
      (ofFile ⟨"User.php".toList, importFront ++
        ("use ".toList ++ (Name.separator :: blogPost.text) ++ ";\n".toList) ++ importBack⟩).map
          edges := by
  have hsegment : Name.lastSegment blogPost.text ≠ [] := by decide
  obtain ⟨hfile, hedges⟩ := ofFile_insert_eitherSpelling suffix_importFront importBack
    "User.php".toList hsegment
  have hdecides : Import.Decides (Name.lastSegment blogPost.text) importBack "Post".toList := by
    decide +kernel
  have hidentity : Declaration.identity (importFront ++ importBack) =
      .ok ⟨"App".toList, "User".toList⟩ := by
    decide +kernel
  have hrelationships : Relationship.ofText (importFront ++ importBack) =
      [⟨"posts".toList, .hasMany, "Post".toList⟩] := by
    decide +kernel
  refine ⟨hfile, hdecides, fun hsame => ?_⟩
  apply hedges.mp hsame _ hidentity ⟨"posts".toList, .hasMany, "Post".toList⟩
  · rw [hrelationships]
    exact List.mem_singleton_self _
  · exact hdecides

/-- Does it not matter for the edges of a file whether a path is imported with a separator at its front? -/
def IsIndifferentToRoot : Prop :=
  ∀ (a b path : Text) (p : SpelledName), ";\n".toList <:+ a →
    p.text.head? ≠ some Name.separator → Name.lastSegment p.text ≠ [] →
      (ofFile ⟨path, a ++ ("use ".toList ++ p.text ++ ";\n".toList) ++ b⟩).map edges =
        (ofFile ⟨path, a ++ ("use ".toList ++ (Name.separator :: p.text) ++ ";\n".toList) ++ b⟩).map
          edges

/-- With a separator at the front of the imported path, an edge leads to another name. -/
theorem not_isIndifferentToRoot : ¬ IsIndifferentToRoot := by
  intro hsame
  have hedges := hsame importFront importBack "User.php".toList blogPost suffix_importFront
    (by decide) (by decide)
  revert hedges
  decide +kernel

end Contribution

end RelationAtlas
