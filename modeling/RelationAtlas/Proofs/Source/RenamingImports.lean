import RelationAtlas.Proofs.Source.Calls
import RelationAtlas.Proofs.Source.Targets

/-!
# Imports that rename what they import

An import that renames what it imports is not understood: its alias is what is written behind the last
separator, both names and the word between them.  Such an alias holds a blank, and no target holds one,
nor a comma or a closing parenthesis, because these characters end a target.  So an alias that holds one
of them is out of reach of all targets (`Import.isOutOfReach_lastSegment`), and whatever is imported by it
does not matter for the edges of the file (`Contribution.ofFile_withoutRenaming`).
-/

namespace RelationAtlas

open Text

/-- Targets hold only characters that can stand in a target. -/
lemma Relationship.isTargetChar_of_mem {t : Text} {r : Relationship} (hr : r ∈ ofText t) :
    ∀ c ∈ r.target, Call.isTargetChar c = true := by
  obtain ⟨m, -, hr⟩ := List.mem_flatMap.mp hr
  obtain ⟨call, hcall, rfl⟩ := List.mem_map.mp hr
  have hall : ∀ call ∈ Call.allWith RelationKind.all (Body.ofText m.span),
      ∀ c ∈ call.target, Call.isTargetChar c = true := by
    refine Reader.forall_mem_all (fun hread => ?_) _
    obtain ⟨w, rfl, -⟩ := Call.exists_writtenCall hread
    exact w.target.isTargetChar
  exact hall call hcall

/-- An import that renames what it imports. -/
structure RenamingImport where
  path : Text
  gapBefore : Gap
  gapBehind : Gap
  name : Word

namespace RenamingImport

/-- What stands behind the imported path. -/
def clause (q : RenamingImport) : Text :=
  q.gapBefore.text ++ ("as".toList ++ (q.gapBehind.text ++ q.name.text))

/-- What is written in the import. -/
def text (q : RenamingImport) : Text := q.path ++ q.clause

/-- The alias goes on behind the last segment of the imported path. -/
lemma lastSegment_text (q : RenamingImport) :
    Name.lastSegment q.text = Name.lastSegment q.path ++ q.clause := by
  have hblank : ∀ g : Gap, Name.separator ∉ g.text := fun g h =>
    absurd (g.isBlank _ h) (by decide)
  have hname : Name.separator ∉ q.name.text := fun h =>
    absurd (q.name.isWord _ h) (by decide +kernel)
  refine Name.lastSegment_append_of_notMem q.path ?_
  simp only [clause, List.mem_append, not_or]
  exact ⟨hblank _, by decide, hblank _, hname⟩

end RenamingImport

namespace Import

/-- Is the alias out of reach of all targets, because a character in it ends them? -/
def isOutOfReach (shortName : Text) : Bool := shortName.any fun c => isBlank c || c == ',' || c == ')'

/-- The aliases within reach are made of the characters of targets. -/
lemma isOutOfReach_eq_false_iff {shortName : Text} :
    isOutOfReach shortName = false ↔ ∀ c ∈ shortName, Call.isTargetChar c = true := by
  have hends : ∀ c, (isBlank c || c == ',' || c == ')') = !Call.isTargetChar c := by
    intro c
    simp [Call.isTargetChar, bne]
  simp [isOutOfReach, hends]

/-- The last segments of targets are within reach. -/
lemma isOutOfReach_lastSegment {t : Text} {r : Relationship} (hr : r ∈ Relationship.ofText t) :
    isOutOfReach (Name.lastSegment r.target) = false := by
  apply isOutOfReach_eq_false_iff.mpr
  intro c hc
  exact Relationship.isTargetChar_of_mem hr c (Name.mem_of_mem_lastSegment hc)

/-- The alias of a renaming import is not. -/
lemma isOutOfReach_renaming (q : RenamingImport) :
    isOutOfReach (Name.lastSegment q.text) = true := by
  obtain ⟨c, cs, hgap⟩ := List.exists_cons_of_ne_nil q.gapBefore.ne_nil
  have hblank : isBlank c = true := q.gapBefore.isBlank c (by simp [hgap])
  rw [q.lastSegment_text, RenamingImport.clause, hgap]
  simp [isOutOfReach, hblank]

/-- What is found within reach does not depend on a renaming import. -/
lemma get?_renaming {shortName : Text} (h : isOutOfReach shortName = false) (q : RenamingImport)
    (front back : List Text) :
    ((front ++ q.text :: back).foldl add []).get? shortName =
      ((front ++ back).foldl add []).get? shortName := by
  have hreach := isOutOfReach_renaming q
  have hne : Name.lastSegment q.text ≠ [] := fun hnil => by
    rw [hnil] at hreach
    cases hreach
  have hother : Name.lastSegment q.text ≠ shortName := fun heq => by
    rw [heq, h] at hreach
    cases hreach
  rw [get?_foldl_add_insert hne, if_neg fun hand => hother hand.1]

end Import

namespace Contribution

/-- A file contributes the same when all aliases that hold a blank, a comma or a closing parenthesis are
taken out of its import table.

In particular it contributes the same when a renaming import is not counted among its imports, and a
target that is not rooted, such as the new name or the last segment of what is imported by it, is a member
of the namespace of the file unless another import has its last segment as an alias. -/
theorem ofFile_withoutRenaming (file : SourceFile) :
    ofFileBy (fun c raw =>
      resolveTarget raw c.scope ((Import.table file.text).erase Import.isOutOfReach)) file =
        ofFile file ∧
    ∀ (front back : List Text) (q : RenamingImport),
      Import.paths file.text = front ++ q.text :: back →
        ofFileBy (fun c raw =>
          resolveTarget raw c.scope ((front ++ back).foldl Import.add [])) file = ofFile file ∧
        ∀ c identity, ofFile file = .ok c → Declaration.identity file.text = .ok identity →
          List.Forall₂ (fun r e => r.target.head? ≠ some Name.separator →
              (∀ p ∈ front ++ back, Name.lastSegment p ≠ Name.lastSegment r.target) →
                e.target = Name.qualify identity.scope (Name.lastSegment r.target))
            (Relationship.ofText file.text) c.edges := by
  refine ⟨?_, fun front back q hpaths => ⟨?_, fun c identity hfile hidentity => ?_⟩⟩
  · rw [ofFile_eq_ofFileBy]
    apply ofFileBy_congr
    intro c r hr
    rw [resolveTarget_eq, resolveTarget_eq, Assoc.get?_erase, Import.isOutOfReach_lastSegment hr]
    rfl
  · rw [ofFile_eq_ofFileBy, Import.table, hpaths]
    apply ofFileBy_congr
    intro c r hr
    rw [resolveTarget_eq, resolveTarget_eq,
      Import.get?_renaming (Import.isOutOfReach_lastSegment hr)]
  · obtain ⟨_, hclass, rfl⟩ := ofFile_eq_ok_iff.mp hfile
    obtain rfl := Except.ok.inj (hclass.symm.trans hidentity)
    apply forall₂_targets fun raw target => raw.head? ≠ some Name.separator →
      (∀ p ∈ front ++ back, Name.lastSegment p ≠ Name.lastSegment raw) →
        target = Name.qualify _ (Name.lastSegment raw)
    intro r hr hunrooted hother
    have hnone : (Import.table file.text).get? (Name.lastSegment r.target) = none := by
      rw [Import.table, hpaths, Import.get?_renaming (Import.isOutOfReach_lastSegment hr)]
      exact Import.get?_foldl_add_eq_none_iff.mpr (Or.inr hother)
    rw [resolveTarget_eq, if_neg hunrooted, hnone, Option.getD_none]

/-- A file that imports one model by another name, and one more model. -/
def renamedComment : SourceFile where
  path := "Post.php".toList
  text := "<?php\nnamespace App;\nuse Blog\\Comment as Reply;\nuse Blog\\Tag;\n".toList ++
    "class Post \x7b\npublic function all() \x7b\n$this->hasMany(Reply::class);\n".toList ++
    "$this->hasMany(Comment::class); $this->hasMany(Tag::class);\n\x7d\n\x7d\n".toList

/-- The import of the file that renames a model. -/
def asReply : RenamingImport where
  path := "Blog\\Comment".toList
  gapBefore := ⟨⟨" ".toList, List.all_eq_true.mp (by decide)⟩, by decide⟩
  gapBehind := ⟨⟨" ".toList, List.all_eq_true.mp (by decide)⟩, by decide⟩
  name := ⟨"Reply".toList, by decide, List.all_eq_true.mp (by decide +kernel)⟩

/-- What the file contributes: neither the old name nor the new one leads to the imported model. -/
def renamedContribution : Contribution where
  node := ⟨"App\\Post".toList, "Post".toList, "Post.php".toList⟩
  edges := [⟨"App\\Post".toList, "App\\Reply".toList, "all".toList, .hasMany⟩,
    ⟨"App\\Post".toList, "App\\Comment".toList, "all".toList, .hasMany⟩,
    ⟨"App\\Post".toList, "Blog\\Tag".toList, "all".toList, .hasMany⟩]

/-- The file contributes the same when only its other import counts. -/
theorem ofFile_withoutRenaming_asReply :
    Import.paths renamedComment.text = [] ++ asReply.text :: ["Blog\\Tag".toList] ∧
    ofFile renamedComment = .ok renamedContribution ∧
    Declaration.identity renamedComment.text = .ok ⟨"App".toList, "Post".toList⟩ ∧
    ofFileBy (fun c raw => resolveTarget raw c.scope
      (([] ++ ["Blog\\Tag".toList]).foldl Import.add [])) renamedComment = ofFile renamedComment ∧
    List.Forall₂ (fun r e => r.target.head? ≠ some Name.separator →
        (∀ p ∈ [] ++ ["Blog\\Tag".toList], Name.lastSegment p ≠ Name.lastSegment r.target) →
          e.target = Name.qualify "App".toList (Name.lastSegment r.target))
      (Relationship.ofText renamedComment.text) renamedContribution.edges := by
  have hpaths : Import.paths renamedComment.text =
      [] ++ asReply.text :: ["Blog\\Tag".toList] := by
    decide +kernel
  have hfile : ofFile renamedComment = .ok renamedContribution := by decide +kernel
  have hidentity : Declaration.identity renamedComment.text =
      .ok ⟨"App".toList, "Post".toList⟩ := by
    decide +kernel
  obtain ⟨hsame, hmembers⟩ := (ofFile_withoutRenaming renamedComment).2 _ _ _ hpaths
  exact ⟨hpaths, hfile, hidentity, hsame, hmembers _ _ hfile hidentity⟩

end Contribution

end RelationAtlas
