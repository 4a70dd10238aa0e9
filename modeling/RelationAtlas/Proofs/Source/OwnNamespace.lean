import RelationAtlas.Proofs.Source.InsertedImports

/-!
# Imports from the file's own namespace

A name that is not imported is understood as a member of the namespace of the file.  The import of such
a member says the same (`resolveTarget_insert_member`), and so a file contributes the same with it and
without it (`Contribution.ofFile_insert_ownNamespace`).
-/

namespace RelationAtlas

open Text

namespace SpelledName

/-- The name of a member of a namespace. -/
def member (scope : SpelledName) (w : Word) : SpelledName where
  text := Name.qualify scope.text w.text
  ne_nil := by simp [Name.qualify]
  isNameChar c hc := by
    rcases List.mem_append.mp hc with hc | hc
    · exact scope.isNameChar c hc
    rcases List.mem_cons.mp hc with rfl | hc
    · decide
    · exact w.toName.isNameChar c hc

lemma lastSegment_member (scope : SpelledName) (w : Word) :
    Name.lastSegment (scope.member w).text = w.text :=
  Name.lastSegment_qualify fun h => absurd (w.isWord _ h) (by decide +kernel)

end SpelledName

/-- With a member of the namespace imported, every target stands for what it stands for without. -/
lemma resolveTarget_insert_member {s t : Text} (scope : SpelledName) {w : Word}
    (hother : ∀ q ∈ Import.paths (s ++ ";\n".toList) ++ Import.paths t, Name.lastSegment q ≠ w.text)
    (raw : Text) :
    resolveTarget raw scope.text
        (Import.table (s ++ ";\n".toList ++ (Blueprint.importText [scope.member w] ++ t))) =
      resolveTarget raw scope.text (Import.table (s ++ ";\n".toList ++ t)) := by
  have hsegment := scope.lastSegment_member w
  rw [resolveTarget_insert (by rw [hsegment]; exact w.ne_nil), hsegment]
  split
  · next hdecides =>
    have hnone : (Import.table (s ++ ";\n".toList ++ t)).get? w.text = none := by
      rw [Import.table, Import.paths_append]
      exact Import.get?_foldl_add_eq_none_iff.mpr (Or.inr hother)
    rw [resolveTarget_eq, if_neg hdecides.1, hdecides.2.1, hnone]
    rfl
  · rfl

namespace Contribution

open Declaration

/-- The import of a member of the file's own namespace says nothing new: behind a finished statement,
wherever this is and wherever the namespace is declared, it can be written down or left out, unless its
alias is imported otherwise. -/
theorem ofFile_insert_ownNamespace (path : Text) {a b : Text} (ha : ";\n".toList <:+ a)
    {p : Reader.Place Text} (hfirst : IsFirstFrom 0 (IsNamespaceAt (a ++ b)) p) (w : Word)
    (hother : ∀ q ∈ Import.paths a ++ Import.paths b, Name.lastSegment q ≠ w.text) :
    ofFile ⟨path, a ++ ("use ".toList ++ Name.qualify p.value w.text ++ ";\n".toList) ++ b⟩ =
      ofFile ⟨path, a ++ b⟩ := by
  obtain ⟨s, rfl⟩ := ha
  obtain ⟨d, -, -, -, -, -, hvalue⟩ := hfirst.1
  have hline : "use ".toList ++ Name.qualify p.value w.text ++ ";\n".toList =
      Blueprint.importText [d.name.member w] := by
    rw [hvalue, Blueprint.importText_cons]
    unfold Blueprint.importLine
    simp [Blueprint.importText, SpelledName.member]
  have hrelationships : Relationship.ofText (s ++ ";\n".toList ++
      (Blueprint.importText [d.name.member w] ++ b)) = Relationship.ofText (s ++ ";\n".toList ++ b) :=
    Relationship.ofTextWith_insert (Blueprint.isIdle_importText _) _ s b
  rw [hline, List.append_assoc, ofFile, ofFile, identity_insert]
  cases hidentity : identity (s ++ ";\n".toList ++ b) with
  | error fault => rfl
  | ok c =>
    -- The targets are resolved in the namespace of the class, which is that of the first declaration.
    have hscope : c.scope = d.name.text := by
      have hanswers := answers_identity (s ++ ";\n".toList ++ b)
      rw [hidentity] at hanswers
      obtain ⟨p', q, hp', -, rfl⟩ := hanswers
      rw [← hvalue, eq_of_isFirst_namespace hp' hfirst]
    have hresolve := resolveTarget_insert_member d.name hother
    simp only [Except.map, ofClass, hrelationships, hscope, hresolve]

/-- A file up to the end of a line inside a string. -/
def openString : Text :=
  "<?php\nnamespace App\\Models;\nuse Blog\\Post;\nclass User extends Model \x7b\n".toList ++
    "public function roles() \x7b\n$query = 'select 1;\n".toList

/-- What follows the end of that line. -/
def closedString : Text :=
  "'; return $this->hasMany(Role::class); \x7d\npublic function posts() \x7b ".toList ++
    "return $this->hasMany(Post::class); \x7d\n\x7d\n".toList

/-- Even inside a string of a method, the import of a model beside the file's own is left out at will. -/
theorem ofFile_insert_ownNamespace_inString : ∃ p,
    IsFirstFrom 0 (IsNamespaceAt (openString ++ closedString)) p ∧
    p.value = "App\\Models".toList ∧ ";\n".toList <:+ openString ∧
    (∀ q ∈ Import.paths openString ++ Import.paths closedString,
      Name.lastSegment q ≠ "Role".toList) ∧
    ofFile ⟨"User.php".toList, openString ++ ("use ".toList ++
        Name.qualify p.value "Role".toList ++ ";\n".toList) ++ closedString⟩ =
      ofFile ⟨"User.php".toList, openString ++ closedString⟩ := by
  have hread : (first? readNamespace? [] (openString ++ closedString)).map Prod.fst =
      some "App\\Models".toList := by decide +kernel
  obtain ⟨⟨scope, rest⟩, hsearch, rfl⟩ := Option.map_eq_some_iff.mp hread
  have hspec := first?_readNamespace? (openString ++ closedString)
  rw [hsearch] at hspec
  obtain ⟨p, -, hfirst, hvalue, -⟩ := hspec
  have hend : ";\n".toList <:+ openString := by decide +kernel
  have hother : ∀ q ∈ Import.paths openString ++ Import.paths closedString,
      Name.lastSegment q ≠ "Role".toList := by decide +kernel
  let role : Word := ⟨"Role".toList, by decide, List.all_eq_true.mp (by decide +kernel)⟩
  exact ⟨p, hfirst, hvalue, hend, hother, ofFile_insert_ownNamespace _ hend hfirst role hother⟩

end Contribution

end RelationAtlas
