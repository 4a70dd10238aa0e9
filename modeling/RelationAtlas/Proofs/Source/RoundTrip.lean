import RelationAtlas.Proofs.Source.Declarations
import RelationAtlas.Proofs.Source.Imports
import RelationAtlas.Proofs.Source.MethodText

/-!
# Reading back what a blueprint writes

A file that is written from a blueprint contributes what the blueprint says
(`Blueprint.ofFile_render`).  The declarations, the imports and the relationships are looked for by
searches of their own, each of which walks over the whole file; each search comes with a lemma on
what it finds in the lines that concern it and with lemmas that it passes over all others.
-/

namespace RelationAtlas.Blueprint

open Text

/-! ## The class -/

section Declarations

open Declaration

/-- The characters of the line of an import around the names: nothing that is read at one of them is a
declaration. -/
def importSigns : List Char := ['u', ';', '\n']

/-- The search for a declaration goes on behind an import. -/
lemma first?_importLine {read? : Text → Option (Text × Text)}
    (hsign : ∀ c ∈ importSigns, ∀ t, read? (c :: t) = none) (p : SpelledName) (before t : Text) :
    first? read? before (importLine p ++ '\n' :: t) =
      first? read? ('\n' :: (importLine p).reverse ++ before) t := by
  have hline : importLine p ++ '\n' :: t =
      'u' :: 's' :: 'e' :: ' ' :: (p.text ++ ';' :: '\n' :: t) := by
    unfold importLine
    simp
  have hreverse : '\n' :: (importLine p).reverse ++ before =
      '\n' :: ';' :: (p.text.reverse ++ ' ' :: 'e' :: 's' :: 'u' :: before) := by
    unfold importLine
    simp
  -- Behind a space no declaration begins, and so it does not matter what the name is.
  rw [hline, hreverse, first?_of_none (hsign 'u' (by decide) _), first?_of_closed rfl,
    first?_of_closed rfl, first?_of_closed rfl, first?_name,
    first?_of_none (hsign ';' (by decide) _), first?_of_none (hsign '\n' (by decide) _)]

/-- No class is declared at the signs of an import. -/
lemma readClass?_importSign {c : Char} (hc : c ∈ importSigns) (t : Text) :
    readClass? (c :: t) = none := by
  simp only [importSigns, List.mem_cons, List.not_mem_nil, or_false] at hc
  rcases hc with rfl | rfl | rfl
  all_goals exact readClass?_eq_none (by decide) (by simp [modifiers, after?])

/-- The search for a declaration goes on behind imports. -/
lemma first?_imports {read? : Text → Option (Text × Text)}
    (hsign : ∀ c ∈ importSigns, ∀ t, read? (c :: t) = none) (paths : List SpelledName)
    (before t : Text) : first? read? before (importText paths ++ t) =
      first? read? ((importText paths).reverse ++ before) t := by
  induction paths generalizing before with
  | nil => rfl
  | cons p paths ih =>
    rw [importText_cons, List.append_assoc, List.cons_append, first?_importLine hsign, ih]
    simp

/-- The class of a file that is written. -/
lemma identity_render (b : Blueprint) (ended : Bool) :
    identity (b.render ended) = .ok ⟨b.scope.text, b.name.text⟩ := by
  have hnamespace : first? readNamespace? [] (b.render ended) =
      some (b.scope.text, '\n' :: '\n' :: (importText b.imports ++ '\n' :: b.classText ended)) := by
    have hindent : "<?php\n\n".toList.any isIndent = false := by decide
    have hletter : 'n' ∉ "<?php\n\n".toList := by simp
    have hpassed : ∀ t, Passed readNamespace? "<?php\n\n".toList t := by
      refine passed_of_forall fun c hc u => readNamespace?_eq_none ?_ ?_ u
      · exact Bool.eq_false_iff.mpr (List.any_eq_false.mp hindent c hc)
      · rintro rfl
        exact hletter hc
    rw [render_eq, first?_of_passed (hpassed _)]
    exact first?_of_some (by simp) rfl (readNamespace?_eq b.scope _)
  have hclass : first? readClass? [';']
      ('\n' :: '\n' :: (importText b.imports ++ '\n' :: b.classText ended)) =
        some (b.name.text, ' ' :: ("extends Model\n\x7b\n".toList ++
          (methodText b.methods ++ lastLine ended))) := by
    have hnewline := readClass?_importSign (c := '\n') (by decide)
    rw [first?_of_none (hnewline _), first?_of_none (hnewline _),
      first?_imports fun _ => readClass?_importSign, first?_of_none (hnewline _)]
    unfold classText
    exact first?_of_some (by simp) rfl (readClass?_eq b.name _)
  rw [identity, hnamespace]
  simp only [hclass]

end Declarations

/-! ## The imports -/

section Imports

open Import

/-- An import that is written down is read, and the search goes on in the next line. -/
lemma pathsFrom_importLine (p : SpelledName) (t : Text) :
    pathsFrom true (importLine p ++ '\n' :: t) = p.text :: pathsFrom true t := by
  have hline : importLine p ++ '\n' :: t =
      ("use".toList ++ ' ' :: p.text) ++ ';' :: '\n' :: t := by
    unfold importLine
    simp
  have hsemicolon : ';' ∉ "use".toList ++ ' ' :: p.text := by
    simp [p.notMem (d := ';') (by decide)]
  have hpath : path? ("use".toList ++ ' ' :: p.text) = some p.text := by
    have hstart : dropBlanks ("use".toList ++ ' ' :: p.text) = "use".toList ++ ' ' :: p.text :=
      dropBlanks_cons_of_not (by decide) _
    have htrim := trim_eq_self fun c hc => isBlank_eq_false_of_isNameChar (p.isNameChar c hc)
    obtain ⟨c, cs, hp⟩ := List.exists_cons_of_ne_nil p.ne_nil
    rw [hp] at hstart htrim ⊢
    rw [path?, hstart, after?_append]
    simp only
    rw [if_pos (by decide), htrim]
  rw [hline, paths_statement hsemicolon, statementPath?_of_path? hpath, pathsFrom_newline]
  rfl

/-- The imports that are written down are read. -/
lemma pathsFrom_imports (paths : List SpelledName) (t : Text) :
    pathsFrom true (importText paths ++ t) = paths.map SpelledName.text ++ pathsFrom true t := by
  induction paths with
  | nil => rfl
  | cons p paths ih =>
    rw [importText_cons, List.append_assoc, List.cons_append, pathsFrom_importLine, ih]
    rfl

/-- No line of a method begins with an import. -/
lemma isOtherLine_of_mem_lines (m : MethodPlan) : ∀ line ∈ m.lines, IsOtherLine line := by
  have hname : ∀ n : SpelledName, '\n' ∉ n.text := fun n => n.notMem (by decide)
  intro line hline
  unfold MethodPlan.lines at hline
  rcases List.mem_append.mp hline with hline | hline
  · rcases List.mem_append.mp hline with hline | hline
    · rcases List.mem_cons.mp hline with rfl | hline
      · refine isOtherLine_of_head? (c := 'p') ?_ rfl (by decide)
        simp only [List.mem_append, not_or]
        exact ⟨⟨by simp, hname m.name.toName⟩, by simp⟩
      · obtain rfl : line = "\t\x7b".toList := List.mem_singleton.mp hline
        exact isOtherLine_of_head? (c := '{') (by simp) rfl (by decide)
    · obtain ⟨call, -, rfl⟩ := List.mem_map.mp hline
      refine isOtherLine_of_head? (c := '$') ?_ rfl (by decide)
      unfold MethodPlan.callLine
      simp only [List.mem_append, List.mem_cons, not_or]
      exact ⟨⟨⟨by simp, by simp⟩, hname call.1.toWord.toName⟩, by decide,
        ⟨hname call.2, by simp⟩, by simp⟩
  · obtain rfl : line = "\t\x7d".toList := List.mem_singleton.mp hline
    exact isOtherLine_of_head? (c := '}') (by simp) rfl (by decide)

/-- Nothing is imported by the lines of the class. -/
lemma holdsNoImport_classText (b : Blueprint) (ended : Bool) :
    HoldsNoImport true (b.classText ended) := by
  have hlines : b.classText ended = (("class ".toList ++ b.name.text ++ " extends Model".toList) ::
      ['{'] :: b.methods.flatMap MethodPlan.lines).flatMap (· ++ ['\n']) ++ lastLine ended := by
    unfold classText methodText
    simp only [List.flatMap_cons, List.append_assoc, List.cons_append, List.nil_append]
    rfl
  have hbrace : ∀ c ∈ ['{', '}'], IsOtherLine [c] := by
    intro c hc
    rcases List.mem_pair.mp hc with rfl | rfl
    · exact isOtherLine_of_head? (by decide) rfl (by decide)
    · exact isOtherLine_of_head? (by decide) rfl (by decide)
  have hlast : HoldsNoImport true (lastLine ended) := by
    cases ended with
    | false => exact ⟨fun _ => (hbrace '}' (by simp)).2 [], trivial⟩
    | true => exact (hbrace '}' (by simp)).holdsNoImport trivial
  rw [hlines]
  refine holdsNoImport_lines (fun line hline => ?_) hlast
  rcases List.mem_cons.mp hline with rfl | hline
  · refine isOtherLine_of_head? (c := 'c') ?_ rfl (by decide)
    simp only [List.mem_append, not_or]
    exact ⟨⟨by simp, b.name.toName.notMem (by decide)⟩, by simp⟩
  · rcases List.mem_cons.mp hline with rfl | hline
    · exact hbrace '{' (by simp)
    · obtain ⟨m, -, hm⟩ := List.mem_flatMap.mp hline
      exact isOtherLine_of_mem_lines m line hm

/-- The imports of a file that is written. -/
lemma paths_render (b : Blueprint) (ended : Bool) :
    paths (b.render ended) = b.imports.map SpelledName.text := by
  have hsemicolon : ';' ∉ "<?php\n\n".toList ++ ("namespace ".toList ++ b.scope.text) := by
    simp only [List.mem_append, not_or]
    exact ⟨by simp, by simp, b.scope.notMem (by decide)⟩
  -- The first statement ends with the namespace, and its three lines are no imports.
  have hnamespace : IsOtherLine ("namespace ".toList ++ b.scope.text ++ ";".toList) := by
    refine isOtherLine_of_head? (c := 'n') ?_ rfl (by decide)
    simp only [List.mem_append, not_or]
    exact ⟨⟨by simp, b.scope.notMem (by decide)⟩, by simp⟩
  have hopening : IsOtherLine "<?php".toList :=
    isOtherLine_of_head? (c := '<') (by simp) rfl (by decide)
  have hfront : HoldsNoImport true ("<?php".toList ++ '\n' :: ('\n' :: ("namespace ".toList ++
      b.scope.text ++ ";".toList ++ ['\n']))) := by
    refine hopening.holdsNoImport ⟨fun _ => ?_, hnamespace.holdsNoImport trivial⟩
    rw [dropBlanks_cons_of_isBlank (by decide)]
    exact hnamespace.2 _
  have hfirst : statementPath? true
      ("<?php\n\n".toList ++ ("namespace ".toList ++ b.scope.text)) = none := by
    have heq : "<?php".toList ++ '\n' :: ('\n' :: ("namespace ".toList ++ b.scope.text ++
        ";".toList ++ ['\n'])) =
          "<?php\n\n".toList ++ ("namespace ".toList ++ b.scope.text) ++ ';' :: ['\n'] := by
      simp
    rw [heq] at hfront
    exact hfront.statement.1
  have hsplit : ∀ t, "<?php\n\n".toList ++ ("namespace ".toList ++ b.scope.text ++ ';' :: t) =
      "<?php\n\n".toList ++ ("namespace ".toList ++ b.scope.text) ++ ';' :: t := by
    intro t
    simp only [List.append_assoc]
  rw [paths_eq, render_eq, hsplit, paths_statement hsemicolon, hfirst, pathsFrom_newline,
    pathsFrom_newline, pathsFrom_imports, pathsFrom_newline,
    paths_eq_nil (holdsNoImport_classText b ended)]
  simp

lemma get?_table_render (b : Blueprint) (ended : Bool) (segment : Text) :
    (table (b.render ended)).get? segment = (b.importsOf segment).getLast? := by
  rw [table, paths_render, get?_foldl_add, importsOf]

/-- A target stands for its meaning. -/
lemma resolveTarget_render (b : Blueprint) (ended : Bool) (n : SpelledName) :
    resolveTarget n.text b.scope.text (table (b.render ended)) = b.meaning n := by
  rw [resolveTarget_eq, get?_table_render]
  rfl

end Imports

/-! ## The relationships -/

/-- No header begins in an import. -/
lemma passed_importText (paths : List SpelledName) (t : Text) :
    Passed Method.header? (importText paths) t := by
  induction paths with
  | nil => trivial
  | cons p paths ih =>
    have hline : importText (p :: paths) =
        "use ".toList ++ (p.text ++ (";\n".toList ++ importText paths)) := by
      rw [importText_cons]
      unfold importLine
      simp
    rw [hline]
    refine passed_append.mpr ⟨Method.passed_header (by simp) _, ?_⟩
    refine passed_append.mpr ⟨Method.passed_name_cons p (by decide) (by decide) _, ?_⟩
    exact passed_append.mpr ⟨Method.passed_header (by simp) _, ih⟩

/-- No header begins in front of the methods. -/
lemma passed_front (b : Blueprint) (t : Text) :
    Passed Method.header? ("<?php\n\nnamespace ".toList ++ (b.scope.text ++ (";\n\n".toList ++
      (importText b.imports ++ ("\nclass ".toList ++ (b.name.text ++
        " extends Model\n\x7b\n".toList)))))) t := by
  have hstart : ∀ u, Passed Method.header? "<?php\n\nnamespace ".toList u := by
    intro u
    simp [Passed, Method.header?, after?]
  have hname : Passed Method.header? b.name.text (" extends Model\n\x7b\n".toList ++ t) := by
    refine Method.passed_name b.name.toName (fun c hc => ?_) ?_
    · obtain rfl : ' ' = c := by simpa using hc
      exact Name.isNameChar_of_delimiter (by decide)
    · change after? "function".toList ('e' :: ("xtends Model\n\x7b\n".toList ++ t)) = none
      simp [after?]
  refine passed_append.mpr ⟨hstart _, ?_⟩
  refine passed_append.mpr ⟨Method.passed_name_cons _ (by decide) (by decide) _, ?_⟩
  refine passed_append.mpr ⟨Method.passed_header (by simp) _, ?_⟩
  refine passed_append.mpr ⟨passed_importText _ _, ?_⟩
  refine passed_append.mpr ⟨Method.passed_header (by simp) _, ?_⟩
  exact passed_append.mpr ⟨hname, Method.passed_header (by simp) _⟩

/-- The relationships of a file that is written. -/
lemma relationships_render (b : Blueprint) (ended : Bool) :
    Relationship.ofText (b.render ended) = b.methods.flatMap fun m =>
      m.calls.map fun call => ⟨m.name.text, call.1, call.2.text⟩ := by
  have hparts : b.render ended = "<?php\n\nnamespace ".toList ++ (b.scope.text ++
      (";\n\n".toList ++ (importText b.imports ++ ("\nclass ".toList ++ (b.name.text ++
        " extends Model\n\x7b\n".toList))))) ++ (methodText b.methods ++ lastLine ended) := by
    rw [render_eq]
    unfold classText
    simp only [List.append_assoc]
    rfl
  have hmethods : Method.ofText (b.render ended) =
      Method.ofText (methodText b.methods ++ lastLine ended) := by
    rw [hparts]
    exact Reader.all_of_passed (Method.passed_reader (passed_front b _))
  have hlast : 'p' ∉ lastLine ended := by
    cases ended <;> simp [lastLine]
  rw [Relationship.ofText, Relationship.ofTextWith, hmethods, ← Relationship.ofTextWith]
  exact MethodPlan.relationships_methodText RelationKind.mem_all b.methods hlast

/-! ## The whole file -/

/-- A file that is written from a blueprint contributes what the blueprint says. -/
theorem ofFile_render (b : Blueprint) (ended : Bool) (path : Text) :
    Contribution.ofFile ⟨path, b.render ended⟩ = .ok (b.contribution path) := by
  have hedges : (Contribution.ofClass ⟨b.scope.text, b.name.text⟩ ⟨path, b.render ended⟩) =
      b.contribution path := by
    rw [Contribution.ofClass, contribution, relationships_render, List.map_flatMap]
    simp only [List.map_map, Function.comp_def, resolveTarget_render]
    rfl
  rw [Contribution.ofFile, identity_render, ← hedges]
  rfl

end RelationAtlas.Blueprint
