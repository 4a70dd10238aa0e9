import RelationAtlas.Proofs.Source.Identity
import RelationAtlas.Proofs.Source.ImportTables
import RelationAtlas.Proofs.Source.InsertedLines
import RelationAtlas.Proofs.Source.RoundTrip

/-!
# Imports that are put between statements

Imports that are put behind a finished statement change nothing but the import table of a file.  Its
class stays the same (`Declaration.identity_insert`): no declaration is read in the line of an import,
one may begin behind the line as it may in front of it, and a finished statement is sealed for the
readers of declarations.  Its relationships stay the same because imports are idle
(`Blueprint.isIdle_importText`).  The imported paths come in at their place among the others
(`Import.paths_insert`), and so the targets that one more import decides are those that have its alias,
are not rooted, and are not imported again behind it (`resolveTarget_insert`).
-/

namespace RelationAtlas

open Text

/-! ## The class -/

/-- There is no semicolon in a namespace declaration but the one that ends it. -/
lemma NamespaceClause.exists_text_eq (d : NamespaceClause) :
    ∃ front, d.text = front ++ [';'] ∧ ';' ∉ front := by
  have hindent : ';' ∉ d.indent.text := fun h => absurd (d.indent.isIndent ';' h) (by decide)
  have hblank : ∀ s : Blanks, ';' ∉ s.text := fun s h => absurd (s.isBlank ';' h) (by decide)
  have hname : ';' ∉ d.name.text := d.name.notMem (by decide)
  refine ⟨d.indent.text ++ ("namespace".toList ++ (d.gap.text ++ (d.name.text ++ d.space.text))),
    by simp [text], ?_⟩
  simp [hindent, hblank, hname]

/-- There is no semicolon in a class declaration. -/
lemma ClassClause.semicolon_notMem_text (d : ClassClause) : ';' ∉ d.text := by
  have hindent : ';' ∉ d.indent.text := fun h => absurd (d.indent.isIndent ';' h) (by decide)
  have hblank : ∀ s : Blanks, ';' ∉ s.text := fun s h => absurd (s.isBlank ';' h) (by decide)
  have hname : ';' ∉ d.name.text := d.name.toName.notMem (by decide)
  have hmodifier : ∀ m ∈ Declaration.modifiers, ';' ∉ m := by decide
  have hmodifiers : ';' ∉ modifierText d.modifiers := fun h => by
    obtain ⟨m, hm, hmem⟩ := List.mem_flatMap.mp h
    simp [hmodifier m.1 (d.mem_modifiers m hm), hblank] at hmem
  simp [text, hindent, hblank, hname, hmodifiers]

namespace Declaration

/-- In front of a semicolon, a namespace declaration is read that ends there or in front of it. -/
lemma readNamespace?_append_semicolon (u v : Text) :
    readNamespace? (u ++ ';' :: v) =
      (readNamespace? (u ++ [';'])).map fun found => (found.1, found.2 ++ v) := by
  refine Option.ext fun found => ?_
  obtain ⟨name, rest⟩ := found
  rw [Option.map_eq_some_iff, readNamespace?_eq_some_iff]
  constructor
  · rintro ⟨d, rfl, htext⟩
    obtain ⟨front, hfront, hsemicolon⟩ := d.exists_text_eq
    rw [hfront, List.append_assoc] at htext
    obtain ⟨b, rfl⟩ := exists_append_of_notMem htext.symm hsemicolon
    -- The declaration ends at the given semicolon, or at one in front of it.
    rw [List.append_assoc, List.append_cancel_left_eq] at htext
    cases b with
    | nil =>
      obtain ⟨-, rfl⟩ := List.cons.inj htext
      exact ⟨(d.name.text, []), readNamespace?_eq_some_iff.mpr ⟨d, rfl, by simp [hfront]⟩, rfl⟩
    | cons c b =>
      obtain ⟨rfl, rfl⟩ := List.cons.inj htext
      exact ⟨(d.name.text, b ++ [';']),
        readNamespace?_eq_some_iff.mpr ⟨d, rfl, by simp [hfront]⟩, by simp⟩
  · rintro ⟨⟨name', rest'⟩, hread, heq⟩
    obtain ⟨d, rfl, htext⟩ := readNamespace?_eq_some_iff.mp hread
    simp only [Prod.mk.injEq] at heq
    obtain ⟨rfl, rfl⟩ := heq
    refine ⟨d, rfl, ?_⟩
    rw [← List.append_assoc, ← htext]
    simp

/-- A text that ends with a semicolon and a line end is sealed for the reader of namespaces. -/
lemma sealed_readNamespace (s : Text) : Sealed readNamespace? (s ++ ";\n".toList) := by
  have hend : Sealed readNamespace? ['\n'] :=
    sealed_of_passed fun v => ⟨readNamespace?_eq_none (by decide) (by decide) v, trivial⟩
  refine sealed_append_cons (c := ';') hend (fun u v => ?_) s
  rw [readNamespace?_append_semicolon, readNamespace?_append_semicolon u ['\n'], Option.map_map]
  simp [Function.comp_def]

/-- In front of a semicolon, a class declaration is read as it is without. -/
lemma readClass?_append_semicolon (u v : Text) :
    readClass? (u ++ ';' :: v) =
      (readClass? u).map fun found => (found.1, found.2 ++ ';' :: v) := by
  let Writes : Text → Text → Text → Prop := fun name part rest =>
    (∃ d : ClassClause, d.name.text = name ∧ d.text = part) ∧ ∀ c ∈ rest.head?, isWord c = false
  refine read?_append_cons Writes ?_ ?_ ?_ u v
  · intro t name rest
    rw [readClass?_eq_some_iff]
    constructor
    · rintro ⟨⟨d, hname, rfl⟩, hrest⟩
      exact ⟨d.text, ⟨⟨d, hname, rfl⟩, hrest⟩, rfl⟩
    · rintro ⟨_, ⟨⟨d, hname, rfl⟩, hrest⟩, rfl⟩
      exact ⟨⟨d, hname, rfl⟩, hrest⟩
  · rintro name _ rest ⟨⟨d, -, rfl⟩, -⟩
    exact d.semicolon_notMem_text
  · intro name part b v
    have hsemicolon : isWord ';' = false := Name.isWord_of_delimiter (by decide)
    cases b with
    | nil => simp [Writes, hsemicolon]
    | cons c cs => simp [Writes]

/-- A text that ends with a semicolon and a line end is sealed for the reader of classes. -/
lemma sealed_readClass (s : Text) : Sealed readClass? (s ++ ";\n".toList) := by
  have hend : Sealed readClass? ['\n'] := sealed_of_passed fun v =>
    ⟨readClass?_eq_none (by decide) (by simp [modifiers, after?]), trivial⟩
  refine sealed_append_cons (c := ';') hend (fun u v => ?_) s
  rw [readClass?_append_semicolon, readClass?_append_semicolon, Option.map_map]
  simp [Function.comp_def]

/-- What opens a declaration is told by the nearest character, but for the opening tag. -/
lemma opensDeclaration_cons (c : Char) (cs : Text) : opensDeclaration (c :: cs) =
    (c == '\n' || c == ';' || (after? "php?<".toList (c :: cs)).isSome) := by
  unfold opensDeclaration
  split
  · next h => cases h
  · next h =>
    obtain ⟨rfl, -⟩ := List.cons.inj h
    rfl
  · next h =>
    obtain ⟨rfl, -⟩ := List.cons.inj h
    rfl
  · next h =>
    obtain ⟨rfl, rfl⟩ := List.cons.inj h
    rfl
  · next hline hsemicolon htag =>
    have hnone : after? "php?<".toList (c :: cs) = none := by
      cases hafter : after? "php?<".toList (c :: cs) with
      | none => rfl
      | some rest => exact (htag rest (after?_eq_some_iff.mp hafter)).elim
    have hnewline : c ≠ '\n' := fun h => hline cs (by rw [h])
    have hend : c ≠ ';' := fun h => hsemicolon cs (by rw [h])
    rw [hnone, beq_false_of_ne hnewline, beq_false_of_ne hend]
    rfl

/-- Behind a semicolon or a line end it does not matter what stands before it. -/
lemma opensDeclaration_append_cons {c : Char} (hc : c ∈ [';', '\n']) (u before : Text) :
    opensDeclaration (u ++ c :: before) = opensDeclaration (u ++ ['\n']) := by
  cases u with
  | nil => rcases List.mem_pair.mp hc with rfl | rfl <;> rfl
  | cons d ds =>
    have htag : c ∉ "php?<".toList := by rcases List.mem_pair.mp hc with rfl | rfl <;> decide
    rw [List.cons_append, List.cons_append, opensDeclaration_cons, opensDeclaration_cons,
      ← List.cons_append, ← List.cons_append, after?_append_cons htag,
      after?_append_cons (by decide), Option.isSome_map, Option.isSome_map]

section Search

variable {α : Type} {read? : Text → Option (α × Text)}

lemma first?_behind {c : Char} (hc : c ∈ [';', '\n']) (u before t : Text) :
    first? read? (u ++ c :: before) t = first? read? (u ++ ['\n']) t := by
  induction t generalizing u with
  | nil => rfl
  | cons d t ih =>
    rw [first?, first?, opensDeclaration_append_cons hc u before, ← List.cons_append, ih,
      List.cons_append]

/-- The search in a sealed text goes on in what follows when nothing is found. -/
lemma first?_append_of_sealed {t : Text} (ht : Sealed read? t) (before v : Text) :
    first? read? before (t ++ v) = ((first? read? before t).map fun found =>
      (found.1, found.2 ++ v)).or (first? read? (t.reverse ++ before) v) := by
  induction t generalizing before with
  | nil => rfl
  | cons c t ih =>
    have hnext := ih (ht.of_suffix (List.suffix_cons c t)) (c :: before)
    have hfront := ht _ List.suffix_rfl (by simp) v
    rw [List.cons_append] at hfront ⊢
    rw [first?, first?, hfront]
    cases opensDeclaration before with
    | false => simpa using hnext
    | true =>
      cases hread : read? (c :: t) with
      | none => simpa [hread] using hnext
      | some found => simp

/-- The search behind a sealed text that ends where a declaration may begin. -/
lemma first?_behind_sealed {t : Text} (ht : Sealed read? t) {before : Text}
    (hend : ∃ c ∈ [';', '\n'], ∃ cs, t.reverse ++ before = c :: cs) (v : Text) :
    first? read? before (t ++ v) = ((first? read? before t).map fun found =>
      (found.1, found.2 ++ v)).or (first? read? ['\n'] v) := by
  obtain ⟨c, hc, cs, heq⟩ := hend
  rw [first?_append_of_sealed ht, heq]
  exact congrArg _ (first?_behind hc [] cs v)

end Search

open Blueprint (importText importLine importSigns)

/-- No namespace is declared at the signs of an import. -/
lemma readNamespace?_importSign {c : Char} (hc : c ∈ importSigns) (t : Text) :
    readNamespace? (c :: t) = none := by
  simp only [importSigns, List.mem_cons, List.not_mem_nil, or_false] at hc
  rcases hc with rfl | rfl | rfl
  all_goals exact readNamespace?_eq_none (by decide) (by decide) t

/-- At the start of a line, the search goes on behind imports as if they were not there. -/
lemma first?_importText {read? : Text → Option (Text × Text)}
    (hsign : ∀ c ∈ importSigns, ∀ t, read? (c :: t) = none) (imports : List SpelledName)
    (t : Text) : first? read? ['\n'] (importText imports ++ t) = first? read? ['\n'] t := by
  rw [Blueprint.first?_imports hsign]
  -- Behind the imports a line starts, too.
  rcases List.eq_nil_or_concat' imports with rfl | ⟨imports, last, rfl⟩
  · rfl
  · have hend : (importText (imports ++ [last])).reverse ++ ['\n'] =
        [] ++ '\n' :: ((importText imports ++ importLine last).reverse ++ ['\n']) := by
      simp [importText]
    rw [hend]
    exact first?_behind (by decide) [] _ t

/-- Imports behind a finished statement do not change the class of the file. -/
theorem identity_insert (s t : Text) (imports : List SpelledName) :
    identity (s ++ ";\n".toList ++ (importText imports ++ t)) =
      identity (s ++ ";\n".toList ++ t) := by
  have hscope : ∀ v, first? readNamespace? [] (s ++ ";\n".toList ++ v) =
      ((first? readNamespace? [] (s ++ ";\n".toList)).map fun found =>
        (found.1, found.2 ++ v)).or (first? readNamespace? ['\n'] v) :=
    first?_behind_sealed (sealed_readNamespace s) ⟨'\n', by decide, ';' :: s.reverse, by simp⟩
  have hspec := first?_readNamespace? (s ++ ";\n".toList)
  rw [identity, identity, hscope, hscope, first?_importText fun _ => readNamespace?_importSign]
  cases hfirst : first? readNamespace? [] (s ++ ";\n".toList) with
  | none => rfl
  | some found =>
    obtain ⟨scope, rest⟩ := found
    rw [hfirst] at hspec
    obtain ⟨-, before, -, -, htext, -⟩ := hspec
    -- The class is looked for behind the namespace, in a part of the text that is sealed, too.
    have hrest : rest <:+ s ++ ";\n".toList :=
      ⟨before ++ [';'], by rw [htext, List.append_assoc]; rfl⟩
    have hend : ∃ c ∈ [';', '\n'], ∃ cs, rest.reverse ++ [';'] = c :: cs := by
      rcases List.eq_nil_or_concat' rest with rfl | ⟨cs, c, rfl⟩
      · exact ⟨';', by decide, [], rfl⟩
      · have htext' : s ++ [';'] ++ ['\n'] = before ++ ';' :: cs ++ [c] := by simpa using htext
        obtain ⟨-, hlast⟩ := List.append_inj' htext' rfl
        obtain rfl : '\n' = c := List.singleton_inj.mp hlast
        exact ⟨'\n', by decide, cs.reverse ++ [';'], by simp⟩
    have hclass : ∀ v, first? readClass? [';'] (rest ++ v) =
        ((first? readClass? [';'] rest).map fun found =>
          (found.1, found.2 ++ v)).or (first? readClass? ['\n'] v) :=
      first?_behind_sealed ((sealed_readClass s).of_suffix hrest) hend
    simp only [Option.map_some, Option.some_or]
    rw [hclass, hclass, first?_importText fun _ => Blueprint.readClass?_importSign]
    cases first? readClass? [';'] rest <;> rfl

end Declaration

/-! ## Relationships -/

namespace Blueprint

/-- The characters of imports are those of names, and a few others. -/
lemma mem_importText {imports : List SpelledName} {c : Char} (h : c ∈ importText imports) :
    c ∈ "use ;\n".toList ∨ Name.isNameChar c = true := by
  obtain ⟨line, hline, hc⟩ := List.mem_flatMap.mp h
  obtain ⟨path, -, rfl⟩ := List.mem_map.mp hline
  unfold importLine at hc
  simp only [List.mem_append] at hc
  rcases hc with ((huse | hname) | hsemicolon) | hnewline
  · exact .inl (List.mem_append_left ";\n".toList huse)
  · exact .inr (path.isNameChar c hname)
  · obtain rfl : c = ';' := List.mem_singleton.mp hsemicolon
    exact .inl (by decide)
  · obtain rfl : c = '\n' := List.mem_singleton.mp hnewline
    exact .inl (by decide)

/-- Imports open and close nothing, and nothing is declared in them. -/
lemma isIdle_importText (imports : List SpelledName) : Method.IsIdle (importText imports) where
  notMem_marks c hc hmark := by
    have hmarks : Body.marks.any Name.isNameChar = false := by decide +kernel
    have hsigns : Body.marks.any ("use ;\n".toList.contains ·) = false := by decide
    rcases mem_importText hc with hsign | hname
    · exact List.any_eq_false.mp hsigns c hmark (List.contains_iff_mem.mpr hsign)
    · exact List.any_eq_false.mp hmarks c hmark hname
  getLast?_ne := by
    rcases List.eq_nil_or_concat' imports with rfl | ⟨imports, last, rfl⟩
    · simp [importText]
    · simp [importText]
  notMem_hyphen hc := by
    have hhyphen : '-' ∉ "use ;\n".toList ∧ Name.isNameChar '-' = false := by decide +kernel
    rcases mem_importText hc with hsign | hname
    · exact hhyphen.1 hsign
    · exact absurd hname (by simp [hhyphen.2])
  passed := passed_importText imports

end Blueprint

/-! ## Imported paths -/

namespace Import

/-- Imports behind a finished statement come in at their place. -/
lemma paths_insert (s t : Text) (imports : List SpelledName) :
    paths (s ++ ";\n".toList ++ (Blueprint.importText imports ++ t)) =
      paths (s ++ ";\n".toList) ++ (imports.map SpelledName.text ++ paths t) := by
  rw [paths_append, paths_eq (_ ++ t), Blueprint.pathsFrom_imports, ← paths_eq]

/-- Does an import with the given alias decide what a target is, when the given text stands behind it?
It does unless the target is rooted, has another last segment, or is imported again behind it. -/
def Decides (shortName behind raw : Text) : Prop :=
  raw.head? ≠ some Name.separator ∧ Name.lastSegment raw = shortName ∧
    ∀ q ∈ paths behind, Name.lastSegment q ≠ shortName

instance (shortName behind raw : Text) : Decidable (Decides shortName behind raw) :=
  inferInstanceAs (Decidable (_ ∧ _ ∧ _))

end Import

/-- With one more import, a target stands for what is imported if the import decides it, and otherwise
for what it stands for without. -/
lemma resolveTarget_insert {p : SpelledName} (hne : Name.lastSegment p.text ≠ []) (s t : Text)
    (raw scope : Text) :
    resolveTarget raw scope
        (Import.table (s ++ ";\n".toList ++ (Blueprint.importText [p] ++ t))) =
      if Import.Decides (Name.lastSegment p.text) t raw then p.text
      else resolveTarget raw scope (Import.table (s ++ ";\n".toList ++ t)) := by
  rw [Import.table, Import.table, Import.paths_insert, Import.paths_append, resolveTarget_eq,
    resolveTarget_eq, List.map_singleton, List.singleton_append, Import.get?_foldl_add_insert hne]
  by_cases hroot : raw.head? = some Name.separator
  · rw [if_pos hroot, if_pos hroot, if_neg fun h => h.1 hroot]
  rw [if_neg hroot, if_neg hroot]
  by_cases hdecides : Import.Decides (Name.lastSegment p.text) t raw
  · obtain ⟨-, hsegment, hbehind⟩ := hdecides
    rw [if_pos ⟨hsegment.symm, hsegment ▸ hbehind⟩, if_pos ⟨hroot, hsegment, hbehind⟩,
      Option.getD_some]
  · rw [if_neg hdecides, if_neg]
    rintro ⟨hsegment, hbehind⟩
    exact hdecides ⟨hroot, hsegment.symm, hsegment ▸ hbehind⟩

end RelationAtlas
