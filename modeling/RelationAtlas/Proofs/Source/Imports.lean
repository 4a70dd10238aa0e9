import Mathlib.Data.List.Induction
import RelationAtlas.Proofs.Text.Runs
import RelationAtlas.Source.Import

/-!
# Imports, statement by statement

The imports of a file are read from its statements.  Here the statements are taken off one after
another: `paths_statement` says what the first one adds, and a part of a file in which no line begins
with the word that introduces an import (`HoldsNoImport`) adds nothing (`paths_eq_nil`).

The table that is made of the paths finds, for an alias, the last path that has it as its last segment
(`get?_foldl_add`).
-/

namespace RelationAtlas.Import

open Text

/-! ## Paths -/

/-- The paths that are imported by a text, of which `lineStart` says whether it starts a line. -/
def pathsFrom (lineStart : Bool) (t : Text) : List Text :=
  match (split ';' t).dropLast with
  | [] => []
  | s :: rest => (statementPath? lineStart s).toList ++ rest.filterMap (statementPath? false)

/-- A file starts a line. -/
lemma paths_eq (t : Text) : paths t = pathsFrom true t := by
  rw [paths, pathsFrom, statements]
  cases (split ';' t).dropLast with
  | nil => rfl
  | cons s rest =>
    rw [List.filterMap_cons, List.filterMap_map]
    cases h : statementPath? true s with
    | none => simp only [h]; rfl
    | some path => simp only [h]; rfl

/-- Inside a line all statements are alike. -/
lemma pathsFrom_false (t : Text) :
    pathsFrom false t = (split ';' t).dropLast.filterMap (statementPath? false) := by
  rw [pathsFrom]
  cases (split ';' t).dropLast with
  | nil => rfl
  | cons s rest =>
    rw [List.filterMap_cons]
    cases h : statementPath? false s <;> simp [h]

/-- A statement that is not finished imports nothing. -/
lemma paths_unfinished {s : Text} (h : ';' ∉ s) (lineStart : Bool) : pathsFrom lineStart s = [] := by
  rw [pathsFrom, split_of_notMem h]
  rfl

/-- The first statement is followed by the others. -/
lemma paths_statement {s : Text} (h : ';' ∉ s) (lineStart : Bool) (t : Text) :
    pathsFrom lineStart (s ++ ';' :: t) =
      (statementPath? lineStart s).toList ++ pathsFrom false t := by
  rw [pathsFrom_false, pathsFrom, split_append h, List.dropLast_cons_of_ne_nil (split_ne_nil _ _)]

/-- An import at a line start is read. -/
lemma statementPath?_of_path? {s path : Text} (h : path? s = some path) :
    statementPath? true s = some path := by
  cases s with
  | nil => simp [path?, after?] at h
  | cons c cs => rw [statementPath?, if_pos rfl, h]

/-- Behind a line end a line starts. -/
lemma statementPath?_newline (lineStart : Bool) (s : Text) :
    statementPath? lineStart ('\n' :: s) = statementPath? true s := by
  rw [statementPath?]
  cases lineStart with
  | false => rfl
  | true =>
    rw [if_pos rfl]
    -- A line end is a blank, so what is imported behind it is also imported with it.
    cases h : path? ('\n' :: s) with
    | none => rfl
    | some path =>
      have hs : path? s = some path := by
        rwa [path?, dropBlanks_cons_of_isBlank (by decide)] at h
      rw [statementPath?_of_path? hs]

/-- A line end at the front starts a line. -/
lemma pathsFrom_newline (lineStart : Bool) (t : Text) :
    pathsFrom lineStart ('\n' :: t) = pathsFrom true t := by
  rw [pathsFrom, pathsFrom, split, if_neg (by decide)]
  cases hsplit : split ';' t with
  | nil => exact absurd hsplit (split_ne_nil _ _)
  | cons s pieces =>
    cases pieces with
    | nil => rfl
    | cons _ _ => simp only [List.dropLast_cons_cons, statementPath?_newline]

/-! ## Texts without imports -/

/-- No line of the text begins with the word that introduces imports; `lineStart` says whether the
text starts a line. -/
def HoldsNoImport : Bool → Text → Prop
  | _, [] => True
  | lineStart, c :: cs =>
    (lineStart = true → after? "use".toList (dropBlanks (c :: cs)) = none) ∧
      HoldsNoImport (c = '\n') cs

/-- Inside a line nothing is introduced. -/
lemma holdsNoImport_append {u t : Text} (hu : '\n' ∉ u) (h : HoldsNoImport false t) :
    HoldsNoImport false (u ++ t) := by
  induction u with
  | nil => exact h
  | cons c cs ih =>
    obtain ⟨hc, hcs⟩ := List.ne_and_not_mem_of_not_mem_cons hu
    refine ⟨by simp, ?_⟩
    rw [decide_eq_false (Ne.symm hc)]
    exact ih hcs

/-- A line that does not begin with an import stands in front of lines that do not. -/
lemma holdsNoImport_line {u t : Text} (hu : '\n' ∉ u)
    (hfirst : after? "use".toList (dropBlanks (u ++ '\n' :: t)) = none)
    (h : HoldsNoImport true t) : HoldsNoImport true (u ++ '\n' :: t) := by
  cases u with
  | nil => exact ⟨fun _ => hfirst, h⟩
  | cons c cs =>
    obtain ⟨hc, hcs⟩ := List.ne_and_not_mem_of_not_mem_cons hu
    refine ⟨fun _ => hfirst, ?_⟩
    rw [decide_eq_false (Ne.symm hc)]
    exact holdsNoImport_append hcs ⟨by simp, h⟩

/-- A line that does not begin with an import, whatever follows it. -/
def IsOtherLine (line : Text) : Prop :=
  '\n' ∉ line ∧ ∀ t, after? "use".toList (dropBlanks (line ++ t)) = none

/-- An import begins with its word, which blanks may stand in front of. -/
lemma isOtherLine_of_head? {line : Text} {c : Char} (hnewline : '\n' ∉ line)
    (hhead : (dropBlanks line).head? = some c) (hc : c ≠ 'u') : IsOtherLine line := by
  refine ⟨hnewline, fun t => ?_⟩
  obtain ⟨cs, hcs⟩ := List.head?_eq_some_iff.mp hhead
  have hrest : dropBlanks (line ++ t) = c :: cs ++ t := by
    rw [dropBlanks, List.dropWhile_append, ← dropBlanks, hcs]
    rfl
  rw [hrest, List.cons_append]
  simp [after?, hc.symm]

/-- The text behind the end of such a line decides whether there are more imports. -/
lemma IsOtherLine.holdsNoImport {line t : Text} (h : IsOtherLine line)
    (ht : HoldsNoImport true t) : HoldsNoImport true (line ++ '\n' :: t) :=
  holdsNoImport_line h.1 (h.2 _) ht

/-- Lines that do not begin with an import hold none. -/
lemma holdsNoImport_lines {lines : List Text} {t : Text} (h : ∀ line ∈ lines, IsOtherLine line)
    (ht : HoldsNoImport true t) : HoldsNoImport true (lines.flatMap (· ++ ['\n']) ++ t) := by
  induction lines with
  | nil => exact ht
  | cons line lines ih =>
    have hrest := ih fun u hu => h u (by simp [hu])
    have heq : (line :: lines).flatMap (· ++ ['\n']) ++ t =
        line ++ '\n' :: (lines.flatMap (· ++ ['\n']) ++ t) := by
      simp
    rw [heq]
    exact (h line (by simp)).holdsNoImport hrest

/-- What is imported by the front of a text is introduced in the text. -/
lemma path?_eq_none {s t : Text} (h : after? "use".toList (dropBlanks (s ++ t)) = none) :
    path? s = none := by
  -- If the front is not blank throughout, its blanks are those of the text.
  rw [path?]
  split
  · next b c cs hafter =>
    have huse := after?_eq_some_iff.mp hafter
    have hsplit : s = s.takeWhile isBlank ++ ("use".toList ++ b :: c :: cs) := by
      rw [← huse]
      exact (List.takeWhile_append_dropWhile (p := isBlank)).symm
    have hblank : dropBlanks (s ++ t) = "use".toList ++ (b :: c :: cs ++ t) := by
      rw [hsplit, List.append_assoc, dropBlanks,
        List.dropWhile_append_of_pos (List.all_eq_true.mp List.all_takeWhile), List.append_assoc]
      exact dropBlanks_cons_of_not (by decide) _
    rw [hblank, after?_append] at h
    cases h
  · rfl

/-- The first statement of a text without imports imports nothing, and neither does what follows. -/
lemma HoldsNoImport.statement {lineStart : Bool} {s t : Text}
    (h : HoldsNoImport lineStart (s ++ ';' :: t)) :
    statementPath? lineStart s = none ∧ HoldsNoImport false t := by
  induction s generalizing lineStart with
  | nil => exact ⟨rfl, h.2⟩
  | cons c cs ih =>
    obtain ⟨hfirst, hrest⟩ := h
    obtain ⟨hnone, ht⟩ := ih hrest
    refine ⟨?_, ht⟩
    rw [statementPath?, hnone]
    cases lineStart with
    | false => rfl
    | true =>
      rw [if_pos rfl, path?_eq_none (t := ';' :: t) (hfirst rfl)]

/-- Nothing is imported by a text in which no line begins with an import. -/
lemma paths_eq_nil {lineStart : Bool} {t : Text} (h : HoldsNoImport lineStart t) :
    pathsFrom lineStart t = [] := by
  induction hn : t.length using Nat.strongRecOn generalizing lineStart t with
  | _ n ih =>
    subst hn
    by_cases hmem : ';' ∈ t
    · obtain ⟨s, rest, rfl, hs⟩ := List.eq_append_cons_of_mem hmem
      obtain ⟨hnone, hrest⟩ := h.statement
      rw [paths_statement hs, hnone, ih _ (by simp; omega) hrest rfl]
      rfl
    · exact paths_unfinished hmem lineStart

/-! ## The table -/

/-- What the table finds after one more import. -/
lemma get?_add (table : ImportTable) (path shortName : Text) :
    (add table path).get? shortName =
      if Name.lastSegment path = shortName ∧ shortName ≠ [] then some path
      else table.get? shortName := by
  rw [add]
  split
  · next h => simp [h]
  · next h =>
    rw [Assoc.get?_put]
    by_cases heq : Name.lastSegment path = shortName
    · subst heq
      rw [if_pos rfl, if_pos ⟨rfl, h⟩]
    · rw [if_neg heq, if_neg fun hand => heq hand.1]

/-- The table of a list of paths finds the last path with the alias as its last segment. -/
lemma get?_foldl_add (paths : List Text) (shortName : Text) :
    (paths.foldl add []).get? shortName =
      (paths.filter fun path => Name.lastSegment path = shortName ∧ shortName ≠ []).getLast? := by
  induction paths using List.reverseRecOn with
  | nil => rfl
  | append_singleton paths path ih =>
    rw [List.foldl_append, List.foldl_cons, List.foldl_nil, get?_add, ih, List.filter_append]
    by_cases h : Name.lastSegment path = shortName ∧ shortName ≠ []
    · rw [if_pos h, List.filter_cons_of_pos (by simpa using h), List.filter_nil]
      simp
    · rw [if_neg h, List.filter_cons_of_neg (by simpa using h), List.filter_nil, List.append_nil]

end RelationAtlas.Import
