import RelationAtlas.Proofs.Assoc
import RelationAtlas.Proofs.Source.Imports

/-!
# Import tables of joined files

Semicolons cut a file into statements, so the imports of a text that is cut at one are those in front
of it and those behind it (`pathsFrom_append`).  Behind a line end a line starts, as it does at the
front of a file, and so the imports of a file that stands behind a finished statement and a line end are
those that it has by itself (`paths_append`).

The table is made of the paths one after another.  What the later paths do to a table is what their own
table does (`foldl_add_eq_update`), and therefore tables compose over such a boundary
(`table_append`).
-/

namespace RelationAtlas

open Text

/-- The pieces of a text that is cut at one separator are those of both parts. -/
lemma Text.split_append_cons (sep : Char) (s t : Text) :
    split sep (s ++ sep :: t) = split sep s ++ split sep t := by
  induction s with
  | nil => simp [split]
  | cons c cs ih =>
    rw [List.cons_append, split, split, ih]
    split
    · rfl
    · cases hsplit : split sep cs with
      | nil => exact absurd hsplit (split_ne_nil sep cs)
      | cons piece pieces => rfl

namespace Import

/-! ## Paths -/

/-- The paths of a text that is cut at a semicolon. -/
lemma pathsFrom_append (lineStart : Bool) (s t : Text) :
    pathsFrom lineStart (s ++ ';' :: t) =
      pathsFrom lineStart (s ++ [';']) ++ pathsFrom false t := by
  have hpieces : ∀ u, (split ';' (s ++ ';' :: u)).dropLast =
      split ';' s ++ (split ';' u).dropLast := fun u => by
    rw [split_append_cons, List.dropLast_append_of_ne_nil (split_ne_nil ';' u)]
  rw [pathsFrom_false, pathsFrom, pathsFrom, hpieces, hpieces]
  cases hsplit : split ';' s with
  | nil => exact absurd hsplit (split_ne_nil ';' s)
  | cons piece pieces => simp [split]

/-- A text behind a finished statement and a line end has the paths that it has as a file. -/
lemma paths_append (s t : Text) :
    paths (s ++ ";\n".toList ++ t) = paths (s ++ ";\n".toList) ++ paths t := by
  have hfront : ∀ u, paths (s ++ ";\n".toList ++ u) =
      pathsFrom true (s ++ [';']) ++ pathsFrom true u := fun u => by
    rw [paths_eq, List.append_assoc]
    exact (pathsFrom_append true s ('\n' :: u)).trans (by rw [pathsFrom_newline])
  have hend := hfront []
  rw [paths_unfinished (s := []) List.not_mem_nil, List.append_nil, List.append_nil] at hend
  rw [hfront, hend, paths_eq t]

/-! ## Tables -/

/-- One more import puts its path in, unless it has no last segment. -/
lemma add_eq (table : ImportTable) (path : Text) :
    add table path =
      if Name.lastSegment path = [] then table else table.put (Name.lastSegment path) path := by
  rw [add]
  split
  · next h => rw [if_pos h]
  · next h => rw [if_neg h]

/-- The path is the last one of those with the given alias, which is not empty. -/
def IsLastWith (paths : List Text) (shortName path : Text) : Prop :=
  shortName ≠ [] ∧ Name.lastSegment path = shortName ∧
    ∃ front back, paths = front ++ path :: back ∧ ∀ q ∈ back, Name.lastSegment q ≠ shortName

/-- An alias is looked up among the later paths, and then among the earlier ones. -/
lemma get?_foldl_add_append (front back : List Text) (shortName : Text) :
    ((front ++ back).foldl add []).get? shortName =
      ((back.foldl add []).get? shortName).or ((front.foldl add []).get? shortName) := by
  rw [get?_foldl_add, get?_foldl_add, get?_foldl_add, List.filter_append, List.getLast?_append]

/-- One path has one alias. -/
lemma get?_foldl_add_singleton (path shortName : Text) :
    ([path].foldl add []).get? shortName =
      if Name.lastSegment path = shortName ∧ shortName ≠ [] then some path else none :=
  get?_add [] path shortName

/-- An alias finds nothing when no path has it, and an empty one never finds anything. -/
lemma get?_foldl_add_eq_none_iff {paths : List Text} {shortName : Text} :
    (paths.foldl add []).get? shortName = none ↔
      shortName = [] ∨ ∀ q ∈ paths, Name.lastSegment q ≠ shortName := by
  rw [get?_foldl_add, List.getLast?_eq_none_iff, List.filter_eq_nil_iff]
  by_cases h : shortName = [] <;> simp [h]

/-- An alias finds the last path that has it. -/
lemma get?_foldl_add_eq_some_iff {paths : List Text} {shortName path : Text} :
    (paths.foldl add []).get? shortName = some path ↔ IsLastWith paths shortName path := by
  constructor
  · intro h
    rw [get?_foldl_add, List.getLast?_eq_some_iff] at h
    obtain ⟨_, h⟩ := h
    obtain ⟨front, behind, rfl, -, h⟩ := List.filter_eq_append_iff.mp h
    obtain ⟨between, back, rfl, -, hpath, hback⟩ := List.filter_eq_cons_iff.mp h
    obtain ⟨hsegment, hne⟩ : Name.lastSegment path = shortName ∧ shortName ≠ [] := by
      simpa using hpath
    refine ⟨hne, hsegment, front ++ between, back, by simp, fun q hq heq => ?_⟩
    exact List.filter_eq_nil_iff.mp hback q hq (by simp [heq, hne])
  · rintro ⟨hne, hsegment, front, back, rfl, hback⟩
    have hnone := get?_foldl_add_eq_none_iff.mpr (Or.inr hback)
    rw [← List.singleton_append, get?_foldl_add_append, get?_foldl_add_append, hnone,
      get?_foldl_add_singleton, if_pos ⟨hsegment, hne⟩]
    rfl

/-- One more path defines its own alias, if no path behind it does, and no other one. -/
lemma get?_foldl_add_insert {path : Text} (hne : Name.lastSegment path ≠ [])
    (front back : List Text) (shortName : Text) :
    ((front ++ path :: back).foldl add []).get? shortName =
      if Name.lastSegment path = shortName ∧ ∀ q ∈ back, Name.lastSegment q ≠ shortName
      then some path
      else ((front ++ back).foldl add []).get? shortName := by
  rw [← List.singleton_append, get?_foldl_add_append, get?_foldl_add_append,
    get?_foldl_add_append, get?_foldl_add_singleton]
  by_cases hsegment : Name.lastSegment path = shortName
  · subst hsegment
    rw [if_pos ⟨rfl, hne⟩]
    split
    · next h => rw [get?_foldl_add_eq_none_iff.mpr (Or.inr h.2), Option.none_or, Option.some_or]
    · next h =>
      have hsome : (back.foldl add []).get? (Name.lastSegment path) ≠ none := fun hnone =>
        (get?_foldl_add_eq_none_iff.mp hnone).elim hne fun hback => h ⟨rfl, hback⟩
      obtain ⟨found, hfound⟩ := Option.ne_none_iff_exists'.mp hsome
      rw [hfound, Option.some_or, Option.some_or]
  · rw [if_neg fun h => hsegment h.1, if_neg fun h => hsegment h.1, Option.or_none]

/-- No alias is listed twice. -/
lemma nodup_keys_foldl_add {t : ImportTable} (ht : t.keys.Nodup) (paths : List Text) :
    (paths.foldl add t).keys.Nodup := by
  induction paths generalizing t with
  | nil => exact ht
  | cons path paths ih =>
    refine ih ?_
    rw [add_eq]
    split
    · exact ht
    · exact Assoc.nodup_keys_put ht _ _

lemma nodup_keys_ofPaths (paths : List Text) : (paths.foldl add []).keys.Nodup :=
  nodup_keys_foldl_add (t := []) List.nodup_nil paths

/-- More imports update a table with their own table. -/
lemma foldl_add_eq_update {t : ImportTable} (ht : t.keys.Nodup) (paths : List Text) :
    paths.foldl add t = t.update (paths.foldl add []) := by
  induction paths using List.reverseRecOn with
  | nil => rfl
  | append_singleton paths path ih =>
    rw [List.foldl_append, List.foldl_append, ih]
    simp only [List.foldl_cons, List.foldl_nil, add_eq]
    split
    · rfl
    · rw [Assoc.update_put ht (nodup_keys_ofPaths paths)]

/-- The table of a text behind a finished statement and a line end updates the table of what stands in
front of it: an alias that was there keeps its place and takes the new path, and new aliases follow in
their order. -/
theorem table_append (s t : Text) :
    let front := table (s ++ ";\n".toList)
    let whole := table (s ++ ";\n".toList ++ t)
    whole = front.update (table t) ∧
    whole.keys = front.keys ++ (table t).keys.filter (· ∉ front.keys) ∧
    ∀ shortName, whole.get? shortName = ((table t).get? shortName).or (front.get? shortName) := by
  intro front whole
  have hupdate : whole = front.update (table t) := by
    change (paths _).foldl add [] = _
    rw [paths_append, List.foldl_append]
    exact foldl_add_eq_update (nodup_keys_ofPaths _) (paths t)
  have ht : (table t).keys.Nodup := nodup_keys_ofPaths (paths t)
  rw [hupdate]
  refine ⟨rfl, ?_, front.get?_update ht⟩
  -- Here texts are compared as lists, and as keys of a map there.
  convert front.keys_update ht

end Import

end RelationAtlas
