import Mathlib.Tactic.Lemma
import RelationAtlas.Tree.Basic

/-!
# What is listed in a directory

A tree keeps its entries in one list, and what is in a directory or below it is read off that list.
Here these listings are told by what is at a location (`mem_namesIn`, `mem_directoriesBelow`).
-/

namespace RelationAtlas.FileTree

variable {t : FileTree}

/-- Below the root, what is there is one of the entries. -/
lemma mem_keys_iff {l : Location} (hl : l ≠ []) : l ∈ t.entries.keys ↔ (t.get? l).isSome := by
  rw [Assoc.mem_keys_iff, get?, lookup, if_neg hl]

/-- A name is listed in a directory when something is there. -/
lemma mem_namesIn {l : Location} {name : Text} :
    name ∈ t.namesIn l ↔ (t.get? (l ++ [name])).isSome := by
  rw [← mem_keys_iff (by simp), namesIn, List.mem_filterMap]
  constructor
  · rintro ⟨k, hk, hname⟩
    split at hname
    · next hl =>
      obtain ⟨m, rfl⟩ := List.getLast?_eq_some_iff.mp hname
      rw [List.dropLast_concat] at hl
      rwa [← hl]
    · cases hname
  · intro hmem
    exact ⟨l ++ [name], hmem, by simp⟩

/-- What follows a location is the rest of the other one. -/
lemma relativeTo?_eq_some_iff {l k m : Location} : relativeTo? l k = some m ↔ k = l ++ m := by
  induction l generalizing k with
  | nil => simp [relativeTo?, eq_comm]
  | cons name l ih =>
    cases k with
    | nil => simp [relativeTo?]
    | cons name' k =>
      rw [relativeTo?]
      split
      · next h => simp [h, ih]
      · next h => simp [Ne.symm h]

/-- The directories at and below a directory. -/
lemma mem_directoriesBelow {l m : Location} (hl : t.get? l = some .directory) :
    m ∈ t.directoriesBelow l ↔ t.get? (l ++ m) = some .directory := by
  cases m with
  | nil => simp [directoriesBelow, hl]
  | cons name m =>
    rw [directoriesBelow, List.mem_cons, List.mem_filterMap]
    constructor
    · rintro (h | ⟨k, -, h⟩)
      · cases h
      · split at h
        · next name' rest hrelative =>
          split at h
          · next hdir =>
            cases h
            rwa [← relativeTo?_eq_some_iff.mp hrelative]
          · cases h
        · cases h
    · intro hdir
      have hmem : l ++ name :: m ∈ t.entries.keys :=
        (mem_keys_iff (by simp)).mpr (by rw [hdir]; rfl)
      have hrelative : relativeTo? l (l ++ name :: m) = some (name :: m) :=
        relativeTo?_eq_some_iff.mpr rfl
      refine Or.inr ⟨l ++ name :: m, hmem, ?_⟩
      simp only [hrelative]
      rw [if_pos hdir]

end RelationAtlas.FileTree
