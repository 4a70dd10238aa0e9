import RelationAtlas.Text.Basic

/-!
# Ranges of code points

A class of characters is given by the ranges of its code points, in increasing order and without
overlap.  Looking a code up walks the ranges and stops at the first one that begins beyond it.
-/

namespace RelationAtlas

/-- Inclusive ranges of code points, in increasing order. -/
abbrev CodeRanges := List (Nat × Nat)

namespace CodeRanges

/-- Is the code in one of the ranges? -/
def contains : CodeRanges → Nat → Bool
  | [], _ => false
  | (lo, hi) :: ranges, n =>
    if n < lo then false else if n ≤ hi then true else contains ranges n

/-- A code that is found lies in one of the ranges. -/
theorem exists_of_contains {ranges : CodeRanges} {n : Nat} (h : contains ranges n = true) :
    ∃ r ∈ ranges, r.1 ≤ n ∧ n ≤ r.2 := by
  induction ranges with
  | nil => simp [contains] at h
  | cons r rs ih =>
    obtain ⟨lo, hi⟩ := r
    simp only [contains] at h
    split at h
    · simp at h
    · split at h
      · next hlo hhi => exact ⟨(lo, hi), by simp, by omega, hhi⟩
      · obtain ⟨r, hr, hle⟩ := ih h
        exact ⟨r, by simp [hr], hle⟩

end CodeRanges

end RelationAtlas
