import Mathlib.Data.List.Basic
import RelationAtlas.Text.Lines

/-!
# Line ends and replacing

Unifying line ends is replacing twice: first every carriage return and line feed that stand side by
side, then every carriage return that is left (`unifyLineEnds_eq_replace`).  A text without carriage
returns is what is read of it with any of the three line ends (`unifyLineEnds_replace`).
-/

namespace RelationAtlas.Text

/-- Replaces `old` by `new` from the left to the right; the first characters are skipped, for they
belong to a place that has been replaced. -/
def replaceFrom (old new : Text) : Nat → Text → Text
  | _, [] => []
  | skip + 1, _ :: cs => replaceFrom old new skip cs
  | 0, c :: cs =>
    if old.isPrefixOf (c :: cs) then new ++ replaceFrom old new (old.length - 1) cs
    else c :: replaceFrom old new 0 cs

/-- The text with every `old` in it replaced by `new`. -/
def replace (old new t : Text) : Text := replaceFrom old new 0 t

/-- A line feed alone. -/
def lf : Text := ['\n']

/-- A carriage return and a line feed. -/
def crlf : Text := ['\r', '\n']

/-- A carriage return alone. -/
def cr : Text := ['\r']

/-- Replacing a single character goes through the text character by character. -/
lemma replace_singleton (o : Char) (new t : Text) :
    replace [o] new t = t.flatMap fun c => if c = o then new else [c] := by
  induction t with
  | nil => rfl
  | cons c t ih =>
    rw [replace] at ih ⊢
    rw [replaceFrom, List.flatMap_cons]
    by_cases hc : c = o
    · simp [hc, ih]
    · simp [hc, Ne.symm hc, ih]

/-- Line ends are unified by replacing the pairs and then the carriage returns that are left. -/
lemma unifyLineEnds_eq_replace (t : Text) :
    unifyLineEnds t = replace cr lf (replace crlf lf t) := by
  rw [cr, replace_singleton, replace]
  fun_induction unifyLineEnds t with
  | case1 => rfl
  | case2 cs ih =>
    rw [ih]
    rfl
  | case3 c cs hne ih =>
    have hpair : crlf.isPrefixOf (c :: cs) = false := by
      cases cs with
      | nil => simp [crlf, List.isPrefixOf]
      | cons d cs =>
        refine Bool.eq_false_iff.mpr fun hfront => ?_
        simp only [crlf, List.isPrefixOf, Bool.and_true, Bool.and_eq_true, beq_iff_eq] at hfront
        exact hne cs hfront.1.symm (by rw [hfront.2])
    rw [ih, replaceFrom.eq_3, hpair, if_neg Bool.false_ne_true, List.flatMap_cons]
    split <;> rfl

lemma unifyLineEnds_cons_of_ne {c : Char} (hc : c ≠ '\r') (cs : Text) :
    unifyLineEnds (c :: cs) = c :: unifyLineEnds cs := by
  rw [unifyLineEnds.eq_3 _ _ fun _ hreturn => absurd hreturn hc, if_neg hc]

/-- Carriage returns are line ends by themselves where there are no line feeds. -/
lemma unifyLineEnds_eq_map {t : Text} (h : '\n' ∉ t) :
    unifyLineEnds t = t.map fun c => if c = '\r' then '\n' else c := by
  fun_induction unifyLineEnds t with
  | case1 => rfl
  | case2 cs ih => simp at h
  | case3 c cs hne ih => rw [List.map_cons, ih fun hmem => h (List.mem_cons_of_mem _ hmem)]

/-- A text without carriage returns is read back from the version with a line end that does not depend
on what comes behind it. -/
lemma unifyLineEnds_flatMap {t e : Text} (h : '\r' ∉ t)
    (he : ∀ cs, unifyLineEnds (e ++ cs) = '\n' :: unifyLineEnds cs) :
    unifyLineEnds (t.flatMap fun c => if c = '\n' then e else [c]) = t := by
  induction t with
  | nil => rfl
  | cons c t ih =>
    have hc : c ≠ '\r' := fun hc => h (by simp [hc])
    have hrest := ih fun hmem => h (List.mem_cons_of_mem _ hmem)
    rw [List.flatMap_cons]
    by_cases hfeed : c = '\n'
    · rw [if_pos hfeed, he, hrest, hfeed]
    · rw [if_neg hfeed, List.singleton_append, unifyLineEnds_cons_of_ne hc, hrest]

/-- A text without carriage returns is read back from any of its versions with one of the three line
ends. -/
lemma unifyLineEnds_replace {t e : Text} (h : '\r' ∉ t) (he : e ∈ [lf, crlf, cr]) :
    unifyLineEnds (replace lf e t) = t := by
  rw [lf, replace_singleton]
  have hcases : e = lf ∨ e = crlf ∨ e = cr := by simpa using he
  rcases hcases with rfl | rfl | rfl
  · exact unifyLineEnds_flatMap h fun cs => unifyLineEnds_cons_of_ne (by decide) cs
  · exact unifyLineEnds_flatMap h fun _ => rfl
  · -- A carriage return is read as one line end only as long as no line feed comes behind it.
    have hfeed : '\n' ∉ t.flatMap fun c => if c = '\n' then cr else [c] := by
      rw [List.mem_flatMap]
      rintro ⟨c, -, hmem⟩
      split at hmem
      · exact absurd hmem (by decide)
      · next hc => exact hc (List.mem_singleton.mp hmem).symm
    have hchar : ∀ c ∈ t, (if c = '\n' then cr else [c]).map
        (fun c => if c = '\r' then '\n' else c) = [c] := by
      intro c hmem
      have hc : c ≠ '\r' := fun hc => h (hc ▸ hmem)
      by_cases hline : c = '\n'
      · rw [if_pos hline, hline]
        rfl
      · rw [if_neg hline, List.map_singleton, if_neg hc]
    rw [unifyLineEnds_eq_map hfeed, List.map_flatMap, List.flatMap_congr hchar,
      List.flatMap_singleton']

end RelationAtlas.Text
