import Mathlib.Tactic.Lemma
import RelationAtlas.Source.Name
import RelationAtlas.Text.Blank

/-!
# Runs, blanks and pieces of written texts

What the moves of the readers do on a text that is written as one part after another: a run ends where
its class of characters ends, blanks are dropped up to the first other character, and a text is cut
at its separators.
-/

namespace RelationAtlas

namespace Text

/-! ## Runs -/

/-- The characters of a class are taken up to the first other one. -/
lemma takeWhile_append_eq {p : Char → Bool} {w rest : Text} (hall : ∀ c ∈ w, p c = true)
    (hstop : ∀ c ∈ rest.head?, p c = false) : (w ++ rest).takeWhile p = w := by
  rw [List.takeWhile_append_of_pos hall]
  cases rest with
  | nil => simp
  | cons c cs => simp [hstop c (by simp)]

/-- The characters of a class are dropped up to the first other one. -/
lemma dropWhile_append_eq {p : Char → Bool} {w rest : Text} (hall : ∀ c ∈ w, p c = true)
    (hstop : ∀ c ∈ rest.head?, p c = false) : (w ++ rest).dropWhile p = rest := by
  rw [List.dropWhile_append_of_pos hall]
  cases rest with
  | nil => simp
  | cons c cs => simp [hstop c (by simp)]

/-- What is left where a class of characters is dropped begins with another one. -/
lemma not_of_head_dropWhile (p : Char → Bool) (t : Text) :
    ∀ c ∈ (t.dropWhile p).head?, p c = false := by
  intro c hc
  have hnot := List.head?_dropWhile_not p t
  rwa [Option.mem_def.mp hc] at hnot

/-- A run goes as far as its class of characters does. -/
lemma run?_append_eq {p : Char → Bool} {w rest : Text} (hne : w ≠ [])
    (hall : ∀ c ∈ w, p c = true) (hstop : ∀ c ∈ rest.head?, p c = false) :
    run? p (w ++ rest) = some (w, rest) := by
  rw [run?, takeWhile_append_eq hall hstop, dropWhile_append_eq hall hstop]
  cases w with
  | nil => exact absurd rfl hne
  | cons c cs => rfl

/-- A run is a front part of characters of a class that no other one follows. -/
lemma run?_eq_some_iff {p : Char → Bool} {t w rest : Text} :
    run? p t = some (w, rest) ↔
      t = w ++ rest ∧ w ≠ [] ∧ (∀ c ∈ w, p c = true) ∧ ∀ c ∈ rest.head?, p c = false := by
  constructor
  · intro h
    have hw : t.takeWhile p = w ∧ t.dropWhile p = rest := by
      rw [run?] at h
      split at h
      · cases h
      · next c cs heq =>
        simp only [Option.some.injEq, Prod.mk.injEq] at h
        rw [heq]
        exact h
    refine ⟨(run?_append h).symm, run?_ne_nil h, ?_, ?_⟩
    · rw [← hw.1]
      exact List.all_eq_true.mp List.all_takeWhile
    · rw [← hw.2]
      exact not_of_head_dropWhile p t
  · rintro ⟨rfl, hne, hall, hstop⟩
    exact run?_append_eq hne hall hstop

/-! ## Blanks -/

@[simp] lemma dropBlanks_nil : dropBlanks [] = [] := rfl

lemma dropBlanks_cons_of_isBlank {c : Char} (h : isBlank c = true) (t : Text) :
    dropBlanks (c :: t) = dropBlanks t := by
  simp [dropBlanks, h]

lemma dropBlanks_cons_of_not {c : Char} (h : isBlank c = false) (t : Text) :
    dropBlanks (c :: t) = c :: t := by
  simp [dropBlanks, h]

/-- Nothing is dropped from a text that begins with no blank. -/
lemma dropBlanks_of_head {t : Text} (h : ∀ c ∈ t.head?, isBlank c = false) : dropBlanks t = t := by
  cases t with
  | nil => rfl
  | cons c cs => exact dropBlanks_cons_of_not (h c (by simp)) cs

/-- Blanks go on up to the first character that is none. -/
lemma afterBlanks?_cons {c : Char} (hc : isBlank c = true) {t : Text}
    (ht : ∀ d ∈ t.head?, isBlank d = false) : afterBlanks? (c :: t) = some t := by
  rw [afterBlanks?, if_pos hc, dropBlanks_of_head ht]

/-- What begins with no blank is not what follows blanks. -/
lemma afterBlanks?_eq_none {t : Text} (h : ∀ c ∈ t.head?, isBlank c = false) :
    afterBlanks? t = none := by
  cases t with
  | nil => rfl
  | cons c cs => simp [afterBlanks?, h c (by simp)]

/-- No blank is a character of a qualified name. -/
lemma isBlank_eq_false_of_isNameChar {c : Char} (h : Name.isNameChar c = true) :
    isBlank c = false := by
  refine Bool.eq_false_iff.mpr fun hblank => ?_
  simp only [Name.isNameChar, isWord_eq_false_of_isBlank hblank, Bool.false_or, beq_iff_eq] at h
  subst h
  exact absurd hblank (by decide)

/-- No character of a qualified name is a blank. -/
lemma isNameChar_eq_false_of_isBlank {c : Char} (h : isBlank c = true) :
    Name.isNameChar c = false := by
  refine Bool.eq_false_iff.mpr fun hname => ?_
  rw [isBlank_eq_false_of_isNameChar hname] at h
  cases h

/-- Nothing is trimmed off a text without blanks. -/
lemma trim_eq_self {t : Text} (h : ∀ c ∈ t, isBlank c = false) : trim t = t := by
  have hfront : dropBlanks t = t := dropBlanks_of_head fun c hc => h c (List.mem_of_mem_head? hc)
  have hback : t.reverse.dropWhile isBlank = t.reverse :=
    dropBlanks_of_head fun c hc => h c (List.mem_reverse.mp (List.mem_of_mem_head? hc))
  rw [trim, hfront, trimEnd, hback, List.reverse_reverse]

/-! ## Pieces -/

/-- A text without the separator is its only piece. -/
lemma split_of_notMem {sep : Char} {t : Text} (h : sep ∉ t) : split sep t = [t] := by
  induction t with
  | nil => rfl
  | cons c cs ih =>
    obtain ⟨hc, hcs⟩ := List.ne_and_not_mem_of_not_mem_cons h
    rw [split, if_neg (Ne.symm hc), ih hcs]

/-- The first piece goes up to the first separator. -/
lemma split_append {sep : Char} {s : Text} (h : sep ∉ s) (t : Text) :
    split sep (s ++ sep :: t) = s :: split sep t := by
  induction s with
  | nil => simp [split]
  | cons c cs ih =>
    obtain ⟨hc, hcs⟩ := List.ne_and_not_mem_of_not_mem_cons h
    rw [List.cons_append, split, if_neg (Ne.symm hc), ih hcs]

/-- The pieces of a text are made of its characters. -/
lemma mem_of_mem_split {sep c : Char} {t piece : Text} (h : piece ∈ split sep t) (hc : c ∈ piece) :
    c ∈ t := by
  induction t generalizing piece with
  | nil =>
    obtain rfl : piece = [] := by simpa [split] using h
    cases hc
  | cons b bs ih =>
    rw [split] at h
    split at h
    · rcases List.mem_cons.mp h with rfl | h
      · cases hc
      · exact List.mem_cons_of_mem b (ih h hc)
    split at h
    · next hnil => exact absurd hnil (split_ne_nil sep bs)
    · next first rest hsplit =>
      rcases List.mem_cons.mp h with rfl | h
      · rcases List.mem_cons.mp hc with rfl | hc
        · exact List.mem_cons_self
        · exact List.mem_cons_of_mem b (ih (by simp [hsplit]) hc)
      · exact List.mem_cons_of_mem b (ih (by simp [hsplit, h]) hc)

/-- A character is in one of the pieces that a text is cut into. -/
lemma exists_mem_split {sep c : Char} {t : Text} (hc : c ∈ t) (hsep : c ≠ sep) :
    ∃ piece ∈ split sep t, c ∈ piece := by
  induction t with
  | nil => cases hc
  | cons d t ih =>
    rw [split]
    by_cases hd : d = sep
    · have hmem : c ∈ t := (List.mem_cons.mp hc).resolve_left fun heq => hsep (heq.trans hd)
      obtain ⟨piece, hpiece, hin⟩ := ih hmem
      exact ⟨piece, by simp [hd, hpiece], hin⟩
    · rw [if_neg hd]
      cases hsplit : split sep t with
      | nil => exact absurd hsplit (split_ne_nil sep t)
      | cons piece pieces =>
        rcases List.mem_cons.mp hc with rfl | hmem
        · exact ⟨c :: piece, by simp, by simp⟩
        · obtain ⟨q, hq, hin⟩ := ih hmem
          rw [hsplit] at hq
          rcases List.mem_cons.mp hq with rfl | hq
          · exact ⟨d :: q, by simp, by simp [hin]⟩
          · exact ⟨q, by simp [hq], hin⟩

/-- Texts that are joined by a separator, when the last one is known. -/
lemma join_concat (sep : Text) (ts : List Text) (last : Text) :
    join sep (ts ++ [last]) = ts.flatMap (· ++ sep) ++ last := by
  induction ts with
  | nil => rfl
  | cons t ts ih =>
    cases ts with
    | nil => simp [join]
    | cons u us =>
      rw [List.cons_append, List.cons_append, join, ← List.cons_append, ih, List.flatMap_cons]
      simp

/-- Texts that are joined by a separator, when the first one is known. -/
lemma join_cons (sep first : Text) (ts : List Text) :
    join sep (first :: ts) = first ++ ts.flatMap (sep ++ ·) := by
  induction ts generalizing first with
  | nil => simp [join]
  | cons t ts ih => rw [join, ih, List.flatMap_cons, List.append_assoc, List.append_assoc]

end Text

/-! ## Characters of names -/

namespace Name

lemma isNameChar_of_isWord {c : Char} (h : Text.isWord c = true) : isNameChar c = true := by
  simp [isNameChar, h]

/-- A last segment is made of characters of the name. -/
lemma mem_of_mem_lastSegment {c : Char} {name : Text} (h : c ∈ lastSegment name) : c ∈ name := by
  have hfront := (List.takeWhile_prefix (· ≠ separator) (l := name.reverse)).subset
  exact List.mem_reverse.mp (hfront (List.mem_reverse.mp h))

end Name

end RelationAtlas
