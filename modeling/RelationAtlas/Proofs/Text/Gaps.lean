import RelationAtlas.Proofs.Text.Runs

/-!
# Blanks between words

Where a reader drops blanks, any blanks may stand, and where it asks for blanks, at least one.  Here
such parts of a text are values of their own: `Blanks`, which may be empty, and `Gap`, which may not.
Each move of a reader over blanks comes in both directions: what it leaves when such a part is written
down, and which part it has taken when it is done.  Trimming is told by what it takes off
(`Text.exists_trim`) and by the ends of what it leaves.
-/

namespace RelationAtlas

open Text

/-- A text of blanks, which may be empty. -/
structure Blanks where
  text : Text
  isBlank : ∀ c ∈ text, Text.isBlank c = true

/-- A text of blanks, at least one. -/
structure Gap extends Blanks where
  ne_nil : text ≠ []

namespace Text

/-- What begins with a word begins as the word does. -/
lemma isBlank_of_head_append {w : Text} {c : Char} (hw : w.head? = some c)
    (hc : isBlank c = false) (t : Text) : ∀ d ∈ (w ++ t).head?, isBlank d = false := by
  intro d hd
  rw [List.head?_append, hw] at hd
  obtain rfl : c = d := by simpa using hd
  exact hc

/-- A sign is passed where it stands. -/
lemma after?_sign (c : Char) (t : Text) : after? [c] (c :: t) = some t := after?_append [c] t

/-- Dropping blanks takes blanks off the front. -/
lemma exists_blanks (t : Text) : ∃ s : Blanks, t = s.text ++ dropBlanks t :=
  ⟨⟨t.takeWhile isBlank, List.all_eq_true.mp List.all_takeWhile⟩,
    (List.takeWhile_append_dropWhile (p := isBlank)).symm⟩

/-- What follows blanks follows a gap. -/
lemma exists_gap {t rest : Text} (h : afterBlanks? t = some rest) :
    ∃ g : Gap, t = g.text ++ rest := by
  cases t with
  | nil => simp [afterBlanks?] at h
  | cons c cs =>
    rw [afterBlanks?] at h
    split at h
    · next hc =>
      obtain rfl := Option.some.inj h
      obtain ⟨s, hs⟩ := exists_blanks cs
      refine ⟨⟨⟨c :: s.text, ?_⟩, by simp⟩, by simpa using hs⟩
      intro d hd
      rcases List.mem_cons.mp hd with rfl | hd
      · exact hc
      · exact s.isBlank d hd
    · cases h

/-- Trimming takes blanks off both ends. -/
lemma exists_trim (t : Text) :
    ∃ front back : Blanks, t = front.text ++ (trim t ++ back.text) := by
  obtain ⟨front, hfront⟩ := exists_blanks t
  obtain ⟨back, hback⟩ := exists_blanks (dropBlanks t).reverse
  have hbehind : ∀ c ∈ back.text.reverse, isBlank c = true := fun c hc =>
    back.isBlank c (List.mem_reverse.mp hc)
  refine ⟨front, ⟨back.text.reverse, hbehind⟩, ?_⟩
  have hreverse := congrArg List.reverse hback
  rw [List.reverse_reverse, List.reverse_append] at hreverse
  exact hfront.trans (congrArg (front.text ++ ·) hreverse)

/-- A trimmed text is made of characters of the text. -/
lemma mem_of_mem_trim {c : Char} {t : Text} (h : c ∈ trim t) : c ∈ t := by
  obtain ⟨front, back, ht⟩ := exists_trim t
  rw [ht]
  simp [h]

/-- A trimmed text begins with no blank. -/
lemma isBlank_of_head_trim (t : Text) : ∀ c ∈ (trim t).head?, isBlank c = false := by
  intro c hc
  have hprefix : trim t <+: dropBlanks t := by
    rw [← List.reverse_suffix, trim, trimEnd, List.reverse_reverse]
    exact List.dropWhile_suffix _
  obtain ⟨rest, hrest⟩ := hprefix
  refine not_of_head_dropWhile isBlank t c ?_
  rw [← dropBlanks, ← hrest, List.head?_append, Option.mem_def.mp hc]
  rfl

/-- A trimmed text ends with no blank. -/
lemma isBlank_of_getLast_trim (t : Text) : ∀ c ∈ (trim t).getLast?, isBlank c = false := by
  intro c hc
  rw [trim, trimEnd, List.getLast?_reverse] at hc
  exact not_of_head_dropWhile isBlank _ c hc

end Text

namespace Blanks

/-- No blanks. -/
def empty : Blanks := ⟨[], by simp⟩

/-- A text that is found to be blank. -/
def ofAll (t : Text) (h : t.all Text.isBlank = true) : Blanks := ⟨t, List.all_eq_true.mp h⟩

/-- Blanks that are written down are dropped. -/
lemma dropBlanks_append (s : Blanks) {t : Text} (ht : ∀ c ∈ t.head?, Text.isBlank c = false) :
    dropBlanks (s.text ++ t) = t :=
  dropWhile_append_eq s.isBlank ht

/-- Blanks in front of a text are trimmed off. -/
lemma trim_append (s : Blanks) (t : Text) : trim (s.text ++ t) = trim t := by
  rw [trim, dropBlanks, List.dropWhile_append_of_pos s.isBlank]
  rfl

/-- Blanks and the character behind them belong to no class that leaves out both. -/
lemma not_of_head (s : Blanks) {p : Char → Bool} (hp : ∀ c, Text.isBlank c = true → p c = false)
    {t : Text} (ht : ∀ c ∈ t.head?, p c = false) : ∀ c ∈ (s.text ++ t).head?, p c = false := by
  intro c hc
  cases hs : s.text with
  | nil => exact ht c (by simpa [hs] using hc)
  | cons d ds =>
    obtain rfl : d = c := by simpa [hs] using hc
    exact hp d (s.isBlank d (by simp [hs]))

end Blanks

/-- A gap that is written down is passed. -/
lemma Gap.afterBlanks?_append (g : Gap) {t : Text} (ht : ∀ c ∈ t.head?, Text.isBlank c = false) :
    afterBlanks? (g.text ++ t) = some t := by
  obtain ⟨c, cs, hg⟩ := List.exists_cons_of_ne_nil g.ne_nil
  have hcs : ∀ d ∈ cs, Text.isBlank d = true := fun d hd => g.isBlank d (by simp [hg, hd])
  have hdrop : dropBlanks (cs ++ t) = t := Blanks.dropBlanks_append ⟨cs, hcs⟩ ht
  rw [hg, List.cons_append, afterBlanks?, if_pos (g.isBlank c (by simp [hg])), hdrop]

end RelationAtlas
