import RelationAtlas.Proofs.Text.Places
import RelationAtlas.Proofs.Text.Runs

/-!
# Texts that a reader does not look beyond

A reader that is asked somewhere in a text may look at what follows the text, and then what it reads
depends on that.  A text is *sealed* for a reader if this happens at none of its places (`Sealed`):
usually because it ends with a character that can stand in nothing of what the reader looks for
(`read?_append_cons`).

What is found in a sealed text stays found whatever follows, and the search then goes on in what
follows (`Reader.all_append_of_sealed`).  The moves of readers come with a lemma each on what they do
in front of a character that they stop at.
-/

namespace RelationAtlas

open Text

variable {α : Type}

/-- At each place of the text the reader reads the same whatever follows the text. -/
def Sealed (read? : Text → Option (α × Text)) (t : Text) : Prop :=
  ∀ u, u <:+ t → u ≠ [] → ∀ v, read? (u ++ v) = (read? u).map fun found => (found.1, found.2 ++ v)

section Sealed

variable {read? : Text → Option (α × Text)}

lemma sealed_nil : Sealed read? [] := fun _ hu hne => absurd (List.suffix_nil.mp hu) hne

/-- The end of a sealed text is sealed. -/
lemma Sealed.of_suffix {t u : Text} (ht : Sealed read? t) (hu : u <:+ t) : Sealed read? u :=
  fun _ hw => ht _ (hw.trans hu)

/-- A text is sealed when its first place is and the others are. -/
lemma sealed_cons {c : Char} {t : Text} (ht : Sealed read? t)
    (h : ∀ v, read? (c :: (t ++ v)) = (read? (c :: t)).map fun found => (found.1, found.2 ++ v)) :
    Sealed read? (c :: t) := by
  intro u hu hne v
  rcases List.suffix_cons_iff.mp hu with rfl | hu
  · exact h v
  · exact ht u hu hne v

/-- A text with a given end is sealed when the reader looks beyond this end from nowhere. -/
lemma sealed_append_cons {c : Char} {t : Text} (ht : Sealed read? t)
    (h : ∀ s v, read? (s ++ c :: (t ++ v)) =
      (read? (s ++ c :: t)).map fun found => (found.1, found.2 ++ v)) (s : Text) :
    Sealed read? (s ++ c :: t) := by
  induction s with
  | nil => exact sealed_cons ht (h [])
  | cons d s ih => exact sealed_cons ih fun v => by simpa using h (d :: s) v

/-- A text in which nothing can be read is sealed. -/
lemma sealed_of_passed {t : Text} (h : ∀ v, Passed read? t v) : Sealed read? t := by
  induction t with
  | nil => exact sealed_nil
  | cons c t ih =>
    refine sealed_cons (ih fun v => (h v).2) fun v => ?_
    have hnone := (h []).1
    rw [List.append_nil] at hnone
    rw [(h v).1, hnone, Option.map_none]

/-- A reader takes `part` off where `Writes a part rest` holds.  If there is a character that no such part
holds, and that is as good as nothing behind it, then in front of this character the reader reads the
same as without. -/
lemma read?_append_cons (Writes : α → Text → Text → Prop) {d : Char}
    (hread : ∀ {t a rest}, read? t = some (a, rest) ↔ ∃ part, Writes a part rest ∧ t = part ++ rest)
    (hpart : ∀ {a part rest}, Writes a part rest → d ∉ part)
    (hrest : ∀ {a part b v}, Writes a part (b ++ d :: v) ↔ Writes a part b) (u v : Text) :
    read? (u ++ d :: v) = (read? u).map fun found => (found.1, found.2 ++ d :: v) := by
  refine Option.ext fun found => ?_
  obtain ⟨a, rest⟩ := found
  rw [Option.map_eq_some_iff, hread]
  constructor
  · rintro ⟨part, hwrites, htext⟩
    obtain ⟨b, rfl⟩ := exists_append_of_notMem htext.symm (hpart hwrites)
    rw [List.append_assoc, List.append_cancel_left_eq] at htext
    subst htext
    exact ⟨(a, b), hread.mpr ⟨part, hrest.mp hwrites, rfl⟩, rfl⟩
  · rintro ⟨⟨a', b⟩, hfound, heq⟩
    obtain ⟨part, hwrites, rfl⟩ := hread.mp hfound
    simp only [Prod.mk.injEq] at heq
    obtain ⟨rfl, rfl⟩ := heq
    exact ⟨part, hrest.mpr hwrites, List.append_assoc _ _ _⟩

end Sealed

namespace Reader

variable {r : Reader α}

/-- What a reader finds in a sealed text is found whatever follows, and what follows is searched by
itself. -/
theorem all_append_of_sealed (hr : r.LeavesEnd) {t : Text} (ht : Sealed r.read? t) (v : Text) :
    r.all (t ++ v) = r.all t ++ r.all v := by
  induction hn : t.length using Nat.strongRecOn generalizing t with
  | _ n ih =>
    subst hn
    cases t with
    | nil => simp
    | cons c cs =>
      have hfront := ht _ List.suffix_rfl (by simp) v
      cases hread : r.read? (c :: cs) with
      | none =>
        rw [hread, Option.map_none, List.cons_append] at hfront
        rw [List.cons_append, all_cons_of_none hfront, all_cons_of_none hread]
        exact ih _ (by simp) (ht.of_suffix (List.suffix_cons c cs)) rfl
      | some found =>
        obtain ⟨a, rest⟩ := found
        rw [hread, Option.map_some] at hfront
        rw [all_of_read? hfront, all_of_read? hread, List.cons_append]
        exact congrArg _ (ih _ (r.shorter hread) (ht.of_suffix (hr hread)) rfl)

/-- A sealed text in which nothing is found is passed over. -/
lemma passed_of_sealed {t : Text} (ht : Sealed r.read? t) (hnone : r.all t = []) (v : Text) :
    Passed r.read? t v := by
  induction t with
  | nil => trivial
  | cons c cs ih =>
    have hread : r.read? (c :: cs) = none := by
      cases hread : r.read? (c :: cs) with
      | none => rfl
      | some found =>
        rw [all_of_read? hread] at hnone
        cases hnone
    rw [all_cons_of_none hread] at hnone
    refine ⟨?_, ih (ht.of_suffix (List.suffix_cons c cs)) hnone⟩
    have hfront := ht _ List.suffix_rfl (by simp) v
    rwa [hread, Option.map_none] at hfront

end Reader

namespace Text

/-! ## Moves in front of a character -/

variable {d : Char}

/-- A word is stepped over in front of a character that it does not hold as it is without. -/
lemma after?_append_cons {word : Text} (hd : d ∉ word) (u v : Text) :
    after? word (u ++ d :: v) = (after? word u).map (· ++ d :: v) := by
  induction word generalizing u with
  | nil => rfl
  | cons w ws ih =>
    obtain ⟨hw, hws⟩ := List.ne_and_not_mem_of_not_mem_cons hd
    cases u with
    | nil => simp [after?, Ne.symm hw]
    | cons c cs =>
      rw [List.cons_append, after?, after?]
      split
      · exact ih hws cs
      · rfl

/-- The characters of a class are taken as they are without a character of no such class behind. -/
lemma takeWhile_append_cons {p : Char → Bool} (hd : p d = false) (u v : Text) :
    (u ++ d :: v).takeWhile p = u.takeWhile p := by
  induction u with
  | nil => simp [hd]
  | cons c cs ih =>
    rw [List.cons_append, List.takeWhile_cons, List.takeWhile_cons, ih]

/-- The characters of a class are dropped as they are without a character of no such class behind. -/
lemma dropWhile_append_cons {p : Char → Bool} (hd : p d = false) (u v : Text) :
    (u ++ d :: v).dropWhile p = u.dropWhile p ++ d :: v := by
  induction u with
  | nil => simp [hd]
  | cons c cs ih =>
    rw [List.cons_append, List.dropWhile_cons, List.dropWhile_cons, ih]
    split <;> rfl

/-- Blanks are dropped as they are without a character behind that is none. -/
lemma dropBlanks_append_cons (hd : isBlank d = false) (u v : Text) :
    dropBlanks (u ++ d :: v) = dropBlanks u ++ d :: v :=
  dropWhile_append_cons hd u v

end Text

end RelationAtlas
