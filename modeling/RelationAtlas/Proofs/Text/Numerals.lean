import Mathlib.Tactic.Lemma
import RelationAtlas.Text.Basic
import RelationAtlas.Text.Numeral

/-!
# Reading numerals

An integer written in decimal is read as an argument exactly when it does not have too many digits
(`argumentNumber?_ofInt`, `argumentNumber?_ofInt_of_lt`).
-/

namespace RelationAtlas.Text

/-! ## Digits -/

lemma ne_of_isDigit {c d : Char} (hc : c.isDigit = true) (hd : d.isDigit = false) : c ≠ d := by
  rintro rfl
  rw [hd] at hc
  cases hc

/-- The ten digits are read as digits, and none of them is space. -/
lemma digit_facts {c : Char} (h : c.isDigit = true) :
    digitValue? c = some (c.toNat - '0'.toNat) ∧ isSpace c = false := by
  have hall : ∀ k : Fin 10, digitValue? (Char.ofNat (48 + k)) = some (k : Nat) ∧
      isSpace (Char.ofNat (48 + k)) = false := by decide
  have hrange : 48 ≤ c.toNat ∧ c.toNat ≤ 57 := by
    simpa [Char.isDigit, UInt32.le_iff_toNat_le] using h
  have hcode : 48 + (c.toNat - 48) = c.toNat := by omega
  have hdigit := hall ⟨c.toNat - 48, by omega⟩
  simp only [hcode, Char.ofNat_toNat] at hdigit
  exact hdigit

lemma isDigit_of_mem_ofNat {n : Nat} {c : Char} (h : c ∈ ofNat n) : c.isDigit = true :=
  Nat.isDigit_of_mem_toDigits (by decide) (by decide) h

lemma moreDigits_of_digits {cs : Text} (h : ∀ c ∈ cs, c.isDigit = true) (n : Nat) :
    moreDigits n cs = (Nat.ofDigitChars 10 cs n, []) := by
  induction cs generalizing n with
  | nil => rfl
  | cons c cs ih =>
    have hc : c.isDigit = true := h c (by simp)
    have hunderscore : c ≠ '_' := ne_of_isDigit hc rfl
    rw [moreDigits, (digit_facts hc).1, Nat.ofDigitChars_cons]
    · exact ih (fun d hd => h d (by simp [hd])) _
    · rintro _ _ rfl
      exact absurd rfl hunderscore

/-- A power of ten has one digit more than its exponent says. -/
lemma lt_length_ofNat_pow {k : Nat} (hk : 0 < k) : k < (ofNat (Nat.pow 10 k)).length := by
  rw [ofNat, ← Nat.not_le, Nat.length_toDigits_le_iff (by decide) hk]
  exact Nat.lt_irrefl _

/-! ## Numbers -/

lemma wholeNumber?_ofNat (n : Nat) : wholeNumber? (ofNat n) = some n := by
  have hdigits : ∀ c ∈ ofNat n, c.isDigit = true := fun c hc => isDigit_of_mem_ofNat hc
  have hvalue : Nat.ofDigitChars 10 (ofNat n) 0 = n := Nat.ofDigitChars_ten_toDigits
  cases htext : ofNat n with
  | nil => exact absurd htext Nat.toDigits_ne_nil
  | cons c cs =>
    rw [htext] at hdigits hvalue
    have hmore : ∀ d ∈ cs, d.isDigit = true := fun d hd => hdigits d (by simp [hd])
    have hc : digitValue? c = some (c.toNat - '0'.toNat) := (digit_facts (hdigits c (by simp))).1
    rw [Nat.ofDigitChars_cons, Nat.mul_zero, Nat.zero_add] at hvalue
    rw [wholeNumber?, hc]
    simp only [bind, Option.bind, moreDigits_of_digits hmore, hvalue, if_true]

/-- A text without characters of the class is left as it is. -/
lemma stripped_eq {p : Char → Bool} {t : Text} (h : ∀ c ∈ t, p c = false) : stripped p t = t := by
  have hdrop : ∀ u : Text, (∀ c ∈ u, p c = false) → u.dropWhile p = u := by
    intro u hu
    cases u with
    | nil => rfl
    | cons c u => rw [List.dropWhile_cons_of_neg (by simp [hu c (by simp)])]
  have hreverse : t.reverse.dropWhile p = t.reverse :=
    hdrop _ fun c hc => h c (List.mem_reverse.mp hc)
  rw [stripped, hdrop t h, hreverse, List.reverse_reverse]

lemma signed?_ofInt (n : Int) : signed? (ofInt n) = some n := by
  cases n with
  | ofNat n =>
    have hnumber := wholeNumber?_ofNat n
    have hsign : ∀ c t, ofNat n = c :: t → c ≠ '-' ∧ c ≠ '+' := by
      intro c t htext
      have hmem : c ∈ Text.ofNat n := by simp [htext]
      have hc : c.isDigit = true := isDigit_of_mem_ofNat hmem
      exact ⟨ne_of_isDigit hc rfl, ne_of_isDigit hc rfl⟩
    rw [ofInt, signed?, hnumber]
    · rfl
    · intro t htext
      exact (hsign _ t htext).1 rfl
    · intro t htext
      exact (hsign _ t htext).2 rfl
  | negSucc n =>
    rw [ofInt, signed?, wholeNumber?_ofNat]
    rfl

lemma isSpace_of_mem_ofInt {n : Int} {c : Char} (h : c ∈ ofInt n) : isSpace c = false := by
  cases n with
  | ofNat n => exact (digit_facts (isDigit_of_mem_ofNat h)).2
  | negSucc n =>
    rcases List.mem_cons.mp h with rfl | h
    · decide
    · exact (digit_facts (isDigit_of_mem_ofNat h)).2

lemma digitCount_ofNat (n : Nat) : digitCount (ofNat n) = (ofNat n).length := by
  have hall : ∀ c ∈ ofNat n, (digitValue? c).isSome = true := by
    intro c hc
    rw [(digit_facts (isDigit_of_mem_ofNat hc)).1]
    rfl
  rw [digitCount, List.filter_eq_self.mpr hall]

lemma digitCount_ofInt (n : Int) : digitCount (ofInt n) = (ofNat n.natAbs).length := by
  cases n with
  | ofNat n => exact digitCount_ofNat n
  | negSucc n => exact digitCount_ofNat (n + 1)

/-- An integer is read as it was written, if it does not have too many digits. -/
lemma argumentNumber?_ofInt {n : Int} (h : (ofNat n.natAbs).length ≤ digitLimit) :
    argumentNumber? (ofInt n) = some n := by
  rw [argumentNumber?, digitCount_ofInt, if_neg (Nat.not_lt.mpr h),
    stripped_eq fun c hc => isSpace_of_mem_ofInt hc, signed?_ofInt]

/-- An integer with too many digits is not read. -/
lemma argumentNumber?_ofInt_of_lt {n : Int} (h : digitLimit < (ofNat n.natAbs).length) :
    argumentNumber? (ofInt n) = none := by
  rw [argumentNumber?, digitCount_ofInt, if_pos h]

end RelationAtlas.Text
