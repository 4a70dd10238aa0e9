import Mathlib.Data.List.Chain
import RelationAtlas.Json.Reader

/-!
# Reading strings that have been written

Inside a string, every code is written as itself, by a letter or by its units, and is read as its units
(`codes?_escape`).  The reader joins units that make up a pair, so a string of any codes is read with
its pairs joined (`string?_escapes`).

A string without pairs stays as it is (`joinPairs_eq_self_iff`).  No character has the code of half of a
pair, so the string of a text is one of these (`joinPairs_codesOf`).
-/

namespace RelationAtlas.Json

open Text

/-! ## Codes -/

/-- The code of a character is no half of a pair. -/
lemma notSurrogate (c : Char) : ¬ (0xd800 ≤ c.toNat ∧ c.toNat < 0xe000) := by
  have hvalid : c.toNat < 0xd800 ∨ (0xdfff < c.toNat ∧ c.toNat < 0x110000) := c.valid
  omega

lemma units_of_lt {n : Nat} (h : n < 0x10000) : units n = [n] := if_pos h

lemma units_of_le {n : Nat} (h : 0x10000 ≤ n) :
    units n = [0xd800 + (n - 0x10000) / 0x400, 0xdc00 + (n - 0x10000) % 0x400] :=
  if_neg (Nat.not_lt.mpr h)

lemma hexValue?_hexDigit (n : Nat) : hexValue? (hexDigit n) = some (n % 16) := by
  have hall : ∀ m : Fin 16, hexValue? (Nat.digitChar m) = some m.val := by decide
  exact hall ⟨n % 16, Nat.mod_lt n (by omega)⟩

/-- The four digits of a unit are read as the unit. -/
lemma codes?_unitText {n : Nat} (hn : n < 0x10000) (rest : Text) :
    codes? (unitText n ++ rest) = (codes? rest).map fun (ns, rest) => (n :: ns, rest) := by
  have hunit : unit? (hexDigit (n / 16 / 16 / 16)) (hexDigit (n / 16 / 16)) (hexDigit (n / 16))
      (hexDigit n) = some n := by
    simp only [unit?, hexValue?_hexDigit, bind, Option.bind, pure, Option.some.injEq]
    omega
  have htext : unitText n ++ rest = '\\' :: 'u' :: hexDigit (n / 16 / 16 / 16) ::
      hexDigit (n / 16 / 16) :: hexDigit (n / 16) :: hexDigit n :: rest := rfl
  rw [htext, codes?, hunit]
  cases codes? rest <;> rfl

/-- The units of a code are written with four digits each. -/
lemma codes?_unitTexts {n : Nat} (hn : n < 0x110000) (rest : Text) :
    codes? ((units n).flatMap unitText ++ rest) =
      (codes? rest).map fun (ns, rest) => (units n ++ ns, rest) := by
  rcases Nat.lt_or_ge n 0x10000 with hsmall | hlarge
  · rw [units_of_lt hsmall, List.flatMap_singleton, codes?_unitText hsmall]
    rfl
  · have hhigh : 0xd800 + (n - 0x10000) / 0x400 < 0x10000 := by omega
    have hlow : 0xdc00 + (n - 0x10000) % 0x400 < 0x10000 := by omega
    rw [units_of_le hlarge, List.flatMap_cons, List.flatMap_singleton, List.append_assoc,
      codes?_unitText hhigh, codes?_unitText hlow, Option.map_map]
    rfl

/-- A backslash and a letter are read as the code they stand for. -/
lemma codes?_escaped {letter : Char} {n : Nat} (h : escaped? letter = some n) (rest : Text) :
    codes? ('\\' :: letter :: rest) = (codes? rest).map fun (ns, rest) => (n :: ns, rest) := by
  have hu : letter ≠ 'u' := by
    rintro rfl
    cases h
  rw [codes?]
  · rw [h]
    cases codes? rest <;> rfl
  · rintro _ _ _ _ _ rfl
    exact absurd rfl hu

/-- A character that is written as itself is read as itself. -/
lemma codes?_plain {c : Char} (hquote : c ≠ '"') (hslash : c ≠ '\\') (hlow : ¬ c < ' ')
    (rest : Text) :
    codes? (c :: rest) = (codes? rest).map fun (ns, rest) => (c.toNat :: ns, rest) := by
  rw [codes?, if_neg (by simp [hslash, hlow])]
  · cases codes? rest <;> rfl
  · simpa using hquote
  · intro _ _ _ _ _ h
    exact absurd h hslash
  · intro _ _ h
    exact absurd h hslash

/-- The codes that are written by a backslash and a letter. -/
def lettered : List Nat := ['"', '\\', '\n', '\r', '\t', '\x0c', '\x08'].map Char.toNat

lemma escape_of_mem {n : Nat} (h : n ∈ lettered) :
    n < 0x10000 ∧ ∃ letter, escape n = ['\\', letter] ∧ escaped? letter = some n := by
  simp only [lettered, List.map_cons, List.map_nil, List.mem_cons, List.not_mem_nil, or_false] at h
  rcases h with rfl | rfl | rfl | rfl | rfl | rfl | rfl
  · exact ⟨by decide, '"', rfl, rfl⟩
  · exact ⟨by decide, '\\', rfl, rfl⟩
  · exact ⟨by decide, 'n', rfl, rfl⟩
  · exact ⟨by decide, 'r', rfl, rfl⟩
  · exact ⟨by decide, 't', rfl, rfl⟩
  · exact ⟨by decide, 'f', rfl, rfl⟩
  · exact ⟨by decide, 'b', rfl, rfl⟩

lemma escape_of_notMem {n : Nat} (h : n ∉ lettered) :
    escape n = if ' '.toNat ≤ n ∧ n ≤ '~'.toNat then [Char.ofNat n]
      else (units n).flatMap unitText := by
  simp only [lettered, List.map_cons, List.map_nil, List.mem_cons, List.not_mem_nil, or_false,
    not_or] at h
  obtain ⟨hquote, hslash, hline, hreturn, htab, hform, hback⟩ := h
  rw [escape, if_neg (not_or.mpr ⟨hquote, hslash⟩), if_neg hline, if_neg hreturn, if_neg htab,
    if_neg hform, if_neg hback]

/-- A code is read as its units, in whatever way it is written. -/
lemma codes?_escape {n : Nat} (hn : n < 0x110000) (rest : Text) :
    codes? (escape n ++ rest) = (codes? rest).map fun (ns, rest) => (units n ++ ns, rest) := by
  by_cases hletter : n ∈ lettered
  · obtain ⟨hsmall, letter, hescape, hcode⟩ := escape_of_mem hletter
    rw [hescape, units_of_lt hsmall]
    exact codes?_escaped hcode rest
  rw [escape_of_notMem hletter]
  split
  · next hplain =>
    obtain ⟨c, rfl⟩ := exists_char (.inl (Nat.lt_of_le_of_lt hplain.2 (by decide)))
    have hquote : c ≠ '"' := by
      rintro rfl
      simp [lettered] at hletter
    have hslash : c ≠ '\\' := by
      rintro rfl
      simp [lettered] at hletter
    have hsmall : c.toNat < 0x10000 := Nat.lt_of_le_of_lt hplain.2 (by decide)
    rw [units_of_lt hsmall, Char.ofNat_toNat]
    exact codes?_plain hquote hslash (Char.not_lt.mpr hplain.1) rest
  · exact codes?_unitTexts hn rest

/-- Written codes are read up to the closing quote. -/
lemma codes?_escapes {codes : List Nat} (hcodes : ∀ n ∈ codes, n < 0x110000) (rest : Text) :
    codes? (codes.flatMap escape ++ '"' :: rest) = some (codes.flatMap units, rest) := by
  induction codes with
  | nil => rfl
  | cons n codes ih =>
    obtain ⟨hn, hcodes⟩ := List.forall_mem_cons.mp hcodes
    rw [List.flatMap_cons, List.append_assoc, codes?_escape hn, ih hcodes]
    rfl

/-! ## Pairs -/

lemma joinPairs_of_not_isPair {high low : Nat} (h : ¬ IsPair high low) (codes : List Nat) :
    joinPairs (high :: low :: codes) = high :: joinPairs (low :: codes) := by
  rw [joinPairs, if_neg h]

/-- The units of a code beyond the first plane make up the code. -/
lemma joinPairs_units_append {n : Nat} (hlarge : 0x10000 ≤ n) (hn : n < 0x110000) (codes : List Nat) :
    joinPairs (units n ++ codes) = n :: joinPairs codes := by
  have hcode : pairCode (0xd800 + (n - 0x10000) / 0x400) (0xdc00 + (n - 0x10000) % 0x400) = n := by
    unfold pairCode
    omega
  rw [units_of_le hlarge, List.cons_append, List.singleton_append, joinPairs,
    if_pos ⟨by omega, by omega, by omega, by omega⟩, hcode]

/-- What is no pair with a code is none with the first of the units of this code. -/
lemma exists_units_append (high : Nat) {low : Nat} (hlow : low < 0x110000) (codes : List Nat) :
    ∃ unit rest, units low ++ codes = unit :: rest ∧ (¬ IsPair high low → ¬ IsPair high unit) := by
  rcases Nat.lt_or_ge low 0x10000 with hsmall | hlarge
  · exact ⟨low, codes, by rw [units_of_lt hsmall, List.singleton_append], id⟩
  · rw [units_of_le hlarge]
    refine ⟨_, _, rfl, fun _ hpair => ?_⟩
    obtain ⟨-, -, hunit, -⟩ := hpair
    omega

/-- Joining the units of codes is joining the codes. -/
lemma joinPairs_units {codes : List Nat} (hcodes : ∀ n ∈ codes, n < 0x110000) :
    joinPairs (codes.flatMap units) = joinPairs codes := by
  induction codes using joinPairs.induct with
  | case1 high low codes hpair ih =>
    obtain ⟨-, hcodes⟩ := List.forall_mem_cons.mp hcodes
    obtain ⟨-, hcodes⟩ := List.forall_mem_cons.mp hcodes
    obtain ⟨-, hhigh, -, hlow⟩ := id hpair
    rw [List.flatMap_cons, List.flatMap_cons, units_of_lt (by omega), units_of_lt (by omega),
      List.singleton_append, List.singleton_append, joinPairs, if_pos hpair, joinPairs, if_pos hpair,
      ih hcodes]
  | case2 high low codes hpair ih =>
    obtain ⟨hhigh, hcodes⟩ := List.forall_mem_cons.mp hcodes
    have hrest := ih hcodes
    rw [joinPairs_of_not_isPair hpair, List.flatMap_cons]
    rcases Nat.lt_or_ge high 0x10000 with hsmall | hlarge
    · obtain ⟨unit, rest, heq, hnot⟩ := exists_units_append high
        (hcodes low List.mem_cons_self) (codes.flatMap units)
      rw [List.flatMap_cons, heq] at hrest
      rw [units_of_lt hsmall, List.singleton_append, List.flatMap_cons, heq,
        joinPairs_of_not_isPair (hnot hpair), hrest]
    · rw [joinPairs_units_append hlarge hhigh, hrest]
  | case3 codes hshort =>
    match codes, hshort with
    | [], _ => rfl
    | [n], _ =>
      rw [List.flatMap_singleton]
      rcases Nat.lt_or_ge n 0x10000 with hsmall | hlarge
      · rw [units_of_lt hsmall]
      · rw [← List.append_nil (units n), joinPairs_units_append hlarge (hcodes n List.mem_cons_self)]
        rfl
    | high :: low :: codes, hshort => exact absurd rfl (hshort high low codes)

lemma length_joinPairs_le (codes : List Nat) : (joinPairs codes).length ≤ codes.length := by
  fun_induction joinPairs codes with
  | case1 high low codes hpair ih =>
    simp only [List.length_cons]
    omega
  | case2 high low codes hpair ih =>
    simp only [List.length_cons] at ih ⊢
    omega
  | case3 codes hshort => exact Nat.le_refl _

/-- Codes stay as they are when no half is followed by the other half. -/
lemma joinPairs_eq_self_iff {codes : List Nat} :
    joinPairs codes = codes ↔ codes.IsChain fun high low => ¬ IsPair high low := by
  induction codes using joinPairs.induct with
  | case1 high low codes hpair ih =>
    constructor
    · intro h
      have hlength := congrArg List.length h
      have hle := length_joinPairs_le codes
      rw [joinPairs, if_pos hpair, List.length_cons, List.length_cons, List.length_cons] at hlength
      omega
    · intro h
      exact absurd hpair (List.isChain_cons_cons.mp h).1
  | case2 high low codes hpair ih =>
    rw [joinPairs_of_not_isPair hpair, List.isChain_cons_cons, List.cons.injEq, ih]
    simp only [true_and, hpair, not_false_eq_true]
  | case3 codes hshort =>
    match codes, hshort with
    | [], _ => simp [joinPairs]
    | [n], _ => simp [joinPairs]
    | high :: low :: codes, hshort => exact absurd rfl (hshort high low codes)

/-! ## Strings -/

/-- A string of any codes is read up to its closing quote, with its pairs joined. -/
theorem string?_escapes {codes : List Nat} (hcodes : ∀ n ∈ codes, n < 0x110000) (rest : Text) :
    string? (codes.flatMap escape ++ '"' :: rest) = some (joinPairs codes, rest) := by
  rw [string?, codes?_escapes hcodes, Option.map_some]
  exact congrArg some (Prod.ext (joinPairs_units hcodes) rfl)

/-- The codes of a text hold no half of a pair. -/
lemma joinPairs_codesOf (t : Text) : joinPairs (codesOf t) = codesOf t := by
  rw [joinPairs_eq_self_iff, codesOf, List.isChain_map]
  refine List.Pairwise.isChain (List.pairwise_of_forall fun c d hpair => ?_)
  exact notSurrogate c ⟨hpair.1, Nat.lt_trans hpair.2.1 (by decide)⟩

/-- The codes of a text are below the end of the last plane. -/
lemma lt_of_mem_codesOf {t : Text} : ∀ n ∈ codesOf t, n < 0x110000 := by
  intro n hn
  obtain ⟨c, -, rfl⟩ := List.mem_map.mp hn
  exact toNat_lt c

/-- The codes of a text make up the text. -/
lemma textOf_codesOf (t : Text) : textOf (codesOf t) = t := by
  rw [textOf, codesOf, List.map_map]
  refine (List.map_congr_left fun c _ => ?_).trans (List.map_id t)
  exact (if_neg (notSurrogate c)).trans (Char.ofNat_toNat c)

lemma codesOf_injective : Function.Injective codesOf :=
  Function.LeftInverse.injective textOf_codesOf

end RelationAtlas.Json
