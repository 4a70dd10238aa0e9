import RelationAtlas.Text.Word

/-!
# Blank characters

Blanks are the white space of every script together with the four information separators U+001C to
U+001F.  No blank can stand in a word (`isWord_eq_false_of_isBlank`), which is why the readers never
have to decide where a run of blanks ends and a word begins.
-/

namespace RelationAtlas.Text

/-- The code points of blanks. -/
def blankRanges : CodeRanges :=
  [(0x0009, 0x000d), (0x001c, 0x0020), (0x0085, 0x0085), (0x00a0, 0x00a0), (0x1680, 0x1680),
   (0x2000, 0x200a), (0x2028, 0x2029), (0x202f, 0x202f), (0x205f, 0x205f), (0x3000, 0x3000)]

/-- Is the character white space? -/
def isBlank (c : Char) : Bool := blankRanges.contains c.toNat

/-- Spaces and tabs, the blanks that indent a line. -/
def isIndent (c : Char) : Bool := c = ' ' || c = '\t'

/-- A code inside a range is one of the codes counted from its lower end. -/
theorem mem_range_of_le {lo hi n : Nat} (hlo : lo ≤ n) (hhi : n ≤ hi) :
    n ∈ (List.range (hi + 1 - lo)).map (lo + ·) := by
  simp only [List.mem_map, List.mem_range]
  exact ⟨n - lo, by omega, by omega⟩

/-- No blank is a word character. -/
theorem isWord_eq_false_of_isBlank {c : Char} (h : isBlank c = true) : isWord c = false := by
  obtain ⟨r, hr, hlo, hhi⟩ := CodeRanges.exists_of_contains h
  have hall : (blankRanges.flatMap fun r => (List.range (r.2 + 1 - r.1)).map (r.1 + ·)).all
      (fun n => !wordRanges.contains n) = true := by decide +kernel
  have hmem : c.toNat ∈ blankRanges.flatMap fun r => (List.range (r.2 + 1 - r.1)).map (r.1 + ·) :=
    List.mem_flatMap.mpr ⟨r, hr, mem_range_of_le hlo hhi⟩
  simpa [isWord] using List.all_eq_true.mp hall _ hmem

/-- The text without the blanks at its front. -/
def dropBlanks (t : Text) : Text := t.dropWhile isBlank

/-- Dropping blanks never lengthens a text. -/
theorem length_dropBlanks_le (t : Text) : (dropBlanks t).length ≤ t.length :=
  (List.dropWhile_sublist isBlank).length_le

/-- The text without the blanks at its end. -/
def trimEnd (t : Text) : Text := (t.reverse.dropWhile isBlank).reverse

/-- The text without the blanks at either end. -/
def trim (t : Text) : Text := trimEnd (dropBlanks t)

/-- What follows one or more blanks at the front of a text. -/
def afterBlanks? : Text → Option Text
  | [] => none
  | c :: cs => if isBlank c then some (dropBlanks cs) else none

/-- What follows blanks is shorter than the text. -/
theorem afterBlanks?_length {t rest : Text} (h : afterBlanks? t = some rest) :
    rest.length < t.length := by
  cases t with
  | nil => simp [afterBlanks?] at h
  | cons c cs =>
    simp only [afterBlanks?] at h
    split at h
    · simp only [Option.some.injEq] at h
      have := length_dropBlanks_le cs
      rw [h] at this
      simp only [List.length_cons]
      omega
    · cases h

end RelationAtlas.Text
