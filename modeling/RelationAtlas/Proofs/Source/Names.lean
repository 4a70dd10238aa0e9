import RelationAtlas.Proofs.Text.Runs
import RelationAtlas.RelationKind

/-!
# Words and names in a file

A word and a spelled name are texts whose characters all belong to one class.  Such a text ends where
another character follows, and no reader that looks for punctuation, a blank or a quote finds it
inside.
-/

namespace RelationAtlas

open Text

/-- A word: a text of word characters that is not empty. -/
structure Word where
  text : Text
  ne_nil : text ≠ []
  isWord : ∀ c ∈ text, Text.isWord c = true

/-- A spelled name: a text of word characters and backslashes that is not empty. -/
structure SpelledName where
  text : Text
  ne_nil : text ≠ []
  isNameChar : ∀ c ∈ text, Name.isNameChar c = true

/-! ## Characters that end a name -/

namespace Name

/-- Characters that stand in no name. -/
def delimiters : List Char :=
  [' ', '\t', '\n', ';', ':', ',', '(', ')', '{', '}', '\'', '"', '#', '/']

lemma isNameChar_of_delimiter {d : Char} (hd : d ∈ delimiters) : isNameChar d = false := by
  have hnone : delimiters.any isNameChar = false := by decide +kernel
  exact Bool.eq_false_iff.mpr (List.any_eq_false.mp hnone d hd)

lemma isWord_of_delimiter {d : Char} (hd : d ∈ delimiters) : Text.isWord d = false := by
  have hname := isNameChar_of_delimiter hd
  rw [isNameChar, Bool.or_eq_false_iff] at hname
  exact hname.1

/-- A character of names is none of those that end one. -/
lemma ne_delimiter {c d : Char} (hc : isNameChar c = true) (hd : d ∈ delimiters) : c ≠ d := by
  rintro rfl
  rw [isNameChar_of_delimiter hd] at hc
  cases hc

end Name

namespace SpelledName

/-- What begins with a name begins with a character of names. -/
lemma isNameChar_of_head (n : SpelledName) (t : Text) :
    ∀ c ∈ (n.text ++ t).head?, Name.isNameChar c = true := by
  obtain ⟨d, ds, hd⟩ := List.exists_cons_of_ne_nil n.ne_nil
  intro c hc
  rw [hd] at hc
  obtain rfl : d = c := by simpa using hc
  exact n.isNameChar d (by simp [hd])

/-- What begins with a name begins with no blank. -/
lemma isBlank_of_head (n : SpelledName) (t : Text) :
    ∀ c ∈ (n.text ++ t).head?, isBlank c = false :=
  fun c hc => isBlank_eq_false_of_isNameChar (n.isNameChar_of_head t c hc)

/-- A name ends where a delimiter follows. -/
lemma run?_append (n : SpelledName) {d : Char} (hd : d ∈ Name.delimiters) (t : Text) :
    run? Name.isNameChar (n.text ++ d :: t) = some (n.text, d :: t) :=
  run?_append_eq n.ne_nil n.isNameChar (by simpa using Name.isNameChar_of_delimiter hd)

/-- A name holds no delimiter. -/
lemma notMem (n : SpelledName) {d : Char} (hd : d ∈ Name.delimiters) : d ∉ n.text :=
  fun hmem => Name.ne_delimiter (n.isNameChar d hmem) hd rfl

end SpelledName

namespace Word

/-- A word as a spelled name. -/
def toName (w : Word) : SpelledName where
  text := w.text
  ne_nil := w.ne_nil
  isNameChar c hc := Name.isNameChar_of_isWord (w.isWord c hc)

/-- What begins with a word begins with no blank. -/
lemma isBlank_of_head (w : Word) (t : Text) : ∀ c ∈ (w.text ++ t).head?, isBlank c = false :=
  w.toName.isBlank_of_head t

/-- A word ends where a delimiter follows. -/
lemma run?_append (w : Word) {d : Char} (hd : d ∈ Name.delimiters) (t : Text) :
    run? Text.isWord (w.text ++ d :: t) = some (w.text, d :: t) :=
  run?_append_eq w.ne_nil w.isWord (by simpa using Name.isWord_of_delimiter hd)

end Word

/-- The word of a kind. -/
def RelationKind.toWord (k : RelationKind) : Word where
  text := k.word
  ne_nil := by cases k <;> decide
  isWord := List.all_eq_true.mp (by cases k <;> decide +kernel)

end RelationAtlas
