/-!
# Texts

Everything the atlas reads or writes is a text: the list of its characters.  Names, paths and whole
files are texts, so that a statement about them is a statement about lists.  The codes that are kept
for the halves of pairs of sixteen-bit units are not those of characters (`exists_char`).

The operations here are the small moves every reader of the library is built from: stepping over a
fixed word (`after?`), taking a maximal run of a class of characters (`run?`), cutting at a
separator (`split`) and keeping a collection of texts sorted by code point (`sortedInsert`).  Each
one comes with the equation that later arguments cite instead of unfolding it.
-/

namespace RelationAtlas

/-- A text is the list of its characters. -/
abbrev Text := List Char

namespace Text

/-- There are seventeen planes of characters. -/
theorem toNat_lt (c : Char) : c.toNat < 0x110000 := by
  rcases c.valid with h | ⟨-, h⟩
  · exact Nat.lt_trans h (by decide)
  · exact h

/-- Every number in the planes that is not kept for a surrogate is that of a character. -/
theorem exists_char {n : Nat} (h : n < 0xd800 ∨ 0xdfff < n ∧ n < 0x110000) :
    ∃ c : Char, c.toNat = n :=
  ⟨Char.ofNatAux n h, rfl⟩

/-- The code of the character that two units of sixteen bits make up. -/
def pairCode (high low : Nat) : Nat := 0x10000 + 0x400 * (high - 0xd800) + (low - 0xdc00)

/-! ## Fixed words and runs -/

/-- What follows `word` in the text, when the text begins with `word`. -/
def after? : Text → Text → Option Text
  | [], t => some t
  | _ :: _, [] => none
  | w :: ws, c :: cs => if w = c then after? ws cs else none

/-- Stepping over a word succeeds exactly on the texts that begin with it. -/
theorem after?_eq_some_iff {word t rest : Text} :
    after? word t = some rest ↔ t = word ++ rest := by
  induction word generalizing t with
  | nil => simp [after?, eq_comm]
  | cons w ws ih =>
    cases t with
    | nil => simp [after?]
    | cons c cs =>
      by_cases h : w = c
      · subst h; simp [after?, ih]
      · simp [after?, h, Ne.symm h]

/-- A word is stepped over when it stands at the front. -/
@[simp] theorem after?_append (word rest : Text) : after? word (word ++ rest) = some rest :=
  after?_eq_some_iff.mpr rfl

/-- What is left after a word is shorter by the word. -/
theorem after?_length {word t rest : Text} (h : after? word t = some rest) :
    rest.length + word.length = t.length := by
  rw [after?_eq_some_iff.mp h, List.length_append, Nat.add_comm]

/-- The longest run of characters of a class at the front of a text, if it is not empty, with what
follows it. -/
def run? (p : Char → Bool) (t : Text) : Option (Text × Text) :=
  match t.takeWhile p with
  | [] => none
  | c :: cs => some (c :: cs, t.dropWhile p)

/-- A run and what follows it make up the text. -/
theorem run?_append {p : Char → Bool} {t w rest : Text} (h : run? p t = some (w, rest)) :
    w ++ rest = t := by
  have hsplit := t.takeWhile_append_dropWhile (p := p)
  unfold run? at h
  split at h
  · cases h
  · next heq =>
    simp only [Option.some.injEq, Prod.mk.injEq] at h
    rw [← h.1, ← h.2, ← heq, hsplit]

/-- A run is never empty. -/
theorem run?_ne_nil {p : Char → Bool} {t w rest : Text} (h : run? p t = some (w, rest)) :
    w ≠ [] := by
  unfold run? at h
  split at h
  · cases h
  · simp only [Option.some.injEq, Prod.mk.injEq] at h
    simp [← h.1]

/-- What follows a run is shorter than the text. -/
theorem run?_length {p : Char → Bool} {t w rest : Text} (h : run? p t = some (w, rest)) :
    rest.length < t.length := by
  have happ := congrArg List.length (run?_append h)
  have hne : 0 < w.length := List.length_pos_iff.mpr (run?_ne_nil h)
  simp only [List.length_append] at happ
  omega

/-! ## Cutting and joining -/

/-- The pieces of a text between the occurrences of a separator; there is always at least one. -/
def split (sep : Char) : Text → List Text
  | [] => [[]]
  | c :: cs =>
    if c = sep then [] :: split sep cs
    else match split sep cs with
      | [] => [[c]]
      | piece :: pieces => (c :: piece) :: pieces

/-- Cutting a text leaves at least one piece. -/
theorem split_ne_nil (sep : Char) (t : Text) : split sep t ≠ [] := by
  cases t with
  | nil => simp [split]
  | cons c cs =>
    unfold split
    split
    · simp
    · split <;> simp

/-- Texts one after another with a separator between neighbours. -/
def join (sep : Text) : List Text → Text
  | [] => []
  | [t] => t
  | t :: u :: ts => t ++ sep ++ join sep (u :: ts)

/-- Does the text end with `tail`? -/
def endsWith (t tail : Text) : Bool := tail.isSuffixOf t

/-! ## Numbers -/

/-- A natural number in decimal. -/
def ofNat (n : Nat) : Text := Nat.toDigits 10 n

/-- An integer in decimal, with a minus sign when it is negative. -/
def ofInt : Int → Text
  | .ofNat n => ofNat n
  | .negSucc n => '-' :: ofNat (n + 1)

/-- The digit of a number below sixteen, in lower case. -/
def hexDigit (n : Nat) : Char := Nat.digitChar (n % 16)

/-- The last `width` hexadecimal digits of a number. -/
def hex : Nat → Nat → Text
  | 0, _ => []
  | width + 1, n => hex width (n / 16) ++ [hexDigit n]

/-! ## Order by code point -/

/-- Inserts a text into a list that is strictly increasing by code point; a text that is already
there is not repeated. -/
def sortedInsert (t : Text) : List Text → List Text
  | [] => [t]
  | u :: us => if t < u then t :: u :: us else if t = u then u :: us else u :: sortedInsert t us

/-- The texts of a list in increasing order of code points, each once. -/
def sorted (ts : List Text) : List Text := ts.foldr sortedInsert []

/-- Insertion adds exactly the inserted text. -/
theorem mem_sortedInsert {t u : Text} {us : List Text} :
    u ∈ sortedInsert t us ↔ u = t ∨ u ∈ us := by
  induction us with
  | nil => simp [sortedInsert]
  | cons v vs ih =>
    unfold sortedInsert
    split
    · simp
    · split
      · next h => subst h; simp
      · simp only [List.mem_cons, ih]
        constructor
        · rintro (h | h | h) <;> simp [h]
        · rintro (h | h | h) <;> simp [h]

/-- Sorting keeps exactly the members of the list. -/
theorem mem_sorted {t : Text} {ts : List Text} : t ∈ sorted ts ↔ t ∈ ts := by
  induction ts with
  | nil => simp [sorted]
  | cons u us ih =>
    have hstep : sorted (u :: us) = sortedInsert u (sorted us) := rfl
    rw [hstep, mem_sortedInsert, ih, List.mem_cons]

end Text

end RelationAtlas
