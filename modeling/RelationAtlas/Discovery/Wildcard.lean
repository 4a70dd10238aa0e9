import RelationAtlas.Text.Basic

/-!
# Wildcards

A name can be described by a text in which a star stands for any run of characters, a question mark
for one character, and brackets for one character of a class.  All other characters stand for
themselves, and so does a bracket that is never closed.

A class lists characters and ranges of characters; an exclamation mark at its front turns it into
the class of all other characters.  A closing bracket is a member of the class when it comes first.
A range whose ends are in the wrong order is struck from the class; if what is left then begins with
an exclamation mark, that mark counts as being at the front.
-/

namespace RelationAtlas.Wildcard

/-- A member of a class of characters. -/
inductive ClassItem where
  | single (c : Char)
  | range (low high : Char)
  deriving DecidableEq, Repr

/-- A part of a wildcard. -/
inductive Piece where
  | char (c : Char)
  | anyChar
  | anyRun
  | oneOf (items : List ClassItem)
  | noneOf (items : List ClassItem)
  deriving DecidableEq, Repr

/-! ## Reading -/

/-- Is the item more than a range with its ends in the wrong order? -/
def ClassItem.isProper : ClassItem → Bool
  | single _ => true
  | range low high => low ≤ high

/-- The items between the brackets of a class. -/
def classItems : Text → List ClassItem
  | [] => []
  | low :: '-' :: high :: rest => .range low high :: classItems rest
  | c :: rest => .single c :: classItems rest

/-- The class that is written between brackets. -/
def ofClass : Text → Piece
  | '!' :: rest => .noneOf ((classItems rest).filter ClassItem.isProper)
  | t =>
    match (classItems t).filter ClassItem.isProper with
    | .single '!' :: items => .noneOf items
    | .range '!' high :: items => .noneOf (.single '-' :: .single high :: items)
    | items => .oneOf items

/-- The front of a class that is not searched for the closing bracket, and what follows it. -/
def classFront : Text → Text × Text
  | '!' :: ']' :: rest => (['!', ']'], rest)
  | '!' :: rest => (['!'], rest)
  | ']' :: rest => ([']'], rest)
  | rest => ([], rest)

/-- The text of a class after its opening bracket, and what follows its closing bracket. -/
def classText? (t : Text) : Option (Text × Text) :=
  let (front, t) := classFront t
  match t.dropWhile (· ≠ ']') with
  | [] => none
  | _ :: rest => some (front ++ t.takeWhile (· ≠ ']'), rest)

/-- What follows a class is shorter than the text. -/
theorem classText?_length {t body rest : Text} (h : classText? t = some (body, rest)) :
    rest.length < t.length := by
  have hfront : (classFront t).2.length ≤ t.length := by
    unfold classFront
    split <;> grind
  simp only [classText?] at h
  split at h
  · cases h
  · next c r heq =>
    simp only [Option.some.injEq, Prod.mk.injEq] at h
    have hle : ((classFront t).2.dropWhile (· ≠ ']')).length ≤ (classFront t).2.length :=
      (List.dropWhile_sublist _).length_le
    rw [heq, List.length_cons] at hle
    rw [← h.2]
    omega

/-- The parts of a wildcard. -/
def pieces (t : Text) : List Piece :=
  match t with
  | [] => []
  | '*' :: cs => .anyRun :: pieces cs
  | '?' :: cs => .anyChar :: pieces cs
  | '[' :: cs =>
    match _h : classText? cs with
    | some (body, rest) => ofClass body :: pieces rest
    | none => .char '[' :: pieces cs
  | c :: cs => .char c :: pieces cs
termination_by t.length
decreasing_by
  · simp
  · simp
  · have := classText?_length ‹_›
    simp only [List.length_cons]
    omega
  · simp
  · simp

/-! ## Matching -/

/-- Is the character what the item lists? -/
def ClassItem.contains (c : Char) : ClassItem → Bool
  | single d => c == d
  | range low high => low ≤ c && c ≤ high

/-- May the part stand for this one character? -/
def Piece.accepts (c : Char) : Piece → Bool
  | .char d => c == d
  | .anyChar => true
  | .anyRun => true
  | .oneOf items => items.any (ClassItem.contains c)
  | .noneOf items => !items.any (ClassItem.contains c)

/-- The suffixes of a text, the longest first. -/
def suffixes : Text → List Text
  | [] => [[]]
  | c :: cs => (c :: cs) :: suffixes cs

/-- Does the wildcard describe the whole text? -/
def describes : List Piece → Text → Bool
  | [], t => t.isEmpty
  | .anyRun :: ps, t => (suffixes t).any (describes ps)
  | _ :: _, [] => false
  | p :: ps, c :: cs => p.accepts c && describes ps cs

/-- The suffixes of a text are the texts it ends with. -/
theorem mem_suffixes {s t : Text} : s ∈ suffixes t ↔ s <:+ t := by
  induction t with
  | nil => simp [suffixes]
  | cons c cs ih => simp [suffixes, ih, List.suffix_cons_iff]

/-- A star stands for any run of characters. -/
theorem describes_anyRun {ps : List Piece} {t : Text} :
    describes (.anyRun :: ps) t = true ↔ ∃ s, s <:+ t ∧ describes ps s = true := by
  simp [describes, mem_suffixes]

end RelationAtlas.Wildcard
