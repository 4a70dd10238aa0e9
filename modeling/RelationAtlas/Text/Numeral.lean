import RelationAtlas.Text.Blank

/-!
# Numerals

Two notations for integers are read here.  Both allow white space around the number, a sign, leading
zeros, and a single underscore between two digits, and both give up on a number with too many digits.

* A *setting* is written with the ten digits, and its fraction may be spelled out as long as it is
  zero (`settingNumber`).  Among its leading zeros there may be any number of underscores, and the
  minus sign may come after them.
* An *argument* has no fraction, but its digits may be those of any script (`argumentNumber?`).
-/

namespace RelationAtlas.Text

/-- The zeros of the scripts that have decimal digits; the other nine digits follow each of them. -/
def digitZeros : List Nat :=
  [0x0030, 0x0660, 0x06f0, 0x07c0, 0x0966, 0x09e6, 0x0a66, 0x0ae6, 0x0b66, 0x0be6, 0x0c66, 0x0ce6,
   0x0d66, 0x0de6, 0x0e50, 0x0ed0, 0x0f20, 0x1040, 0x1090, 0x17e0, 0x1810, 0x1946, 0x19d0, 0x1a80,
   0x1a90, 0x1b50, 0x1bb0, 0x1c40, 0x1c50, 0xa620, 0xa8d0, 0xa900, 0xa9d0, 0xa9f0, 0xaa50, 0xabf0,
   0xff10, 0x104a0, 0x10d30, 0x11066, 0x110f0, 0x11136, 0x111d0, 0x112f0, 0x11450, 0x114d0,
   0x11650, 0x116c0, 0x11730, 0x118e0, 0x11950, 0x11c50, 0x11d50, 0x11da0, 0x16a60, 0x16ac0,
   0x16b50, 0x1d7ce, 0x1d7d8, 0x1d7e2, 0x1d7ec, 0x1d7f6, 0x1e140, 0x1e2f0, 0x1e950, 0x1fbf0]

/-- The value of a decimal digit of any script. -/
def digitValue? (c : Char) : Option Nat :=
  (digitZeros.find? fun z => z ≤ c.toNat && c.toNat ≤ z + 9).map (c.toNat - ·)

/-- The value of one of the ten digits. -/
def plainDigit? (c : Char) : Option Nat :=
  if '0' ≤ c ∧ c ≤ '9' then some (c.toNat - '0'.toNat) else none

/-- The most digits that a number can have. -/
def digitLimit : Nat := 4300

/-- White space in the narrow sense, without the information separators. -/
def isSpace (c : Char) : Bool := isBlank c && !(0x1c ≤ c.toNat && c.toNat ≤ 0x1f)

/-- The text without characters of a class at either end. -/
def stripped (p : Char → Bool) (t : Text) : Text :=
  ((t.dropWhile p).reverse.dropWhile p).reverse

/-! ## Settings -/

/-- Why a text is not the number of a setting. -/
inductive NumeralFlaw where
  | unreadable
  | tooLong
  deriving DecidableEq, Repr

/-- The number that plain digits stand for. -/
def plainValue (ds : Text) : Nat := ds.foldl (fun n c => 10 * n + (plainDigit? c).getD 0) 0

/-- Reads a number that has no sign, no leading zero and no underscore. -/
def plainNumber (t : Text) : Except NumeralFlaw Nat :=
  let isDigit := fun c => (plainDigit? c).isSome
  match t.takeWhile isDigit, t.dropWhile isDigit with
  | [], _ => .error .unreadable
  | '0' :: ds, rest => if ds = [] ∧ rest = [] then .ok 0 else .error .unreadable
  | ds, rest =>
    if digitLimit < ds.length then .error .tooLong
    else if rest = [] then .ok (plainValue ds)
    else .error .unreadable

/-- What is left of a number behind its first leading zeros and the underscores among them, when
`last` is the latest of these.  A zero stays if there is nothing else before a point or at the
end. -/
def behindZeros? (last : Char) : Text → Option Text
  | [] => some [last]
  | c :: cs =>
    if c = '0' ∨ c = '_' then behindZeros? c cs
    else if c = '.' then some (last :: c :: cs)
    else if c = '-' ∨ (plainDigit? c).isSome then some (c :: cs)
    else none

/-- A number, which has to begin with a digit, without its leading zeros. -/
def dropZeros? : Text → Option Text
  | [] => none
  | c :: cs =>
    if c = '0' then behindZeros? c cs
    else if (plainDigit? c).isSome then some (c :: cs)
    else none

/-- A number without a fraction of zeros. -/
def dropZeroFraction (t : Text) : Text :=
  match t.dropWhile (· ≠ '.') with
  | _ :: zero :: zeros =>
    if (zero :: zeros).all (· = '0') then t.takeWhile (· ≠ '.') else t
  | _ => t

/-- Does an underscore follow another one? -/
def hasDoubledUnderscore : Text → Bool
  | '_' :: '_' :: _ => true
  | _ :: cs => hasDoubledUnderscore cs
  | [] => false

/-- A number without its underscores, if each of them stands alone and inside the number. -/
def dropUnderscores (t : Text) : Text :=
  if t.head? = some '_' ∨ t.getLast? = some '_' ∨ hasDoubledUnderscore t then t
  else t.filter (· ≠ '_')

/-- A number in its plain form, before its sign is read. -/
def plainForm? (t : Text) : Option Text :=
  (dropZeros? t).map fun t => dropUnderscores (dropZeroFraction t)

/-- Reads a number in its plain form. -/
def magnitude (t : Text) : Except NumeralFlaw Nat :=
  match plainForm? t with
  | some t => plainNumber t
  | none => .error .unreadable

/-- Reads a number whose minus sign, if it has one, comes after leading zeros. -/
def lateSigned (t : Text) : Except NumeralFlaw Int :=
  match plainForm? t with
  | some ('-' :: t) => (plainNumber t).map fun n => -(n : Int)
  | some t => (plainNumber t).map fun n => (n : Int)
  | none => .error .unreadable

/-- The integer that the text of a setting stands for. -/
def settingNumber (t : Text) : Except NumeralFlaw Int :=
  match stripped isSpace t with
  | '-' :: t => (magnitude t).map fun n => -(n : Int)
  | '+' :: t => lateSigned t
  | t => lateSigned t

/-! ## Arguments -/

/-- Reads digits, continuing the number `n`; an underscore counts only between two digits.  The
second part is what is left. -/
def moreDigits (n : Nat) : Text → Nat × Text
  | [] => (n, [])
  | '_' :: c :: cs =>
    match digitValue? c with
    | some d => moreDigits (10 * n + d) cs
    | none => (n, '_' :: c :: cs)
  | c :: cs =>
    match digitValue? c with
    | some d => moreDigits (10 * n + d) cs
    | none => (n, c :: cs)

/-- Reads a number that begins with a digit and ends with the text. -/
def wholeNumber? : Text → Option Nat
  | [] => none
  | c :: cs => do
    let (n, rest) := moreDigits (← digitValue? c) cs
    if rest = [] then some n else none

/-- Reads a sign and a number. -/
def signed? : Text → Option Int
  | '-' :: t => (wholeNumber? t).map fun n => -(n : Int)
  | '+' :: t => (wholeNumber? t).map fun n => (n : Int)
  | t => (wholeNumber? t).map fun n => (n : Int)

/-- How many decimal digits are in the text? -/
def digitCount (t : Text) : Nat := (t.filter fun c => (digitValue? c).isSome).length

/-- The integer that an argument stands for. -/
def argumentNumber? (t : Text) : Option Int :=
  if digitLimit < digitCount t then none else signed? (stripped isSpace t)

end RelationAtlas.Text
