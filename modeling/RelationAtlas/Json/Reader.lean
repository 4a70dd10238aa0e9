import RelationAtlas.Json.Basic
import RelationAtlas.Text.Numeral

/-!
# Reading structured values

The reader accepts what the writer of `RelationAtlas.Json.Basic` writes, and everything else that is
commonly written for such values: white space between the parts, characters written as themselves or
by escapes, and the three names for numbers that are not finite.

Two limits keep a text from asking for too much: values are nested only so deep, and an integer has
only so many digits.  A text that goes too deep is told from one that makes no sense.

An escape may write half of a pair of units.  A half that is followed by the other one is joined with
it (`joinPairs`).  A half that is left over is no character; where a text is wanted, it is kept as a
private-use character (`charOf`), so that it is not lost.
-/

namespace RelationAtlas.Json

open Text

/-- What holds values inside a value. -/
inductive Nest where
  | array
  | object
  deriving DecidableEq, Repr

/-- Why a text cannot be read. -/
inductive Fault where
  | malformed
  | tooDeep (n : Nest)
  deriving DecidableEq, Repr

/-- The fault in words. -/
def Fault.message : Fault → Text
  | malformed => "not the text of a value".toList
  | tooDeep .array =>
    "maximum recursion depth exceeded while decoding a JSON array from a unicode string".toList
  | tooDeep .object =>
    "maximum recursion depth exceeded while decoding a JSON object from a unicode string".toList

/-- The most arrays and objects that may be open at once. -/
def nestingLimit : Nat := 980

/-- What was found; nothing means that the text makes no sense. -/
def found {α : Type} : Option α → Except Fault α
  | some a => .ok a
  | none => .error .malformed

/-- Is the character white space between the parts of a value? -/
def isGap (c : Char) : Bool := c = ' ' || c = '\t' || c = '\n' || c = '\r'

/-- The text without white space at its front. -/
def dropGap (t : Text) : Text := t.dropWhile isGap

/-! ## Strings -/

/-- The value of a hexadecimal digit. -/
def hexValue? (c : Char) : Option Nat :=
  if '0' ≤ c ∧ c ≤ '9' then some (c.toNat - '0'.toNat)
  else if 'a' ≤ c ∧ c ≤ 'f' then some (c.toNat - 'a'.toNat + 10)
  else if 'A' ≤ c ∧ c ≤ 'F' then some (c.toNat - 'A'.toNat + 10)
  else none

/-- The unit of four hexadecimal digits. -/
def unit? (a b c d : Char) : Option Nat := do
  return 4096 * (← hexValue? a) + 256 * (← hexValue? b) + 16 * (← hexValue? c) + (← hexValue? d)

/-- The code of a character that is written by a backslash and a letter. -/
def escaped? : Char → Option Nat
  | '"' => some 0x22
  | '\\' => some 0x5c
  | '/' => some 0x2f
  | 'b' => some 0x08
  | 'f' => some 0x0c
  | 'n' => some 0x0a
  | 'r' => some 0x0d
  | 't' => some 0x09
  | _ => none

/-- The codes in a string as they are written, up to its closing quote, and what follows the quote. -/
def codes? : Text → Option (List Nat × Text)
  | [] => none
  | '"' :: rest => some ([], rest)
  | '\\' :: 'u' :: a :: b :: c :: d :: rest => do
    let n ← unit? a b c d
    let (ns, rest) ← codes? rest
    return (n :: ns, rest)
  | '\\' :: c :: rest => do
    let n ← escaped? c
    let (ns, rest) ← codes? rest
    return (n :: ns, rest)
  | c :: rest =>
    if c = '\\' ∨ c < ' ' then none
    else do
      let (ns, rest) ← codes? rest
      return (c.toNat :: ns, rest)

/-- Are the codes the two halves of a pair? -/
def IsPair (high low : Nat) : Prop := 0xd800 ≤ high ∧ high < 0xdc00 ∧ 0xdc00 ≤ low ∧ low < 0xe000

instance (high low : Nat) : Decidable (IsPair high low) :=
  inferInstanceAs (Decidable (_ ∧ _ ∧ _ ∧ _))

/-- The codes with the two halves of each pair joined. -/
def joinPairs : List Nat → List Nat
  | high :: low :: codes =>
    if IsPair high low then pairCode high low :: joinPairs codes
    else high :: joinPairs (low :: codes)
  | codes => codes

/-- Reads a string after its opening quote. -/
def string? (t : Text) : Option (List Nat × Text) :=
  (codes? t).map fun (codes, rest) => (joinPairs codes, rest)

/-- The character of a code.  Half of a pair is kept as a private-use character. -/
def charOf (n : Nat) : Char :=
  if 0xd800 ≤ n ∧ n < 0xe000 then Char.ofNat (0x100000 + n) else Char.ofNat n

/-- The text of a string. -/
def textOf (codes : List Nat) : Text := codes.map charOf

/-! ## Numbers -/

/-- Is the character a decimal digit? -/
def isDigit (c : Char) : Bool := '0' ≤ c && c ≤ '9'

/-- Reads the whole part of a number: a zero, or digits that do not begin with one. -/
def wholePart? : Text → Option (Text × Text)
  | '0' :: rest => some (['0'], rest)
  | t => run? isDigit t

/-- Reads the fraction of a number, if there is one. -/
def fractionPart : Text → Text × Text
  | '.' :: t =>
    match run? isDigit t with
    | some (ds, rest) => ('.' :: ds, rest)
    | none => ([], '.' :: t)
  | t => ([], t)

/-- The sign of an exponent, if there is one. -/
def exponentSign : Text → Text × Text
  | '+' :: t => (['+'], t)
  | '-' :: t => (['-'], t)
  | t => ([], t)

/-- Reads the exponent of a number, if there is one. -/
def exponentPart : Text → Text × Text
  | [] => ([], [])
  | e :: t =>
    if e = 'e' ∨ e = 'E' then
      match run? isDigit (exponentSign t).2 with
      | some (ds, rest) => (e :: (exponentSign t).1 ++ ds, rest)
      | none => ([], e :: t)
    else ([], e :: t)

/-- Reads a number without its sign.  An integer has a bounded number of digits. -/
def magnitude? (t : Text) : Option (Text × Text) := do
  let (whole, t) ← wholePart? t
  let (fraction, t) := fractionPart t
  let (exponent, t) := exponentPart t
  if fraction = [] ∧ exponent = [] ∧ digitLimit < whole.length then none
  else return (whole ++ fraction ++ exponent, t)

/-- Reads a number. -/
def number? : Text → Option (Text × Text)
  | '-' :: t => (magnitude? t).map fun (literal, rest) => ('-' :: literal, rest)
  | t => magnitude? t

/-- The values that are written by a name. -/
def namedValues : List (Text × Json) :=
  [("null".toList, null), ("true".toList, bool true), ("false".toList, bool false),
   ("NaN".toList, number "NaN".toList), ("Infinity".toList, number "Infinity".toList),
   ("-Infinity".toList, number "-Infinity".toList)]

/-- Reads a value that is written by a name. -/
def named? (t : Text) : Option (Json × Text) :=
  namedValues.findSome? fun (name, v) => (after? name t).map fun rest => (v, rest)

/-- Reads a value that holds no other values. -/
def plain? : Text → Option (Json × Text)
  | '"' :: t => (string? t).map fun (s, rest) => (string s, rest)
  | t =>
    match named? t with
    | some read => some read
    | none => (number? t).map fun (literal, rest) => (number literal, rest)

/-- Reads the name of a field and the colon behind it. -/
def fieldName? (t : Text) : Option (Text × Text) := do
  let t ← after? ['"'] t
  let (name, t) ← string? t
  let t ← after? [':'] (dropGap t)
  return (textOf name, dropGap t)

/-! ## Values

The first argument bounds the recursion; the second says how many more arrays and objects may be
opened. -/

mutual

/-- Reads a value. -/
def value : Nat → Nat → Text → Except Fault (Json × Text)
  | 0, _, _ => .error .malformed
  | _ + 1, 0, '[' :: _ => .error (.tooDeep .array)
  | _ + 1, 0, '{' :: _ => .error (.tooDeep .object)
  | n + 1, room + 1, '[' :: t =>
    match dropGap t with
    | ']' :: rest => .ok (array [], rest)
    | t => do
      let (vs, rest) ← items n room t
      return (array vs, rest)
  | n + 1, room + 1, '{' :: t =>
    match dropGap t with
    | '}' :: rest => .ok (object [], rest)
    | t => do
      let (fs, rest) ← fields n room t
      return (object fs, rest)
  | _ + 1, _, t => found (plain? t)

/-- Reads the items of an array, at least one, and its closing bracket. -/
def items : Nat → Nat → Text → Except Fault (List Json × Text)
  | 0, _, _ => .error .malformed
  | n + 1, room, t => do
    let (v, rest) ← value n room t
    match dropGap rest with
    | ']' :: rest => return ([v], rest)
    | ',' :: rest =>
      let (vs, rest) ← items n room (dropGap rest)
      return (v :: vs, rest)
    | _ => .error .malformed

/-- Reads the fields of an object, at least one, and its closing bracket. -/
def fields : Nat → Nat → Text → Except Fault (List (Text × Json) × Text)
  | 0, _, _ => .error .malformed
  | n + 1, room, t => do
    let (name, t) ← found (fieldName? t)
    let (v, rest) ← value n room t
    match dropGap rest with
    | '}' :: rest => return ([(name, v)], rest)
    | ',' :: rest =>
      let (fs, rest) ← fields n room (dropGap rest)
      return ((name, v) :: fs, rest)
    | _ => .error .malformed

end

/-- The value that a text is written for.  No more than two steps of the recursion are taken for each
character. -/
def ofText (t : Text) : Except Fault Json := do
  let (v, rest) ← value (2 * t.length + 2) nestingLimit (dropGap t)
  if dropGap rest = [] then return v else .error .malformed

end RelationAtlas.Json
