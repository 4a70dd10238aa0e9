import RelationAtlas.Text.Basic

/-!
# Structured values and how they are written

A structured value is written over several lines, two spaces deeper at each level, and with
characters of the first block only: every other character, and every character that is not
printable there, is written by the code of its one or two sixteen-bit units.

A string is a list of codes.  There are more codes than characters, because the halves of pairs of
units have codes of their own, so every text gives a string (`Json.codesOf`), and there are strings that
no text gives.

Numbers are kept as they are written.
-/

namespace RelationAtlas

/-- A structured value. -/
inductive Json where
  | null
  | bool (b : Bool)
  | number (literal : Text)
  | string (codes : List Nat)
  | array (items : List Json)
  | object (fields : List (Text × Json))
  deriving Inhabited

namespace Json

/-! ## Strings -/

/-- The codes of the characters of a text. -/
def codesOf (t : Text) : List Nat := t.map Char.toNat

/-- The sixteen-bit units of a code. -/
def units (n : Nat) : List Nat :=
  if n < 0x10000 then [n]
  else [0xd800 + (n - 0x10000) / 0x400, 0xdc00 + (n - 0x10000) % 0x400]

/-- A sixteen-bit unit as it is written. -/
def unitText (n : Nat) : Text := '\\' :: 'u' :: Text.hex 4 n

/-- A code as it is written inside a string. -/
def escape (n : Nat) : Text :=
  if n = '"'.toNat ∨ n = '\\'.toNat then ['\\', Char.ofNat n]
  else if n = '\n'.toNat then ['\\', 'n']
  else if n = '\r'.toNat then ['\\', 'r']
  else if n = '\t'.toNat then ['\\', 't']
  else if n = '\x0c'.toNat then ['\\', 'f']
  else if n = '\x08'.toNat then ['\\', 'b']
  else if ' '.toNat ≤ n ∧ n ≤ '~'.toNat then [Char.ofNat n]
  else (units n).flatMap unitText

/-- A string as it is written. -/
def stringText (codes : List Nat) : Text := '"' :: codes.flatMap escape ++ ['"']

/-! ## Values -/

/-- The indentation of a level. -/
def indent (depth : Nat) : Text := List.replicate (2 * depth) ' '

/-- Members between brackets, one on each line; without members the brackets stand together. -/
def bracketed (depth : Nat) (opening closing : Char) (members : List Text) : Text :=
  if members.isEmpty then [opening, closing]
  else opening :: '\n' :: Text.join [',', '\n'] (members.map (indent (depth + 1) ++ ·))
    ++ '\n' :: indent depth ++ [closing]

mutual

/-- The text of a value that stands at a level. -/
def textAt (depth : Nat) : Json → Text
  | null => "null".toList
  | bool true => "true".toList
  | bool false => "false".toList
  | number literal => literal
  | string codes => stringText codes
  | array items => bracketed depth '[' ']' (itemTexts (depth + 1) items)
  | object fields => bracketed depth '{' '}' (fieldTexts (depth + 1) fields)

/-- The texts of the items of an array. -/
def itemTexts (depth : Nat) : List Json → List Text
  | [] => []
  | v :: rest => textAt depth v :: itemTexts depth rest

/-- The texts of the fields of an object. -/
def fieldTexts (depth : Nat) : List (Text × Json) → List Text
  | [] => []
  | (k, v) :: rest => (stringText (codesOf k) ++ [':', ' '] ++ textAt depth v) :: fieldTexts depth rest

end

/-- The text of a value. -/
def text (v : Json) : Text := textAt 0 v

end Json

end RelationAtlas
