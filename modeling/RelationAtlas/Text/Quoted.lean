import RelationAtlas.Text.Printable

/-!
# Quoted texts

Messages quote the paths they speak of.  A quoted text stands between single quotes, or between
double quotes when it holds a single quote and no double one.  The quote in use and the backslash
are escaped by a backslash, tab, line feed and carriage return by their letters, and every other
character that is not printable by its code.
-/

namespace RelationAtlas.Text

/-- The quote that a text is written between. -/
def quoteFor (t : Text) : Char := if '\'' ∈ t ∧ '"' ∉ t then '"' else '\''

/-- A character by its code, in the shortest of the three lengths that hold it. -/
def escapeCode (c : Char) : Text :=
  let n := c.toNat
  if n ≤ 0xff then "\\x".toList ++ hex 2 n
  else if n ≤ 0xffff then "\\u".toList ++ hex 4 n
  else "\\U".toList ++ hex 8 n

/-- A character as it is written between the given quotes. -/
def escapeFor (quote c : Char) : Text :=
  if c = quote ∨ c = '\\' then ['\\', c]
  else if c = '\t' then ['\\', 't']
  else if c = '\n' then ['\\', 'n']
  else if c = '\r' then ['\\', 'r']
  else if isPrintable c then [c]
  else escapeCode c

/-- The text between quotes. -/
def quoted (t : Text) : Text :=
  let quote := quoteFor t
  quote :: t.flatMap (escapeFor quote) ++ [quote]

end RelationAtlas.Text
