import RelationAtlas.Text.Basic

/-!
# Lines

A file may end its lines with a line feed, a carriage return, or both.  Once read, every line ends
with a single line feed (`unifyLineEnds`).  Lines are counted by a wider notion of line boundary,
the one an editor uses to number them: besides the usual ends it knows the vertical tab, the form
feed, the information separators and the line and paragraph separators.
-/

namespace RelationAtlas.Text

/-- The text with every carriage return, and every carriage return followed by a line feed, turned
into one line feed. -/
def unifyLineEnds : Text → Text
  | [] => []
  | '\r' :: '\n' :: cs => '\n' :: unifyLineEnds cs
  | c :: cs => (if c = '\r' then '\n' else c) :: unifyLineEnds cs

/-- A text without carriage returns keeps its line ends. -/
theorem unifyLineEnds_eq_self {t : Text} (h : '\r' ∉ t) : unifyLineEnds t = t := by
  fun_induction unifyLineEnds t with
  | case1 => rfl
  | case2 cs => simp at h
  | case3 c cs hne ih =>
    have hc : c ≠ '\r' := fun hc => h (by simp [hc])
    simp [hc, ih fun hcs => h (by simp [hcs])]

/-- Does the character end a line? -/
def isLineEnd (c : Char) : Bool :=
  c = '\n' || c = '\x0b' || c = '\x0c' || c = '\r' || c = '\x1c' || c = '\x1d' || c = '\x1e'
    || c = '\u0085' || c = '\u2028' || c = '\u2029'

/-- Counts the lines of a text; `pending` says that a line has been begun before it. -/
def countLines (pending : Bool) : Text → Nat
  | [] => if pending then 1 else 0
  | '\r' :: '\n' :: cs => countLines false cs + 1
  | c :: cs => if isLineEnd c then countLines false cs + 1 else countLines true cs

/-- The number of lines of a text; a final line end begins no further line. -/
def lineCount (t : Text) : Nat := countLines false t

/-- The lines of a text, cut at line feeds; a final line feed begins no further line. -/
def lines (t : Text) : List Text :=
  match (split '\n' t).reverse with
  | [] :: rest => rest.reverse
  | pieces => pieces.reverse

end RelationAtlas.Text
