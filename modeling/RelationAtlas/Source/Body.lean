import RelationAtlas.Text.Basic

/-!
# Method bodies

A body begins with its opening brace and ends with the brace that balances it.  Braces inside quoted
strings and inside comments do not count.  A body that is never balanced runs to the end of the text
it is looked for in.
-/

namespace RelationAtlas.Body

/-- What the text at some place of a body belongs to: code, where braces count, a string between
quotes of a sort, or one of the two sorts of comments. -/
inductive Mode where
  | code
  | quoted (quote : Char)
  | blockComment
  | lineComment
  deriving DecidableEq, Repr

/-- The part of a text that still belongs to the body, in the given mode and with the given number
of open braces. -/
def extent : Mode → Nat → Text → Text
  | _, _, [] => []
  | .quoted _, _, ['\\'] => ['\\']
  | .quoted q, depth, '\\' :: c :: cs => '\\' :: c :: extent (.quoted q) depth cs
  | .quoted q, depth, c :: cs =>
    c :: extent (if c = q then .code else .quoted q) depth cs
  | .blockComment, depth, '*' :: '/' :: cs => '*' :: '/' :: extent .code depth cs
  | .blockComment, depth, c :: cs => c :: extent .blockComment depth cs
  | .lineComment, depth, c :: cs =>
    c :: extent (if c = '\n' then .code else .lineComment) depth cs
  | .code, depth, '/' :: '*' :: cs => '/' :: '*' :: extent .blockComment depth cs
  | .code, depth, '/' :: '/' :: cs => '/' :: '/' :: extent .lineComment depth cs
  | .code, depth, c :: cs =>
    if c = '\'' ∨ c = '"' then c :: extent (.quoted c) depth cs
    else if c = '#' then c :: extent .lineComment depth cs
    else if c = '{' then c :: extent .code (depth + 1) cs
    else if c = '}' then
      if depth = 1 then [c] else c :: extent .code (depth - 1) cs
    else c :: extent .code depth cs

/-- The body at the front of a text that begins with an opening brace. -/
def ofText (t : Text) : Text := extent .code 0 t

/-- A body is a front part of the text it is looked for in. -/
theorem extent_prefix (m : Mode) (depth : Nat) (t : Text) : extent m depth t <+: t := by
  fun_induction extent m depth t <;> simp_all [List.prefix_cons_iff]

end RelationAtlas.Body
