import RelationAtlas.Discovery.Wildcard
import RelationAtlas.Tree.Path

/-!
# Path patterns

A pattern says where to look for files below a directory.  Its components are separated by slashes:
a plain name, a wildcard for one name, or a double star for any number of directories.  A final slash
asks for directories.
-/

namespace RelationAtlas

/-- A component of a pattern: any number of directories, a name that a wildcard describes, the name
itself, or the directory reached so far. -/
inductive Component where
  | anyDepth
  | wild (pieces : List Wildcard.Piece)
  | name (n : Text)
  | self
  deriving DecidableEq, Repr

/-- The components of a pattern. -/
abbrev Pattern := List Component

/-- Why a text is no pattern: it is empty, it begins with a slash, a double star stands beside other
characters, or it has no component, with or without a final slash. -/
inductive PatternFault where
  | empty
  | rooted
  | mixed
  | noComponent
  | onlySelf
  deriving DecidableEq, Repr

/-- The fault in words. -/
def PatternFault.message : PatternFault → Text
  | empty => "Unacceptable pattern: ''".toList
  | rooted => "Non-relative patterns are unsupported".toList
  | mixed => "Invalid pattern: '**' can only be an entire path component".toList
  | noComponent => "tuple index out of range".toList
  | onlySelf => "'_TerminatingSelector' object has no attribute 'select_from'".toList

namespace Pattern

/-- The component for any number of directories. -/
def doubleStar : Text := ['*', '*']

/-- Does the text hold a double star? -/
def holdsDoubleStar : Text → Bool
  | '*' :: '*' :: _ => true
  | _ :: cs => holdsDoubleStar cs
  | [] => false

/-- Is the character special in a wildcard? -/
def isSpecial (c : Char) : Bool := c = '*' || c = '?' || c = '['

/-- The component that a text stands for. -/
def component (t : Text) : Except PatternFault Component :=
  if t = doubleStar then .ok .anyDepth
  else if holdsDoubleStar t then .error .mixed
  else if t.any isSpecial then .ok (.wild (Wildcard.pieces t))
  else .ok (.name t)

/-- The pattern that a text stands for. -/
def ofText (t : Text) : Except PatternFault Pattern := do
  if t = [] then .error .empty
  else if Path.isAbsolute t then .error .rooted
  else
    let cs ← ((Path.names t).filter (· ≠ Path.here)).mapM component
    if Path.hasFinalSlash t then
      if cs = [] then .error .onlySelf else return cs ++ [.self]
    else if cs = [] then .error .noComponent
    else return cs

end Pattern

end RelationAtlas
