import RelationAtlas.Assoc
import RelationAtlas.Source.Name
import RelationAtlas.Text.Blank

/-!
# Imports

A file imports names from other namespaces so that it can use them by their last segment, their
*alias*.  An import begins at the start of a line and ends at the next semicolon, so the semicolons
cut the file into statements of which each but the last, unfinished one holds at most one import.

Imports that rename what they import are not understood: the alias is the raw text after the last
separator.
-/

namespace RelationAtlas

/-- The imported names by their aliases, in the order in which the aliases were first declared. -/
abbrev ImportTable := Assoc Text Text

/-! ## Import statements -/

namespace Import

open Text

/-- The path that is imported by a statement whose front is given: the introducing word, a blank,
and then at least one more character. -/
def path? (t : Text) : Option Text :=
  match after? "use".toList (dropBlanks t) with
  | some (b :: c :: cs) => if isBlank b then some (trim (c :: cs)) else none
  | _ => none

/-- The path that is imported by a statement, the semicolon at its end taken off.  The first
argument says whether a line starts at the front. -/
def statementPath? : Bool → Text → Option Text
  | _, [] => none
  | lineStart, c :: cs =>
    match if lineStart then path? (c :: cs) else none with
    | some path => some path
    | none => statementPath? (c = '\n') cs

/-- The finished statements of a file, each with the answer to whether it starts a line. -/
def statements (t : Text) : List (Bool × Text) :=
  match (split ';' t).dropLast with
  | [] => []
  | s :: rest => (true, s) :: rest.map fun s => (false, s)

/-- The imported paths in the order of the file. -/
def paths (t : Text) : List Text :=
  (statements t).filterMap fun (lineStart, s) => statementPath? lineStart s

/-- One more import; a path without a last segment imports nothing. -/
def add (table : ImportTable) (path : Text) : ImportTable :=
  match Name.lastSegment path with
  | [] => table
  | shortName => table.put shortName path

/-- The import table of a file. -/
def table (t : Text) : ImportTable := (paths t).foldl add []

end Import

end RelationAtlas
