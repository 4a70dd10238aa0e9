import RelationAtlas.Encoding.Utf8

/-!
# Paths

A path is a text whose names are separated by slashes.  A path that begins with a slash starts at
the root, any other one at the working directory.

A *location* is where a path leads: the names from the root down, without links and without the
names for "here" and "up".  The absolute form of a path is reached by calculation alone
(`absolute`); whether anything is there, and whether links lead elsewhere, is not looked at.
-/

namespace RelationAtlas

/-- The names from the root down to some place. -/
abbrev Location := List Text

namespace Path

/-- The name of the directory one is in. -/
def here : Text := ['.']

/-- The name of the directory above. -/
def up : Text := ['.', '.']

/-- The empty name, which stands behind a final slash. -/
def afterSlash : Text := []

/-- Does the path start at the root? -/
def isAbsolute (p : Text) : Bool := p.head? == some '/'

/-- Does the path end with a slash? -/
def hasFinalSlash (p : Text) : Bool := p.getLast? == some '/'

/-- The names in a path; slashes that follow one another count as one. -/
def names (p : Text) : List Text := (Text.split '/' p).filter (· ≠ [])

/-- The steps that a path asks for: its names, and after a final slash one more step that stays
where it is, so that a final slash asks for a directory. -/
def steps (p : Text) : List Text := names p ++ if hasFinalSlash p then [afterSlash] else []

/-- One name taken up into a location by calculation. -/
def follow (l : Location) (name : Text) : Location :=
  if name = here then l else if name = up then l.dropLast else l ++ [name]

/-- The location of a path by calculation. -/
def locate (cwd : Location) (p : Text) : Location :=
  (names p).foldl follow (if isAbsolute p then [] else cwd)

/-- The slashes at the front of an absolute path: one, unless the path begins with exactly two. -/
def rootText (p : Text) : Text :=
  match p with
  | '/' :: '/' :: '/' :: _ => ['/']
  | '/' :: '/' :: _ => ['/', '/']
  | _ => ['/']

/-- The text of a location below the given root. -/
def render (root : Text) (l : Location) : Text := root ++ Text.join ['/'] l

/-- The absolute form of a path. -/
def absolute (cwd : Location) (p : Text) : Text := render (rootText p) (locate cwd p)

/-- The text of a path that leads by the given names, from the root or the working directory as `p`
does. -/
def ofNames (p : Text) (names : List Text) : Text :=
  if isAbsolute p then render (rootText p) names
  else if names.isEmpty then here
  else Text.join ['/'] names

/-- The names that lead to the directory that a path leads into, without detours through "here". -/
def parentNames (p : Text) : List Text := ((names p).filter (· ≠ here)).dropLast

/-- The path of something below a directory that is given by an absolute path. -/
def below (base : Text) (names : List Text) : Text :=
  if names.isEmpty then base
  else if hasFinalSlash base then base ++ Text.join ['/'] names
  else base ++ '/' :: Text.join ['/'] names

/-- The most bytes that a name can have. -/
def nameLimit : Nat := 255

/-- The most bytes that a path can have. -/
def pathLimit : Nat := 4095

/-- Can something be called by the name?  A name is not empty, is none of the words for "here" and
"up", holds neither a slash nor the character that no path may hold, and is not too long. -/
structure IsName (name : Text) : Prop where
  ne_afterSlash : name ≠ afterSlash
  ne_here : name ≠ here
  ne_up : name ≠ up
  slash_notMem : '/' ∉ name
  nul_notMem : '\x00' ∉ name
  size_le : Utf8.size name ≤ nameLimit

/-- What makes a name, as one formula. -/
theorem isName_iff {name : Text} : IsName name ↔
    name ≠ afterSlash ∧ name ≠ here ∧ name ≠ up ∧ '/' ∉ name ∧ '\x00' ∉ name ∧
      Utf8.size name ≤ nameLimit :=
  ⟨fun ⟨h1, h2, h3, h4, h5, h6⟩ => ⟨h1, h2, h3, h4, h5, h6⟩,
    fun ⟨h1, h2, h3, h4, h5, h6⟩ => ⟨h1, h2, h3, h4, h5, h6⟩⟩

instance (name : Text) : Decidable (IsName name) := decidable_of_iff' _ isName_iff

end Path

end RelationAtlas
