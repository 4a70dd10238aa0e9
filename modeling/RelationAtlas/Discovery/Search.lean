import RelationAtlas.Discovery.Pattern
import RelationAtlas.Tree.Disk

/-!
# Finding model files

Model files are looked for below a root directory by a list of patterns.  A pattern is expanded
component by component, and each step is checked against the disk: a component that is not the last
one has to lead to a directory.  What a double star stands for is found without going through links,
though the links on the way may be looked behind; all other steps follow links.  A path that is too
long to be followed stops the search, and so does a name that is too long.

Of what the patterns lead to, the files are kept, except those below a directory with an excluded
name.  The result lists each path once, in the order of code points.
-/

namespace RelationAtlas

/-- Why the search for model files fails. -/
inductive SearchFault where
  | noRoot (root : Text)
  | badPattern (f : PatternFault)
  | blocked (f : FileFault) (path : Text)
  deriving DecidableEq, Repr

/-- The fault in words. -/
def SearchFault.message : SearchFault → Text
  | noRoot root => "Invalid project root: ".toList ++ root
  | badPattern f => f.message
  | blocked f path => f.report path

namespace Search

/-- All results for the members of a list, or the first fault. -/
def collect {α β : Type} (items : List α) (f : α → Except SearchFault (List β)) :
    Except SearchFault (List β) :=
  match items with
  | [] => .ok []
  | a :: rest => do return (← f a) ++ (← collect rest f)

/-- Is the path below the base at the given names too long to be followed? -/
def isTooLong (base : Text) (names : List Text) : Bool :=
  Path.pathLimit < Utf8.size (Path.below base names)

/-- What is below the base at the given names. -/
def probe (d : Disk) (base : Text) (names : List Text) : Except SearchFault (Option Entry) :=
  if names.any Disk.hasNul then .ok none
  else if isTooLong base names then .error (.blocked .nameTooLong (Path.below base names))
  else match d.tree.reach [] (Path.names base ++ names) with
    | .ok (_, e) => .ok (some e)
    | .error f => if f.meansAbsent then .ok none else .error (.blocked f (Path.below base names))

/-- What is listed in the directory below the base at the given names: each name with what is
there. -/
def listing (d : Disk) (base : Text) (names : List Text) :
    Except SearchFault (List (Text × Entry)) :=
  if isTooLong base names then .error (.blocked .nameTooLong (Path.below base names))
  else match d.tree.reach [] (Path.names base ++ names) with
    | .ok (l, .directory) =>
      .ok ((d.tree.namesIn l).filterMap fun n => (d.tree.get? (l ++ [n])).map fun e => (n, e))
    | _ => .ok []

/-- Does a name that is listed in the directory below the base at the given names lead to a
directory?  Only links are followed to tell. -/
def leadsToDirectory (d : Disk) (base : Text) (names : List Text) :
    Text × Entry → Except SearchFault Bool
  | (n, .link _) => (probe d base (names ++ [n])).map (· = some .directory)
  | (_, e) => .ok (e = .directory)

/-- The ways down from the directory below the base at the given names. -/
def descents (d : Disk) (base : Text) (names : List Text) : List (List Text) :=
  match d.tree.reach [] (Path.names base ++ names) with
  | .ok (l, .directory) => d.tree.directoriesBelow l
  | _ => [[]]

/-- Looks through the directory below the base at the given names, and behind the links that are listed
there if the disk does so. -/
def survey (d : Disk) (base : Text) (names : List Text) : Except SearchFault Unit := do
  let items ← listing d base names
  if d.looksBehindLinks then
    items.forM fun item => do
      let _ ← leadsToDirectory d base names item

/-- What is taken of everything that a pattern leads to from the given names below the base.  A
directory that a double star stands for is looked through after what it leads to has been taken. -/
def expand (d : Disk) (base : Text) (pick : List Text → Except SearchFault (List Text)) :
    Pattern → List Text → Except SearchFault (List Text)
  | [], names => pick names
  | .self :: _, names => pick names
  | .name n :: rest, names => do
    let e ← probe d base (names ++ [n])
    if if rest.isEmpty then e.isSome else e = some .directory then
      expand d base pick rest (names ++ [n])
    else .ok []
  | .wild pieces :: rest, names => do
    collect (← listing d base names) fun item => do
      let goesOn ← if rest.isEmpty then .ok true else leadsToDirectory d base names item
      if goesOn && Wildcard.describes pieces item.1 then expand d base pick rest (names ++ [item.1])
      else .ok []
  | .anyDepth :: rest, names =>
    collect (descents d base names) fun down => do
      let taken ← expand d base pick rest (names ++ down)
      survey d base (names ++ down)
      return taken

/-- Is the path below a directory with an excluded name? -/
def isExcluded (excluded names : List Text) : Bool := names.dropLast.any excluded.contains

/-- The file below the base at the given names, if there is one that is not excluded. -/
def pickFile (d : Disk) (base : Text) (excluded names : List Text) :
    Except SearchFault (List Text) := do
  match ← probe d base names with
  | some (.file _) => return if isExcluded excluded names then [] else [Path.below base names]
  | _ => return []

/-- The files that one pattern finds below the base. -/
def filesOf (d : Disk) (base : Text) (excluded : List Text) (pattern : Text) :
    Except SearchFault (List Text) := do
  let p ← (Pattern.ofText pattern).mapError .badPattern
  if (← probe d base []) ≠ some .directory then .ok []
  else expand d base (pickFile d base excluded) p []

/-- The model files below a root, by their absolute paths. -/
def modelFiles (d : Disk) (root : Text) (patterns excluded : List Text) :
    Except SearchFault (List Text) :=
  if d.isDirectory root then
    (collect patterns (filesOf d (d.absolute root) excluded)).map Text.sorted
  else .error (.noRoot root)

end Search

end RelationAtlas
