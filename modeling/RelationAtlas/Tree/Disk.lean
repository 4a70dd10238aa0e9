import RelationAtlas.Tree.Walk

/-!
# The disk

A disk is a file tree seen from a working directory, so that every path leads somewhere.  Here are
the questions one asks about a path and the ways in which one changes what is there.

Releases of the system library differ in one point: some of them look behind every link that they list
on a walk through all directories, and some do not, although neither of them goes there
(`looksBehindLinks`).
-/

namespace RelationAtlas

/-- A file tree, the directory that relative paths start from, and whether a walk through all
directories looks behind the links on its way. -/
structure Disk where
  tree : FileTree
  cwd : Location
  looksBehindLinks : Bool

namespace Disk

/-! ## Following paths -/

/-- Does the path hold the character that no path may hold? -/
def hasNul (path : Text) : Bool := path.contains '\x00'

/-- Where a path starts. -/
def origin (d : Disk) (path : Text) : Location := if Path.isAbsolute path then [] else d.cwd

/-- Where a path leads. -/
def landing (d : Disk) (purpose : Purpose) (path : Text) : Except FileFault Landing :=
  if path = [] then .error .notFound
  else if Path.pathLimit < Utf8.size path then .error .nameTooLong
  else d.tree.walk purpose FileTree.linkLimit (d.origin path) (Path.steps path)

/-- What a path leads to. -/
def reach (d : Disk) (path : Text) : Except FileFault (Location × Entry) := do
  match ← d.landing .look path with
  | .vacant _ => .error .notFound
  | .found l =>
    match d.tree.get? l with
    | some e => .ok (l, e)
    | none => .error .notFound

/-- Does the path lead to a directory? -/
def isDirectory (d : Disk) (path : Text) : Bool :=
  !hasNul path && match d.reach path with
    | .ok (_, .directory) => true
    | _ => false

/-- Does the path lead to a file? -/
def isFile (d : Disk) (path : Text) : Bool :=
  !hasNul path && match d.reach path with
    | .ok (_, .file _) => true
    | _ => false

/-- The absolute form of a path. -/
def absolute (d : Disk) (path : Text) : Text := Path.absolute d.cwd path

/-- The bytes of the file that a path leads to. -/
def bytes (d : Disk) (path : Text) : Except FileFault (List UInt8) := do
  match ← d.reach path with
  | (_, .file bytes) => .ok bytes
  | (_, .directory) => .error .isDirectory
  | (_, .link _) => .error .tooManyLinks

/-! ## Changing the disk -/

/-- The disk with one location set, if that leaves a tree. -/
def put? (d : Disk) (l : Location) (e : Entry) : Except FileFault Disk :=
  if h : d.tree.Accepts l e then .ok { d with tree := d.tree.put l e h }
  else .error .notDirectory

/-- Sets what a file holds, given what it held before.  The path may lead to a file or to a place in a
directory where there is nothing yet. -/
def edit (d : Disk) (path : Text) (change : Option (List UInt8) → List UInt8) :
    Except FileFault Disk := do
  match ← d.landing .write path with
  | .vacant l => d.put? l (.file (change none))
  | .found l =>
    match d.tree.get? l with
    | some (.file old) => d.put? l (.file (change (some old)))
    | _ => .error .isDirectory

/-- Writes a file, which is overwritten if it is there. -/
def write (d : Disk) (path : Text) (bytes : List UInt8) : Except FileFault Disk :=
  d.edit path fun _ => bytes

/-- Adds bytes to the end of a file, which is begun if there is none. -/
def append (d : Disk) (path : Text) (more : List UInt8) : Except FileFault Disk :=
  d.edit path fun old => old.getD [] ++ more

/-- The location that a path names in its directory, where a final link is not followed. -/
def spot (d : Disk) (path : Text) : Except FileFault Location := do
  if Path.pathLimit < Utf8.size path then .error .nameTooLong
  else match (Path.names path).getLast? with
  | none => .error .occupied
  | some name =>
    let (l, e) ← d.tree.reach (d.origin path) (Path.names path).dropLast
    if e ≠ .directory then .error .notDirectory
    else if name = Path.here ∨ name = Path.up then .error .occupied
    else if Path.nameLimit < Utf8.size name then .error .nameTooLong
    else .ok (l ++ [name])

/-- Makes a link that holds a path. -/
def link (d : Disk) (path target : Text) : Except FileFault Disk := do
  let l ← d.spot path
  if (d.tree.get? l).isSome then .error .occupied else d.put? l (.link target)

/-- Takes away a file, a link, or a directory with everything in it. -/
def remove (d : Disk) (path : Text) : Except FileFault Disk := do
  let l ← d.spot path
  if (d.tree.get? l).isSome then .ok { d with tree := d.tree.prune l } else .error .notFound

/-- Makes a directory in a directory that is there. -/
def makeOne (d : Disk) (path : Text) : Except FileFault Disk := do
  let l ← d.spot path
  if (d.tree.get? l).isSome then .error .occupied else d.put? l .directory

end Disk

end RelationAtlas
