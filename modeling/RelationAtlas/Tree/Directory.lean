import RelationAtlas.Tree.Disk

/-!
# Making directories

A directory can be made together with the directories on the way to it, and nothing is wrong if it
is there already.  There are two ways to go about it.

* `makeDirectory` asks for the directory itself first, and for the one above it only where something
  on the way is missing.
* `completeParent` asks first whether the one above it is there.  What it meets in the place of a
  directory on the way is noticed at the next directory below.

Either way what has been made stays, also when the end is not reached, so both give the disk and the
fault side by side.  Both go through the names of the path from the last one to the first.
-/

namespace RelationAtlas

/-- A fault and the path at which it was met. -/
abbrev Obstacle := FileFault × Text

namespace Disk

/-- What is made of a fault in making a directory: none if the directory is there. -/
def unlessThere (d : Disk) (path : Text) (f : FileFault) : Option Obstacle :=
  match d.reach path with
  | .ok (_, .directory) => none
  | .ok _ => some (f, path)
  | .error g => some (if g.meansAbsent then f else g, path)

/-- Makes a directory whose parents are there. -/
def makeLast (d : Disk) (path : Text) : Disk × Option Obstacle :=
  match d.makeOne path with
  | .ok d => (d, none)
  | .error f => (d, d.unlessThere path f)

/-- Makes the directory at a path that is given by its names, the last one first, and the directories
above it where something is missing. -/
def makeUpwards (d : Disk) (base : Text) : List Text → Disk × Option Obstacle
  | [] => d.makeLast (Path.ofNames base [])
  | name :: above =>
    let path := Path.ofNames base (name :: above).reverse
    match d.makeOne path with
    | .error .notFound =>
      match makeUpwards d base above with
      | (d, none) => d.makeLast path
      | blocked => blocked
    | _ => d.makeLast path

/-- Makes the directory at a path that is given by its names, the last one first, after the ones above
it that are not there. -/
def completeUpwards (d : Disk) (base : Text) : List Text → Disk × Option Obstacle
  | [] => (d, none)
  | name :: above =>
    let path := Path.ofNames base (name :: above).reverse
    let (d, obstacle) :=
      if (d.reach (Path.ofNames base above.reverse)).toOption.isSome then (d, none)
      else completeUpwards d base above
    match obstacle with
    | none | some (.occupied, _) =>
      match d.makeOne path with
      | .ok d => (d, none)
      | .error f => (d, if d.isDirectory path then none else some (f, path))
    | obstacle => (d, obstacle)

/-- Makes a directory, and the directories above it where something is missing. -/
def makeDirectory (d : Disk) (path : Text) : Disk × Option Obstacle :=
  d.makeUpwards path ((Path.names path).filter (· ≠ Path.here)).reverse

/-- Makes the directory that a path leads into. -/
def makeParent (d : Disk) (path : Text) : Disk × Option Obstacle :=
  d.makeUpwards path (Path.parentNames path).reverse

/-- Makes the directory that an absolute path leads into, after the ones above it that are not
there. -/
def completeParent (d : Disk) (path : Text) : Disk × Option Obstacle :=
  d.completeUpwards path (Path.parentNames path).reverse

end Disk

end RelationAtlas
