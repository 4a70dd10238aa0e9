import RelationAtlas.Tree.Basic
import RelationAtlas.Tree.Fault

/-!
# Following paths

Following a path means taking its steps one after another from some location.  A step into a link
goes on with the path that the link holds, so a walk may come back to where it was; it is given up
after a fixed number of links.

A final slash asks for a directory, which is never the place of a file: a walk that ends at a file to
be written is refused there, before it is known whether the name in front of the slash stands for
anything.

`walkWith` takes the steps up to the first link and leaves that link to its argument, and `walk`
closes the knot: the walk behind a link may meet one link less.
-/

namespace RelationAtlas

/-- Where a walk ends: at something, or at a place in a directory where there is nothing. -/
inductive Landing where
  | found (l : Location)
  | vacant (l : Location)
  deriving DecidableEq, Repr

/-- What a path is followed for. -/
inductive Purpose where
  | look
  | write
  deriving DecidableEq, Repr

namespace FileTree

/-- The most links that a walk follows. -/
def linkLimit : Nat := 40

/-- Takes steps from a location.  A link is handed over together with the location it is in, as the
location to go on from and the steps to take from there. -/
def walkWith (t : FileTree) (purpose : Purpose)
    (onLink : Location → List Text → Except FileFault Landing) :
    Location → List Text → Except FileFault Landing
  | l, [] => .ok (.found l)
  | l, name :: rest =>
    if t.get? l ≠ some .directory then .error .notDirectory
    else if purpose = .write ∧ rest = [Path.afterSlash] then .error .isDirectory
    else if name = Path.afterSlash ∨ name = Path.here then walkWith t purpose onLink l rest
    else if name = Path.up then walkWith t purpose onLink l.dropLast rest
    else if Path.nameLimit < Utf8.size name then .error .nameTooLong
    else match t.get? (l ++ [name]) with
      | none => if rest = [] then .ok (.vacant (l ++ [name])) else .error .notFound
      | some (.link target) =>
        onLink (if Path.isAbsolute target then [] else l) (Path.steps target ++ rest)
      | some _ => walkWith t purpose onLink (l ++ [name]) rest

/-- Takes steps from a location and follows at most the given number of links. -/
def walk (t : FileTree) (purpose : Purpose) :
    Nat → Location → List Text → Except FileFault Landing
  | 0 => t.walkWith purpose fun _ _ => .error .tooManyLinks
  | n + 1 => t.walkWith purpose (t.walk purpose n)

/-- Takes steps from a location to something that is there. -/
def reach (t : FileTree) (l : Location) (names : List Text) :
    Except FileFault (Location × Entry) := do
  match ← t.walk .look linkLimit l names with
  | .vacant _ => .error .notFound
  | .found l =>
    match t.get? l with
    | some e => .ok (l, e)
    | none => .error .notFound

/-- The walk that takes no step stays where it is. -/
@[simp] theorem walk_nil (t : FileTree) (purpose : Purpose) (n : Nat) (l : Location) :
    t.walk purpose n l [] = .ok (.found l) := by
  cases n <;> rfl

/-- A step into a file or directory goes on from there. -/
theorem walk_cons_of_get? {t : FileTree} {n : Nat} {l : Location} {name : Text} {rest : List Text}
    {e : Entry} (hdir : t.get? l = some .directory) (hname : name ≠ Path.afterSlash)
    (hhere : name ≠ Path.here) (hup : name ≠ Path.up) (hsize : Utf8.size name ≤ Path.nameLimit)
    (hentry : t.get? (l ++ [name]) = some e) (hlink : ∀ target, e ≠ .link target) :
    t.walk .look n l (name :: rest) = t.walk .look n (l ++ [name]) rest := by
  have hsize' : ¬ Path.nameLimit < Utf8.size name := Nat.not_lt.mpr hsize
  cases e with
  | link target => exact absurd rfl (hlink target)
  | file bytes => cases n <;> simp [walk, walkWith, hdir, hname, hhere, hup, hsize', hentry]
  | directory => cases n <;> simp [walk, walkWith, hdir, hname, hhere, hup, hsize', hentry]

end FileTree

end RelationAtlas
