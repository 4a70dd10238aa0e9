import RelationAtlas.Text.Quoted

/-!
# File system faults

What can go wrong when a path is followed or a file is opened.  Each fault has the number and the
wording by which systems report it, and a report ends with the path that was asked for.
-/

namespace RelationAtlas

/-- A reason why a path cannot be followed or used. -/
inductive FileFault where
  | notFound
  | occupied
  | notDirectory
  | isDirectory
  | nameTooLong
  | tooManyLinks
  deriving DecidableEq, Repr

namespace FileFault

/-- The number of the fault. -/
def code : FileFault → Nat
  | notFound => 2
  | occupied => 17
  | notDirectory => 20
  | isDirectory => 21
  | nameTooLong => 36
  | tooManyLinks => 40

/-- The fault in words. -/
def wording : FileFault → Text
  | notFound => "No such file or directory".toList
  | occupied => "File exists".toList
  | notDirectory => "Not a directory".toList
  | isDirectory => "Is a directory".toList
  | nameTooLong => "File name too long".toList
  | tooManyLinks => "Too many levels of symbolic links".toList

/-- Does the fault only mean that nothing is there? -/
def meansAbsent : FileFault → Bool
  | notFound | notDirectory | tooManyLinks => true
  | _ => false

/-- The report of a fault met at a path. -/
def report (f : FileFault) (path : Text) : Text :=
  "[Errno ".toList ++ Text.ofNat f.code ++ "] ".toList ++ f.wording ++ ": ".toList
    ++ Text.quoted path

end FileFault

end RelationAtlas
