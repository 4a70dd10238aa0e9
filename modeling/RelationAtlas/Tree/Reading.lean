import RelationAtlas.Encoding.Registry
import RelationAtlas.Text.Lines
import RelationAtlas.Tree.Disk

/-!
# Reading text files

A file is read in three stages: the path is followed, the encoding is looked up by its name, and the
bytes are decoded.  The first stage that fails decides.  Line ends are unified in what has been
read.

A file that cannot be opened or decoded is *unreadable*, and whoever reads many files passes over
it.  A NUL in the path or in the name of the encoding, an encoding that is not known and a codec that
fails in a way of its own are faults of the request and not of the file; a NUL is noticed before
anything is opened.
-/

namespace RelationAtlas

/-- Why a file cannot be read although the request makes sense. -/
inductive Unreadable where
  | unopened (f : FileFault)
  | undecodable (f : DecodeFault)
  deriving DecidableEq, Repr

/-- Why a request to read a file fails. -/
inductive ReadFault where
  | unreadable (path : Text) (why : Unreadable)
  | nulInPath
  | nulInEncoding
  | unknownEncoding (name : Text)
  | codecFailed (f : CodecFailure)
  deriving DecidableEq, Repr

/-- The reason in words. -/
def Unreadable.message (path : Text) : Unreadable → Text
  | .unopened f => f.report path
  | .undecodable f => f.message

/-- The fault in words. -/
def ReadFault.message : ReadFault → Text
  | .unreadable path why => "Cannot read ".toList ++ path ++ ": ".toList ++ why.message path
  | .nulInPath => "embedded null byte".toList
  | .nulInEncoding => "embedded null character".toList
  | .unknownEncoding name => "unknown encoding: ".toList ++ name
  | .codecFailed f => f.message

/-- The text of the file at a path, in an encoding given by its name. -/
def Disk.read (d : Disk) (codecs : Codecs) (path encoding : Text) : Except ReadFault Text :=
  if encoding.contains '\x00' then .error .nulInEncoding
  else if Disk.hasNul path then .error .nulInPath
  else match d.bytes path with
    | .error f => .error (.unreadable path (.unopened f))
    | .ok bytes =>
      match codecs.codec? encoding with
      | none => .error (.unknownEncoding encoding)
      | some codec =>
        match codec bytes with
        | .error (.undecodable f) => .error (.unreadable path (.undecodable f))
        | .error (.failed f) => .error (.codecFailed f)
        | .ok t => .ok (Text.unifyLineEnds t)

end RelationAtlas
