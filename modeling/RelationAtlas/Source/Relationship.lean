import RelationAtlas.Source.Body
import RelationAtlas.Source.Call
import RelationAtlas.Source.Method

/-!
# Declared relationships

The relationships of a file are the relationship calls in the bodies of its methods, in the order of
the file.  Their targets are left as they are written.
-/

namespace RelationAtlas

/-- A relationship as a file declares it. -/
structure Relationship where
  method : Text
  kind : RelationKind
  target : Text
  deriving DecidableEq, Repr

namespace Relationship

/-- The relationships of one method, read with the given order of kinds. -/
def ofMethodWith (kinds : List RelationKind) (m : Method) : List Relationship :=
  (Call.allWith kinds (Body.ofText m.span)).map fun c => ⟨m.name, c.kind, c.target⟩

/-- The relationships of a file, read with the given order of kinds. -/
def ofTextWith (kinds : List RelationKind) (t : Text) : List Relationship :=
  (Method.ofText t).flatMap (ofMethodWith kinds)

/-- The relationships of a file. -/
def ofText (t : Text) : List Relationship := ofTextWith RelationKind.all t

end Relationship

end RelationAtlas
