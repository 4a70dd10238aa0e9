import RelationAtlas.Proofs.Source.BodyLayout
import RelationAtlas.Source.Relationship

/-!
# Methods as they are written

A `MethodLayout` is a public method without parameters as it stands in a file, with the text in front
of it.  Whatever blanks stand between its words and signs, and whatever code around its calls, its
relationships are the calls that are written in it, and the search goes on behind it
(`MethodLayout.ofTextWith_append`).  So the relationships of a file that is made of such methods are
all of these calls in order (`Relationship.ofText_layouts`).
-/

namespace RelationAtlas

open Text

/-- A text between methods. -/
structure Interlude where
  text : Text
  noPublic : ¬ "public".toList <:+: text

/-- A method with the text in front of it. -/
structure MethodLayout where
  gap : Interlude
  heading : Heading
  body : BodyLayout

namespace MethodLayout

/-- The text of a method with what stands in front of it. -/
def text (m : MethodLayout) : Text := m.gap.text ++ (m.heading.text ++ m.body.text)

/-- The relationships that are written in a method. -/
def relationships (m : MethodLayout) : List Relationship :=
  m.body.calls.map fun c => ⟨m.heading.name.text, c.1.call.kind, c.1.call.target.text⟩

/-- The first method is read, and the others behind it. -/
lemma ofText_append (m : MethodLayout) (t : Text) :
    Method.ofText (m.text ++ t) =
      ⟨m.heading.name.text, m.body.text ++ Method.untilHeader t⟩ :: Method.ofText t := by
  have hbody : m.body.text ++ t = '{' :: (m.body.content ++ '}' :: t) := by
    simp [BodyLayout.text]
  have hgap : Passed Method.header? m.gap.text (m.heading.text ++ (m.body.text ++ t)) :=
    Method.passed_of_not_infix m.gap.noPublic fun c hc => by
      rw [m.heading.text_append] at hc
      obtain rfl : 'p' = c := by simpa using hc
      decide
  have hread : Method.reader.read? (m.heading.text ++ (m.body.text ++ t)) =
      some (⟨m.heading.name.text, Method.untilHeader (m.body.text ++ t)⟩, m.body.text ++ t) := by
    rw [hbody, Method.reader_text]
  calc Method.ofText (m.text ++ t)
      = Method.reader.all (m.gap.text ++ (m.heading.text ++ (m.body.text ++ t))) := by
        rw [Method.ofText, text, List.append_assoc, List.append_assoc]
    _ = Method.reader.all (m.heading.text ++ (m.body.text ++ t)) :=
        Reader.all_of_passed (Method.passed_reader hgap)
    _ = ⟨m.heading.name.text, Method.untilHeader (m.body.text ++ t)⟩ ::
          Method.reader.all (m.body.text ++ t) := Reader.all_of_read? hread
    _ = _ := by
        rw [Method.untilHeader_of_passed (m.body.passed_text t),
          Reader.all_of_passed (Method.passed_reader (m.body.passed_text t))]
        rfl

/-- The relationships of a method that is written down are the calls in it, whatever follows. -/
theorem ofTextWith_append {kinds : List RelationKind} (hkinds : ∀ k, k ∈ kinds)
    (m : MethodLayout) (t : Text) : Relationship.ofTextWith kinds (m.text ++ t) =
      m.relationships ++ Relationship.ofTextWith kinds t := by
  rw [Relationship.ofTextWith, ofText_append, List.flatMap_cons, Relationship.ofMethodWith,
    m.body.ofText_append, m.body.allWith_text hkinds, List.map_map]
  rfl

end MethodLayout

namespace Relationship

/-- The search goes on behind a text in which no header begins. -/
lemma ofTextWith_of_passed {u t : Text} (h : Passed Method.header? u t)
    (kinds : List RelationKind) : ofTextWith kinds (u ++ t) = ofTextWith kinds t := by
  rw [ofTextWith, Method.ofText, Reader.all_of_passed (Method.passed_reader h)]
  rfl

/-- There are no relationships in a text between methods. -/
lemma ofTextWith_interlude (kinds : List RelationKind) (i : Interlude) :
    ofTextWith kinds i.text = [] := by
  have hpassed : Passed Method.header? i.text [] :=
    Method.passed_of_not_infix i.noPublic (by simp)
  have hnone := ofTextWith_of_passed hpassed kinds
  rw [List.append_nil] at hnone
  rw [hnone, ofTextWith, Method.ofText, Reader.all_nil]
  rfl

/-- The relationships of a file are the calls that are written in its methods, in order, whatever
blanks and code stand around them. -/
theorem ofText_layouts (methods : List MethodLayout) (last : Interlude) :
    ofText (methods.flatMap MethodLayout.text ++ last.text) =
      methods.flatMap MethodLayout.relationships := by
  induction methods with
  | nil => exact ofTextWith_interlude _ last
  | cons m methods ih =>
    rw [List.flatMap_cons, List.flatMap_cons, List.append_assoc, ofText,
      m.ofTextWith_append RelationKind.mem_all, ← ofText, ih]

end Relationship

end RelationAtlas
