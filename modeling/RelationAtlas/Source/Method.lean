import RelationAtlas.Source.Name
import RelationAtlas.Text.Blank
import RelationAtlas.Text.Reader

/-!
# Methods

Relationships are declared in public methods without parameters.  The header of such a method is
read up to its opening brace, and the *span* of the method is the text from that brace to the
next header, or to the end of the file.  A body never reaches beyond its span.
-/

namespace RelationAtlas

/-- A public method without parameters, with the text from its opening brace to the next header. -/
structure Method where
  name : Text
  span : Text
  deriving DecidableEq, Repr

namespace Method

open Text

/-- Can the character stand in the type that a method returns? -/
def isTypeChar (c : Char) : Bool := Name.isNameChar c || c == '|'

/-- The text without a question mark at its front. -/
def dropQuestionMark : Text → Text
  | '?' :: cs => cs
  | cs => cs

/-- What follows the type that a method returns, if one is given. -/
def afterReturnType? : Text → Option Text
  | ':' :: cs => (run? isTypeChar (dropQuestionMark (dropBlanks cs))).map fun r => dropBlanks r.2
  | cs => some cs

/-- Reads a header: the name of the method, and the text from the opening brace on. -/
def header? (t : Text) : Option (Text × Text) := do
  let t ← after? "public".toList t
  let t ← afterBlanks? t
  let t ← after? "function".toList t
  let t ← afterBlanks? t
  let (name, t) ← run? isWord t
  let t ← after? ['('] (dropBlanks t)
  let t ← after? [')'] (dropBlanks t)
  let t ← afterReturnType? (dropBlanks t)
  if t.head? = some '{' then some (name, t) else none

/-- Dropping a question mark never lengthens a text. -/
theorem length_dropQuestionMark_le (t : Text) : (dropQuestionMark t).length ≤ t.length := by
  unfold dropQuestionMark
  split <;> simp

/-- What follows a return type is no longer than the text. -/
theorem afterReturnType?_length_le {t rest : Text} (h : afterReturnType? t = some rest) :
    rest.length ≤ t.length := by
  unfold afterReturnType? at h
  split at h
  · next cs =>
    obtain ⟨⟨w, u⟩, hrun, rfl⟩ := Option.map_eq_some_iff.mp h
    have h1 := run?_length hrun
    have h2 := length_dropQuestionMark_le (dropBlanks cs)
    have h3 := length_dropBlanks_le cs
    have h4 := length_dropBlanks_le u
    simp only [List.length_cons]
    omega
  · simp only [Option.some.injEq] at h
    subst h
    exact Nat.le_refl _

/-- A header takes up some of the text. -/
theorem header?_length {t name rest : Text} (h : header? t = some (name, rest)) :
    rest.length < t.length := by
  simp only [header?, Option.bind_eq_bind, Option.bind_eq_some_iff] at h
  obtain ⟨t1, h1, t2, h2, t3, h3, t4, h4, ⟨w, t5⟩, h5, t6, h6, t7, h7, t8, h8, h9⟩ := h
  dsimp only at h6 h9
  have := after?_length h1
  have := afterBlanks?_length h2
  have := after?_length h3
  have := afterBlanks?_length h4
  have := run?_length h5
  have := after?_length h6
  have := length_dropBlanks_le t5
  have := after?_length h7
  have := length_dropBlanks_le t6
  have := afterReturnType?_length_le h8
  have := length_dropBlanks_le t7
  split at h9
  · simp only [Option.some.injEq, Prod.mk.injEq] at h9
    rw [← h9.2]
    omega
  · cases h9

/-- The text up to the next header. -/
def untilHeader : Text → Text
  | [] => []
  | c :: cs => if (header? (c :: cs)).isSome then [] else c :: untilHeader cs

/-- Reads a method; what follows it begins with its opening brace. -/
def reader : Reader Method where
  read? t := (header? t).map fun (name, rest) => (⟨name, untilHeader rest⟩, rest)
  shorter := by
    intro t m rest h
    obtain ⟨⟨name, r⟩, hheader, heq⟩ := Option.map_eq_some_iff.mp h
    simp only [Prod.mk.injEq] at heq
    rw [← heq.2]
    exact header?_length hheader

/-- The methods of a file in order. -/
def ofText (t : Text) : List Method := reader.all t

end Method

end RelationAtlas
