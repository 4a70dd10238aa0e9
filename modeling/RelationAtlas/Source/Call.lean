import RelationAtlas.RelationKind
import RelationAtlas.Text.Blank
import RelationAtlas.Text.Reader

/-!
# Relationship calls

A relationship is declared by an arrow, the word of its kind, and in parentheses the model it leads
to, written as a class reference.  Between these parts there may be blanks.

The target is the longest text before a class suffix: blanks, commas and closing parentheses end the
search for the suffix, and of several suffixes before that the last one counts.  Since one word can
begin with another, the reader tries the kinds one after another and takes the first that leads to a
complete call.
-/

namespace RelationAtlas

/-- A relationship call as it is written, with its target before the class suffix. -/
structure Call where
  kind : RelationKind
  target : Text
  deriving DecidableEq, Repr

namespace Call

open Text

/-- The suffix that makes a name a class reference. -/
def classSuffix : Text := "::class".toList

/-- Can the character stand in a target? -/
def isTargetChar (c : Char) : Bool := !isBlank c && c != ',' && c != ')'

/-- Cuts a text at its last class suffix that has something before it. -/
def cutAtLastSuffix : Text → Option (Text × Text)
  | [] => none
  | c :: cs =>
    match cutAtLastSuffix cs with
    | some (target, rest) => some (c :: target, rest)
    | none => (after? classSuffix cs).map fun rest => ([c], rest)

/-- Reads a target together with its class suffix. -/
def target? (t : Text) : Option (Text × Text) :=
  (cutAtLastSuffix (t.takeWhile isTargetChar)).map fun (target, rest) =>
    (target, rest ++ t.dropWhile isTargetChar)

/-- Reads the rest of a call of the given kind, after the arrow. -/
def ofKind? (k : RelationKind) (t : Text) : Option (Call × Text) := do
  let t ← after? k.word t
  let t ← after? ['('] (dropBlanks t)
  let (target, t) ← target? (dropBlanks t)
  return (⟨k, target⟩, t)

/-- Reads a call, trying the kinds in the given order. -/
def read? (kinds : List RelationKind) (t : Text) : Option (Call × Text) := do
  let t ← after? "->".toList t
  kinds.findSome? fun k => ofKind? k (dropBlanks t)

/-- What follows the last class suffix is shorter than the text. -/
theorem cutAtLastSuffix_length {t target rest : Text}
    (h : cutAtLastSuffix t = some (target, rest)) : rest.length < t.length := by
  induction t generalizing target rest with
  | nil => simp [cutAtLastSuffix] at h
  | cons c cs ih =>
    simp only [cutAtLastSuffix] at h
    split at h
    · next u v heq =>
      simp only [Option.some.injEq, Prod.mk.injEq] at h
      have := ih heq
      rw [← h.2, List.length_cons]
      omega
    · obtain ⟨v, hv, heq⟩ := Option.map_eq_some_iff.mp h
      simp only [Prod.mk.injEq] at heq
      have := after?_length hv
      rw [← heq.2, List.length_cons]
      omega

/-- What follows a target is shorter than the text. -/
theorem target?_length {t target rest : Text} (h : target? t = some (target, rest)) :
    rest.length < t.length := by
  obtain ⟨⟨u, v⟩, hcut, heq⟩ := Option.map_eq_some_iff.mp h
  simp only [Prod.mk.injEq] at heq
  have hcut := cutAtLastSuffix_length hcut
  have hall := congrArg List.length (t.takeWhile_append_dropWhile (p := isTargetChar))
  rw [List.length_append] at hall
  rw [← heq.2, List.length_append]
  omega

/-- A call takes up some of the text. -/
theorem read?_length {kinds : List RelationKind} {t rest : Text} {c : Call}
    (h : read? kinds t = some (c, rest)) : rest.length < t.length := by
  simp only [read?, Option.bind_eq_bind, Option.bind_eq_some_iff] at h
  obtain ⟨t1, h1, h2⟩ := h
  obtain ⟨k, _, h3⟩ := List.exists_of_findSome?_eq_some h2
  simp only [ofKind?, Option.bind_eq_bind, Option.bind_eq_some_iff] at h3
  obtain ⟨t2, h4, t3, h5, ⟨target, t4⟩, h6, h7⟩ := h3
  simp only [Option.pure_def, Option.some.injEq, Prod.mk.injEq] at h7
  have := after?_length h1
  have := length_dropBlanks_le t1
  have := after?_length h4
  have := length_dropBlanks_le t2
  have := after?_length h5
  have := length_dropBlanks_le t3
  have := target?_length h6
  rw [← h7.2]
  omega

/-- The reader of calls that tries the kinds in the given order. -/
def reader (kinds : List RelationKind) : Reader Call where
  read? := read? kinds
  shorter := read?_length

/-- The calls in a text, read with the given order of kinds. -/
def allWith (kinds : List RelationKind) (t : Text) : List Call := (reader kinds).all t

end Call

end RelationAtlas
