import RelationAtlas.Text.Basic

/-!
# Readers

A reader looks at the front of a text.  If it finds what it is looking for, it gives the value it
read and what follows, which is always shorter than the text it was given.

`Reader.all` collects what a reader finds in a text from left to right: where it finds something, the
search goes on behind it, and where it does not, at the next character.  The values found therefore
never share a character of the text.
-/

namespace RelationAtlas

/-- A way to read a value at the front of a text, together with what follows the value.  Something is
read whenever there is a value. -/
structure Reader (α : Type) where
  read? : Text → Option (α × Text)
  shorter : ∀ {t a rest}, read? t = some (a, rest) → rest.length < t.length

namespace Reader

variable {α : Type}

/-- The values that a reader finds in a text, from left to right and without overlap. -/
def all (r : Reader α) (t : Text) : List α :=
  match t with
  | [] => []
  | c :: cs =>
    match _h : r.read? (c :: cs) with
    | some (a, rest) => a :: r.all rest
    | none => r.all cs
termination_by t.length
decreasing_by
  · exact r.shorter ‹_›
  · simp

/-- Nothing is found in the empty text. -/
@[simp] theorem all_nil (r : Reader α) : r.all [] = [] := by
  rw [all]

/-- A value at the front is found, and the search goes on behind it. -/
theorem all_of_read? {r : Reader α} {t rest : Text} {a : α} (h : r.read? t = some (a, rest)) :
    r.all t = a :: r.all rest := by
  cases t with
  | nil => exact absurd (r.shorter h) (by simp)
  | cons c cs =>
    rw [all]
    split
    · next a' rest' heq =>
      rw [h] at heq
      simp only [Option.some.injEq, Prod.mk.injEq] at heq
      rw [heq.1, heq.2]
    · next heq => rw [h] at heq; cases heq

/-- Where nothing can be read, the search goes on at the next character. -/
theorem all_cons_of_none {r : Reader α} {c : Char} {cs : Text} (h : r.read? (c :: cs) = none) :
    r.all (c :: cs) = r.all cs := by
  rw [all]
  split
  · next heq => rw [h] at heq; cases heq
  · rfl

end Reader

end RelationAtlas
