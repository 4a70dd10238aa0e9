import RelationAtlas.Encoding.Fault

/-!
# UTF-8

A character is written as one to four bytes.  The first byte says how many follow and, for four of
its values, narrows the range of the second one; that is what keeps overlong forms, surrogates and
codes beyond the last plane out.

The reader goes through the bytes once.  Between characters it looks at a lead byte; inside a
character it holds a `Continuation` that says which bytes may come next.  It stops at the first byte
that rules the text out, and the bytes at fault are those of the character begun so far.
-/

namespace RelationAtlas.Utf8

/-- The bytes of a text. -/
def encode (t : Text) : List UInt8 := t.flatMap String.utf8EncodeChar

/-- How many bytes a text takes. -/
def size (t : Text) : Nat := (encode t).length

/-- A character that has been begun: how many bytes it still needs, the range of the next one, and
the bits read so far. -/
structure Continuation where
  owed : Nat
  low : UInt8
  high : UInt8
  bits : Nat
  deriving DecidableEq, Repr

/-- What a first byte begins. -/
inductive Lead where
  | whole (c : Char)
  | begun (p : Continuation)
  | none

/-- What the first byte of a character says about the rest of it. -/
def lead (b : UInt8) : Lead :=
  if b < 0x80 then .whole (Char.ofNat b.toNat)
  else if b < 0xc2 then .none
  else if b < 0xe0 then .begun ⟨1, 0x80, 0xbf, b.toNat - 0xc0⟩
  else if b = 0xe0 then .begun ⟨2, 0xa0, 0xbf, 0⟩
  else if b = 0xed then .begun ⟨2, 0x80, 0x9f, 0xd⟩
  else if b < 0xf0 then .begun ⟨2, 0x80, 0xbf, b.toNat - 0xe0⟩
  else if b = 0xf0 then .begun ⟨3, 0x90, 0xbf, 0⟩
  else if b < 0xf4 then .begun ⟨3, 0x80, 0xbf, b.toNat - 0xf0⟩
  else if b = 0xf4 then .begun ⟨3, 0x80, 0x8f, 4⟩
  else .none

/-- Where the reader stands inside a character. -/
structure Inside where
  start : Nat
  first : UInt8
  seen : Nat
  rest : Continuation

/-- The fault of a character that has been begun and is not completed. -/
def Inside.fault (i : Inside) (flaw : ByteFlaw) : DecodeFault :=
  ⟨"utf-8".toList, i.start, i.first, i.seen, flaw⟩

/-- Reads bytes at the offset `pos`, between characters or inside one. -/
def decodeFrom (pos : Nat) : Option Inside → List UInt8 → Except DecodeFault Text
  | none, [] => .ok []
  | some i, [] => .error (i.fault .cutShort)
  | none, b :: bs =>
    match lead b with
    | .whole c => (decodeFrom (pos + 1) none bs).map (c :: ·)
    | .begun p => decodeFrom (pos + 1) (some ⟨pos, b, 1, p⟩) bs
    | .none => .error ⟨"utf-8".toList, pos, b, 1, .badStart⟩
  | some i, b :: bs =>
    if i.rest.low ≤ b ∧ b ≤ i.rest.high then
      let bits := 64 * i.rest.bits + (b.toNat - 0x80)
      if i.rest.owed = 1 then (decodeFrom (pos + 1) none bs).map (Char.ofNat bits :: ·)
      else decodeFrom (pos + 1)
        (some { i with seen := i.seen + 1, rest := ⟨i.rest.owed - 1, 0x80, 0xbf, bits⟩ }) bs
    else .error (i.fault .badContinuation)

/-- The text that the bytes encode. -/
def decode (bytes : List UInt8) : Except DecodeFault Text := decodeFrom 0 none bytes

end RelationAtlas.Utf8
