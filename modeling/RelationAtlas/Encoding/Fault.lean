import RelationAtlas.Text.Basic

/-!
# Undecodable bytes

When the bytes of a file are not text in the encoding it is read with, the fault says where the
first offending bytes are and what is wrong with them.
-/

namespace RelationAtlas

/-- What is wrong with bytes that do not decode. -/
inductive ByteFlaw where
  | badStart
  | cutShort
  | badContinuation
  | notAscii
  | unmapped
  | worded (reason : Text)
  deriving DecidableEq, Repr

/-- The flaw in words. -/
def ByteFlaw.message : ByteFlaw → Text
  | badStart => "invalid start byte".toList
  | cutShort => "unexpected end of data".toList
  | badContinuation => "invalid continuation byte".toList
  | notAscii => "ordinal not in range(128)".toList
  | unmapped => "character maps to <undefined>".toList
  | worded reason => reason

/-- The first bytes of a file that do not decode: the name by which the encoding calls itself, the
offset of the first byte at fault, that byte, how many bytes are at fault, and what is wrong with
them. -/
structure DecodeFault where
  codec : Text
  start : Nat
  byte : UInt8
  width : Nat
  flaw : ByteFlaw
  deriving DecidableEq, Repr

namespace DecodeFault

/-- The bytes at fault and their position. -/
def place (f : DecodeFault) : Text :=
  if f.width = 1 then
    "byte 0x".toList ++ Text.hex 2 f.byte.toNat ++ " in position ".toList ++ Text.ofNat f.start
  else
    "bytes in position ".toList ++ Text.ofNat f.start ++ "-".toList
      ++ Text.ofNat (f.start + f.width - 1)

/-- The fault in words. -/
def message (f : DecodeFault) : Text :=
  "'".toList ++ f.codec ++ "' codec can't decode ".toList ++ f.place ++ ": ".toList
    ++ f.flaw.message

end DecodeFault

end RelationAtlas
