import RelationAtlas.Encoding.Basic

/-!
# Encodings by units of several bytes

UTF-16 writes a character as one unit of two bytes or as a pair of them, and UTF-32 writes it as one
unit of four.  The bytes of a unit come in one of two orders.  An encoding that does not fix the
order takes it from the mark at the front of the file, and fails when there is none.
-/

namespace RelationAtlas.Codec

/-- The order of the bytes in a unit. -/
inductive ByteOrder where
  | littleEndian
  | bigEndian

/-- The value of the bytes of a unit. -/
def ByteOrder.value : ByteOrder → List UInt8 → Nat
  | littleEndian, bytes => bytes.foldr (fun b n => b.toNat + 256 * n) 0
  | bigEndian, bytes => bytes.foldl (fun n b => 256 * n + b.toNat) 0

/-- An encoding and an order of bytes in it, as they are called in faults. -/
def orderName (encoding : String) : ByteOrder → Text
  | .littleEndian => encoding.toList ++ "-le".toList
  | .bigEndian => encoding.toList ++ "-be".toList

/-! ## Two bytes -/

/-- Reads units of two bytes at the offset `pos`. -/
def decodePairs (order : ByteOrder) (pos : Nat) : List UInt8 → Except DecodeFault Text
  | [] => .ok []
  | [a] => .error ⟨orderName "utf-16" order, pos, a, 1, .worded "truncated data".toList⟩
  | a :: b :: rest =>
    let unit := order.value [a, b]
    let fault (width : Nat) (flaw : ByteFlaw) : DecodeFault :=
      ⟨orderName "utf-16" order, pos, a, width, flaw⟩
    if unit < 0xd800 ∨ 0xe000 ≤ unit then
      (decodePairs order (pos + 2) rest).map (Char.ofNat unit :: ·)
    else if 0xdc00 ≤ unit then .error (fault 2 (.worded "illegal encoding".toList))
    else match rest with
      | c :: d :: rest =>
        let low := order.value [c, d]
        if 0xdc00 ≤ low ∧ low < 0xe000 then
          (decodePairs order (pos + 4) rest).map (Char.ofNat (Text.pairCode unit low) :: ·)
        else .error (fault 2 (.worded "illegal UTF-16 surrogate".toList))
      | rest => .error (fault (2 + rest.length) .cutShort)

/-- UTF-16 in a fixed order of bytes. -/
def utf16In (order : ByteOrder) : Codec := ofDecoder (decodePairs order 0)

/-! ## Four bytes -/

/-- Reads units of four bytes at the offset `pos`. -/
def decodeQuads (order : ByteOrder) (pos : Nat) : List UInt8 → Except DecodeFault Text
  | [] => .ok []
  | a :: b :: c :: d :: rest =>
    let unit := order.value [a, b, c, d]
    let fault (reason : String) : DecodeFault :=
      ⟨orderName "utf-32" order, pos, a, 4, .worded reason.toList⟩
    if 0x110000 ≤ unit then .error (fault "code point not in range(0x110000)")
    else if 0xd800 ≤ unit ∧ unit < 0xe000 then
      .error (fault "code point in surrogate code point range(0xd800, 0xe000)")
    else (decodeQuads order (pos + 4) rest).map (Char.ofNat unit :: ·)
  | a :: rest =>
    .error ⟨orderName "utf-32" order, pos, a, rest.length + 1, .worded "truncated data".toList⟩

/-- UTF-32 in a fixed order of bytes. -/
def utf32In (order : ByteOrder) : Codec := ofDecoder (decodeQuads order 0)

/-! ## Marks -/

/-- What comes of a file without a mark: if it is text at all, then only because it is empty. -/
def unmarked (encoding : String) (decode : List UInt8 → Except DecodeFault Text) : Codec :=
  fun bytes =>
    match decode bytes with
    | .error f => .error (.undecodable f)
    | .ok [] => .ok []
    | .ok _ => failing "UnicodeError".toList
        (encoding.toList ++ " stream does not start with BOM".toList) bytes

/-- UTF-16 in the order that the file begins with. -/
def utf16 : Codec
  | 0xff :: 0xfe :: bytes => ofDecoder (decodePairs .littleEndian 2) bytes
  | 0xfe :: 0xff :: bytes => ofDecoder (decodePairs .bigEndian 2) bytes
  | bytes => unmarked "UTF-16" (decodePairs .littleEndian 0) bytes

/-- UTF-32 in the order that the file begins with. -/
def utf32 : Codec
  | 0xff :: 0xfe :: 0 :: 0 :: bytes => ofDecoder (decodeQuads .littleEndian 4) bytes
  | 0 :: 0 :: 0xfe :: 0xff :: bytes => ofDecoder (decodeQuads .bigEndian 4) bytes
  | bytes => unmarked "UTF-32" (decodeQuads .littleEndian 0) bytes

end RelationAtlas.Codec
