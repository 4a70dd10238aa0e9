import RelationAtlas.Encoding.Utf8

/-!
# Encodings

A codec makes a text of the bytes of a file.  Where it does not, there are two cases: the bytes are
not text, and then the fault says at which of them; or the codec fails in a way of its own, as one
does that is refused for text files or that misses the mark of the order of bytes.

An encoding is a codec that is chosen by name.  Names are compared without regard to case and
punctuation, and most encodings have several.
-/

namespace RelationAtlas

/-- The failure of a codec that is not about the bytes at some place: its kind, and what it says. -/
structure CodecFailure where
  kind : Text
  message : Text
  deriving DecidableEq, Repr

/-- Why a codec makes no text of the bytes of a file. -/
inductive CodecFault where
  | undecodable (f : DecodeFault)
  | failed (f : CodecFailure)
  deriving DecidableEq, Repr

/-- What makes a text of the bytes of a file. -/
abbrev Codec := List UInt8 → Except CodecFault Text

namespace Codec

/-- A codec that fails only over the bytes. -/
def ofDecoder (decode : List UInt8 → Except DecodeFault Text) : Codec :=
  fun bytes => (decode bytes).mapError .undecodable

/-- UTF-8. -/
def utf8 : Codec := ofDecoder Utf8.decode

/-- UTF-8 after a byte order mark, if there is one.  A file that is only the beginning of a mark is
empty. -/
def utf8Marked : Codec
  | 0xef :: 0xbb :: 0xbf :: bytes => utf8 bytes
  | [0xef, 0xbb] => .ok []
  | [0xef] => .ok []
  | bytes => utf8 bytes

/-- Decodes byte by byte from the offset `pos`, by a table that may leave bytes out. -/
def decodeBytes (codec : Text) (flaw : ByteFlaw) (char? : UInt8 → Option Char) (pos : Nat) :
    List UInt8 → Except DecodeFault Text
  | [] => .ok []
  | b :: bs =>
    match char? b with
    | some c => (decodeBytes codec flaw char? (pos + 1) bs).map (c :: ·)
    | none => .error ⟨codec, pos, b, 1, flaw⟩

/-- The first 128 characters, one byte each. -/
def ascii : Codec := ofDecoder <| decodeBytes "ascii".toList .notAscii
  (fun b => if b < 0x80 then some (Char.ofNat b.toNat) else none) 0

/-- The first 256 characters, one byte each. -/
def latin1 : Codec := fun bytes => .ok (bytes.map fun b => Char.ofNat b.toNat)

/-- A codec that fails whatever the bytes are. -/
def failing (kind message : Text) : Codec := fun _ => .error (.failed ⟨kind, message⟩)

end Codec

/-- A codec with its name and the other names that it goes by. -/
structure Encoding where
  name : String
  aliases : List String
  codec : Codec

namespace Encoding

/-- Can the character stand in the name of an encoding? -/
def isNameChar (c : Char) : Bool := c.isAlphanum || c == '.'

/-- Cuts a name into its parts; the first argument is the part that is being read, reversed. -/
def nameParts (part : Text) : Text → List Text
  | [] => [part.reverse]
  | c :: cs => if isNameChar c then nameParts (c.toLower :: part) cs
    else part.reverse :: nameParts [] cs

/-- The name in lower case, with one underscore for each run of punctuation between its parts. -/
def canonicalName (t : Text) : Text :=
  Text.join ['_'] ((nameParts [] t).filter (· ≠ []))

/-- Is a name in canonical form one of the given names?  In all of them but the first a point may
stand for an underscore. -/
def isAmong (first : String) (others : List String) (name : Text) : Bool :=
  let pointless := name.map fun c => if c = '.' then '_' else c
  others.any (fun other => other.toList == name || other.toList == pointless)
    || first.toList == name

/-- Does the encoding go by a name in canonical form? -/
def goesBy (e : Encoding) (name : Text) : Bool := isAmong e.name e.aliases name

end Encoding

end RelationAtlas
