import RelationAtlas.Encoding.CodePages
import RelationAtlas.Encoding.Wide

/-!
# The encodings that are installed

Which encodings there are is up to the machine, and so is what they make of a file: more can be
installed than a library can know.  All that is asked of a registry is that it knows UTF-8.  The
registry of the encodings that the library brings (`Codecs.standard`) has the forms of Unicode and
the code pages, and it refuses the codecs that are not for text.
-/

namespace RelationAtlas

/-- The codecs that are installed, by name. -/
structure Codecs where
  codec? : Text → Option Codec
  knowsUtf8 : codec? "utf-8".toList = some Codec.utf8

namespace Encoding

/-- The encodings that can write every character. -/
def ofUnicode : List Encoding :=
  [⟨"utf_8", ["u8", "utf", "utf8", "utf8_ucs2", "utf8_ucs4", "cp65001"], .utf8⟩,
   ⟨"utf_8_sig", [], .utf8Marked⟩,
   ⟨"utf_16", ["u16", "utf16"], .utf16⟩,
   ⟨"utf_16_le", ["unicodelittleunmarked", "utf_16le"], .utf16In .littleEndian⟩,
   ⟨"utf_16_be", ["unicodebigunmarked", "utf_16be"], .utf16In .bigEndian⟩,
   ⟨"utf_32", ["u32", "utf32"], .utf32⟩,
   ⟨"utf_32_le", ["utf_32le"], .utf32In .littleEndian⟩,
   ⟨"utf_32_be", ["utf_32be"], .utf32In .bigEndian⟩]

/-- The encodings whose characters are the first ones. -/
def ofFirst : List Encoding :=
  [⟨"ascii", ["646", "ansi_x3.4_1968", "ansi_x3_4_1968", "ansi_x3.4_1986", "cp367", "csascii",
      "ibm367", "iso646_us", "iso_646.irv_1991", "iso_ir_6", "us", "us_ascii"], .ascii⟩,
   ⟨"latin_1", ["8859", "cp819", "csisolatin1", "ibm819", "iso8859", "iso8859_1", "iso_8859_1",
      "iso_8859_1_1987", "iso_ir_100", "l1", "latin", "latin1"], .latin1⟩]

/-- The encodings that the library brings. -/
def all : List Encoding := ofUnicode ++ ofFirst ++ CodePage.all.map CodePage.encoding

/-- The names of the codecs that are not for text. -/
def nonText : List (String × List String) :=
  [("base64_codec", ["base64", "base_64"]), ("bz2_codec", ["bz2"]), ("hex_codec", ["hex"]),
   ("quopri_codec", ["quopri", "quoted_printable", "quotedprintable"]), ("rot_13", ["rot13"]),
   ("uu_codec", ["uu"]), ("zlib_codec", ["zip", "zlib"])]

/-- The codec that is refused by the name that one asks for. -/
def refused (name : Text) : Codec := Codec.failing "LookupError".toList <|
  "'".toList ++ name ++
    "' is not a text encoding; use codecs.open() to handle arbitrary codecs".toList

/-- The codec of a name, among those that the library brings. -/
def codec? (name : Text) : Option Codec :=
  let canonical := canonicalName name
  match all.find? (·.goesBy canonical) with
  | some e => some e.codec
  | none =>
    if nonText.any fun (first, others) => isAmong first others canonical then some (refused name)
    else if canonical = "undefined".toList then
      some (Codec.failing "UnicodeError".toList "undefined encoding".toList)
    else if name = "locale".toList then some Codec.utf8
    else none

/-- The first of the encodings is UTF-8. -/
theorem codec?_utf8 : codec? "utf-8".toList = some Codec.utf8 := by
  have hfirst : all.find? (·.goesBy (canonicalName "utf-8".toList)) = ofUnicode.head? :=
    List.find?_cons_of_pos (by decide +kernel)
  rw [codec?, hfirst]
  rfl

end Encoding

/-- The encodings that the library brings. -/
def Codecs.standard : Codecs := ⟨Encoding.codec?, Encoding.codec?_utf8⟩

end RelationAtlas
