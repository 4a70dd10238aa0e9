import RelationAtlas.Proofs.Encoding.Utf8
import RelationAtlas.Proofs.Text.LineEnds
import RelationAtlas.Proofs.Tree.AbsolutePaths
import RelationAtlas.Tree.Reading

/-!
# Reading what has been written

A file that holds a text in UTF-8 is read as this text up to its line ends, and a file that holds
anything else is refused.  The fault says where the longest part of the file ends that is text
(`read_utf8_of_bytes`).

A path that leads to a file holds no NUL, because every step of the walk to it is a turn or the name
of something (`hasNul_of_bytes`).
-/

namespace RelationAtlas

/-- The position of the first byte at fault stands in the words for the fault. -/
lemma DecodeFault.exists_position (f : DecodeFault) : ∃ front c back,
    f.message = front ++ " in position ".toList ++ Text.ofNat f.start ++ c :: back ∧
      c.isDigit = false := by
  rw [message, place]
  split
  · refine ⟨"'".toList ++ f.codec ++ "' codec can't decode ".toList ++ "byte 0x".toList ++
      Text.hex 2 f.byte.toNat, ':', ' ' :: f.flaw.message, ?_, rfl⟩
    simp
  · refine ⟨"'".toList ++ f.codec ++ "' codec can't decode bytes".toList, '-',
      Text.ofNat (f.start + f.width - 1) ++ ": ".toList ++ f.flaw.message, ?_, rfl⟩
    simp

namespace Disk

variable {codecs : Codecs} {d : Disk} {path : Text}

/-- A path that leads anywhere holds no NUL. -/
lemma hasNul_of_reach {r : Location × Entry} (h : d.reach path = .ok r) : hasNul path = false := by
  obtain ⟨-, hwalk⟩ := walk_of_reach h
  refine Bool.eq_false_iff.mpr fun hnul => ?_
  have hmem : '\x00' ∈ path := by simpa [hasNul] using hnul
  have hslash : '\x00' ≠ '/' := by decide
  obtain ⟨name, hname, hin⟩ := Text.exists_mem_split hmem hslash
  have hstep : name ∈ Path.steps path := by
    refine List.mem_append_left _ (List.mem_filter.mpr ⟨hname, ?_⟩)
    simpa using List.ne_nil_of_mem hin
  have hturn : ¬ FileTree.IsTurn name := by
    rintro (rfl | rfl | rfl) <;> exact absurd hin (by decide)
  exact (FileTree.isName_of_walk hwalk name hstep hturn).nul_notMem hin

/-- A path that leads to a file holds no NUL. -/
lemma hasNul_of_bytes {bytes : List UInt8} (h : d.bytes path = .ok bytes) : hasNul path = false := by
  cases hreach : d.reach path with
  | error f =>
    rw [Disk.bytes, hreach] at h
    cases h
  | ok r => exact hasNul_of_reach hreach

/-- What is read of a file depends on its bytes only. -/
lemma read_utf8_eq (codecs : Codecs) {bytes : List UInt8} (h : d.bytes path = .ok bytes) :
    d.read codecs path "utf-8".toList =
      ((Utf8.decode bytes).map Text.unifyLineEnds).mapError
        fun f => .unreadable path (.undecodable f) := by
  rw [read, if_neg (by decide), if_neg (by simp [hasNul_of_bytes h]), h]
  simp only [codecs.knowsUtf8, Codec.utf8, Codec.ofDecoder]
  cases Utf8.decode bytes <;> rfl

/-- A file is read as the text that it holds in UTF-8, with every line end as a single line feed,
whichever of the line ends it has.  A file that holds no text in UTF-8 is refused, and the words of the
fault name the position where the longest part of it ends that is text. -/
theorem read_utf8_of_bytes (codecs : Codecs) {bytes : List UInt8} (h : d.bytes path = .ok bytes) :
    (∀ t, Utf8.encode t = bytes →
      d.read codecs path "utf-8".toList =
        .ok (Text.replace Text.cr Text.lf (Text.replace Text.crlf Text.lf t))) ∧
    (∀ t, '\r' ∉ t → Utf8.encode t = bytes → d.read codecs path "utf-8".toList = .ok t) ∧
    (∀ t, '\r' ∉ t → ∀ e ∈ [Text.lf, Text.crlf, Text.cr],
      Utf8.encode (Text.replace Text.lf e t) = bytes → d.read codecs path "utf-8".toList = .ok t) ∧
    (¬ Utf8.IsWellFormed bytes → ∃ f front c back,
      d.read codecs path "utf-8".toList = .error (.unreadable path (.undecodable f)) ∧
      Utf8.IsWellFormedUpTo bytes f.start ∧
      f.message = front ++ " in position ".toList ++ Text.ofNat f.start ++ c :: back ∧
      c.isDigit = false) := by
  have hread : ∀ t, Utf8.encode t = bytes →
      d.read codecs path "utf-8".toList = .ok (Text.unifyLineEnds t) := by
    intro t ht
    rw [read_utf8_eq codecs h, Utf8.decode_eq_ok_iff.mpr ht]
    rfl
  refine ⟨fun t ht => ?_, fun t hcr ht => ?_, fun t hcr e he ht => ?_, fun hbytes => ?_⟩
  · rw [hread t ht, Text.unifyLineEnds_eq_replace]
  · rw [hread t ht, Text.unifyLineEnds_eq_self hcr]
  · rw [hread _ ht, Text.unifyLineEnds_replace hcr he]
  · cases hdecode : Utf8.decode bytes with
    | ok t => exact absurd ⟨t, Utf8.decode_eq_ok_iff.mp hdecode⟩ hbytes
    | error f =>
      obtain ⟨front, c, back, hmessage, hc⟩ := f.exists_position
      refine ⟨f, front, c, back, ?_, Utf8.isWellFormedUpTo_of_decode hdecode, hmessage, hc⟩
      rw [read_utf8_eq codecs h, hdecode]
      rfl

/-- A disk with a text of two lines that end in two ways, and a file that breaks off in the middle of a
character. -/
def twoFiles : Disk where
  tree :=
    (FileTree.empty.put ["lines.txt".toList] (.file [0xc3, 0xa9, 0x0d, 0x0a, 0x61, 0x0d])
      (by decide +kernel)).put ["part.txt".toList] (.file [0x61, 0xe2, 0x82]) (by decide +kernel)
  cwd := []
  looksBehindLinks := false

/-- Two line ends are read as one, and a character that is not completed is refused where it begins. -/
theorem read_utf8_of_bytes_twoFiles :
    (twoFiles.bytes "lines.txt".toList = .ok [0xc3, 0xa9, 0x0d, 0x0a, 0x61, 0x0d] ∧
      twoFiles.read Codecs.standard "lines.txt".toList "utf-8".toList = .ok "é\na\n".toList) ∧
    (twoFiles.bytes "part.txt".toList = .ok [0x61, 0xe2, 0x82] ∧
      ¬ Utf8.IsWellFormed [0x61, 0xe2, 0x82] ∧
      ∃ f, twoFiles.read Codecs.standard "part.txt".toList "utf-8".toList =
          .error (.unreadable "part.txt".toList (.undecodable f)) ∧
        Utf8.IsWellFormedUpTo [0x61, 0xe2, 0x82] f.start ∧ f.start = 1) := by
  have hlines : twoFiles.bytes "lines.txt".toList =
      .ok [0xc3, 0xa9, 0x0d, 0x0a, 0x61, 0x0d] := by decide +kernel
  have hpart : twoFiles.bytes "part.txt".toList = .ok [0x61, 0xe2, 0x82] := by decide +kernel
  have hbroken : ¬ Utf8.IsWellFormed [0x61, 0xe2, 0x82] := by
    rintro ⟨t, ht⟩
    have hdecode := Utf8.decode_encode t
    rw [ht] at hdecode
    cases hdecode
  obtain ⟨f, _, _, _, hrefused, hupTo, -⟩ := (read_utf8_of_bytes Codecs.standard hpart).2.2.2 hbroken
  have hfault : twoFiles.read Codecs.standard "part.txt".toList "utf-8".toList =
      .error (.unreadable "part.txt".toList
        (.undecodable ⟨"utf-8".toList, 1, 0xe2, 2, .cutShort⟩)) := by
    decide +kernel
  have hstart : f.start = 1 := by
    rw [hfault] at hrefused
    cases hrefused
    rfl
  exact ⟨⟨hlines, (read_utf8_of_bytes Codecs.standard hlines).1 "é\r\na\r".toList (by decide)⟩,
    hpart, hbroken, f, hrefused, hupTo, hstart⟩

end Disk

end RelationAtlas
