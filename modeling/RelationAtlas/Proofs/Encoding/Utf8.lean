import Mathlib.Tactic.Lemma
import RelationAtlas.Encoding.Utf8

/-!
# Reading UTF-8 back

The reader of UTF-8 takes exactly the bytes that the writer makes.  A text that has been written is
read back, whatever bytes come behind it (`decodeFrom_encode_append`), and bytes that are read are
those of the text that comes out (`decode_eq_ok_iff`).  Where the reader stops, the bytes at fault begin
behind the longest part that a text could have been written as (`isWellFormedUpTo_of_decode`).

Both ways rest on what the reader knows inside a character: the numbers that its continuation allows
(`Continuation.Allows`).  The number of a character is allowed behind its first byte
(`exists_lead_of_char`), and every number that is still allowed is that of a character which begins
with the bytes read so far (`Begins`).
-/

namespace RelationAtlas.Utf8

open String (utf8EncodeChar)

lemma encode_cons (c : Char) (t : Text) : encode (c :: t) = utf8EncodeChar c ++ encode t := rfl

lemma size_cons (c : Char) (t : Text) : size (c :: t) = (utf8EncodeChar c).length + size t :=
  List.length_append

/-! ## Numbers and bytes -/

/-- A number without its last `k` groups of six bits. -/
def leadingBits : Nat → Nat → Nat
  | 0, n => n
  | k + 1, n => leadingBits k n / 64

/-- The last bytes of a character, each of which holds six bits of its number. -/
def following : Nat → Nat → List UInt8
  | 0, _ => []
  | k + 1, n => UInt8.ofNat (0x80 + leadingBits k n % 64) :: following k n

lemma length_following (k n : Nat) : (following k n).length = k := by
  induction k with
  | zero => rfl
  | succ k ih => rw [following, List.length_cons, ih]

lemma toNat_ofNat_of_lt {n : Nat} (h : n < 256) : (UInt8.ofNat n).toNat = n := by
  rw [UInt8.toNat_ofNat']
  exact Nat.mod_eq_of_lt h

/-- The number can be that of a character that has been begun: it has the bits read so far, and its
next byte is in the range. -/
structure Continuation.Allows (p : Continuation) (n : Nat) : Prop where
  bits_eq : leadingBits p.owed n = p.bits
  low_le : p.low.toNat ≤ 0x80 + leadingBits (p.owed - 1) n % 64
  le_high : 0x80 + leadingBits (p.owed - 1) n % 64 ≤ p.high.toNat

lemma Continuation.allows_iff {p : Continuation} {n : Nat} : p.Allows n ↔
    leadingBits p.owed n = p.bits ∧ p.low.toNat ≤ 0x80 + leadingBits (p.owed - 1) n % 64 ∧
      0x80 + leadingBits (p.owed - 1) n % 64 ≤ p.high.toNat :=
  ⟨fun ⟨hbits, hlow, hhigh⟩ => ⟨hbits, hlow, hhigh⟩, fun ⟨hbits, hlow, hhigh⟩ => ⟨hbits, hlow, hhigh⟩⟩

/-- Behind the second byte of a character, every byte that continues it will do. -/
lemma Continuation.allows_unrestricted (k n : Nat) :
    (⟨k, 0x80, 0xbf, leadingBits k n⟩ : Continuation).Allows n where
  bits_eq := rfl
  low_le := Nat.le_add_right _ _
  le_high := by
    have hsix : leadingBits (k - 1) n % 64 < 64 := Nat.mod_lt _ (by decide)
    change 0x80 + leadingBits (k - 1) n % 64 ≤ 0xbf
    omega

/-! ## First bytes -/

/-- What a first byte begins, by the number of bytes of the character.  The second byte is in a
narrower range behind the least and the greatest of the first bytes and in front of the surrogates. -/
inductive LeadOf (m : Nat) : Lead → Prop
  | one (h : m < 0x80) : LeadOf m (.whole (Char.ofNat m))
  | two (hlow : 0xc2 ≤ m) (hhigh : m < 0xe0) : LeadOf m (.begun ⟨1, 0x80, 0xbf, m - 0xc0⟩)
  | three (hlow : 0xe0 ≤ m) (hhigh : m < 0xf0) :
      LeadOf m (.begun ⟨2, if m = 0xe0 then 0xa0 else 0x80, if m = 0xed then 0x9f else 0xbf,
        m - 0xe0⟩)
  | four (hlow : 0xf0 ≤ m) (hhigh : m < 0xf5) :
      LeadOf m (.begun ⟨3, if m = 0xf0 then 0x90 else 0x80, if m = 0xf4 then 0x8f else 0xbf,
        m - 0xf0⟩)
  | none (hlow : 0x80 ≤ m) (h : m < 0xc2 ∨ 0xf5 ≤ m) : LeadOf m .none

lemma leadOf_lead (b : UInt8) : LeadOf b.toNat (lead b) := by
  generalize hm : b.toNat = m
  simp only [lead, UInt8.lt_iff_toNat_lt, ← UInt8.toNat_inj, UInt8.reduceToNat, hm]
  split
  · exact .one ‹_›
  split
  · exact .none (by omega) (by omega)
  split
  · exact .two (by omega) (by omega)
  split
  · next h => simpa [h] using LeadOf.three (m := m) (by omega) (by omega)
  split
  · next h => simpa [h] using LeadOf.three (m := m) (by omega) (by omega)
  split
  · next h h' _ => simpa [h, h'] using LeadOf.three (m := m) (by omega) (by omega)
  split
  · next h => simpa [h] using LeadOf.four (m := m) (by omega) (by omega)
  split
  · next h hlt =>
    have hlast : m ≠ 0xf4 := by omega
    simpa [h, hlast] using LeadOf.four (m := m) (by omega) (by omega)
  split
  · next h => simpa [h] using LeadOf.four (m := m) (by omega) (by omega)
  · exact .none (by omega) (by omega)

/-- A byte begins only one thing. -/
lemma lead_ofNat {m : Nat} {l : Lead} (hm : m < 256) (h : LeadOf m l) :
    lead (UInt8.ofNat m) = l := by
  have hlead := leadOf_lead (UInt8.ofNat m)
  rw [toNat_ofNat_of_lt hm] at hlead
  generalize lead (UInt8.ofNat m) = l' at hlead
  cases h <;> cases hlead <;> first | rfl | omega

section Allows

variable {m n : Nat}

lemma allows_two : (⟨1, 0x80, 0xbf, m - 0xc0⟩ : Continuation).Allows n ↔ n / 64 = m - 0xc0 := by
  refine ⟨fun h => h.bits_eq, fun h => ?_⟩
  rw [← h]
  exact Continuation.allows_unrestricted 1 n

/-- Overlong forms and surrogates are not allowed in three bytes. -/
lemma allows_three (hlow : 0xe0 ≤ m) (hhigh : m < 0xf0) :
    (⟨2, if m = 0xe0 then 0xa0 else 0x80, if m = 0xed then 0x9f else 0xbf, m - 0xe0⟩ :
      Continuation).Allows n ↔
        n / 4096 = m - 0xe0 ∧ 0x800 ≤ n ∧ (n < 0xd800 ∨ 0xdfff < n) := by
  rw [Continuation.allows_iff, apply_ite UInt8.toNat, apply_ite UInt8.toNat]
  simp only [UInt8.reduceToNat, Nat.reduceSub, leadingBits, Nat.div_div_eq_div_mul, Nat.reduceMul]
  refine and_congr_right fun hbits => ?_
  split <;> split <;> omega

/-- Overlong forms and numbers behind the last plane are not allowed in four bytes. -/
lemma allows_four (hlow : 0xf0 ≤ m) (hhigh : m < 0xf5) :
    (⟨3, if m = 0xf0 then 0x90 else 0x80, if m = 0xf4 then 0x8f else 0xbf, m - 0xf0⟩ :
      Continuation).Allows n ↔
        n / 262144 = m - 0xf0 ∧ 0x10000 ≤ n ∧ n < 0x110000 := by
  rw [Continuation.allows_iff, apply_ite UInt8.toNat, apply_ite UInt8.toNat]
  simp only [UInt8.reduceToNat, Nat.reduceSub, leadingBits, Nat.div_div_eq_div_mul, Nat.reduceMul]
  refine and_congr_right fun hbits => ?_
  split <;> split <;> omega

end Allows

/-! ## From texts to bytes -/

/-- How many bytes a character takes is told by the first of three bounds that its number is below. -/
lemma utf8EncodeChar_eq (c : Char) : utf8EncodeChar c =
    if c.toNat < 0x80 then [UInt8.ofNat c.toNat]
    else if c.toNat < 0x800 then UInt8.ofNat (0xc0 + c.toNat / 64) :: following 1 c.toNat
    else if c.toNat < 0x10000 then UInt8.ofNat (0xe0 + c.toNat / 4096) :: following 2 c.toNat
    else UInt8.ofNat (0xf0 + c.toNat / 262144) :: following 3 c.toNat := by
  have hlast := Text.toNat_lt c
  have hval : c.val.toNat = c.toNat := rfl
  unfold utf8EncodeChar
  simp only [hval, following, leadingBits, Nat.div_div_eq_div_mul, Nat.reduceMul,
    ← Nat.lt_succ_iff, Nat.reduceSucc, Nat.add_comm (_ % 64)]
  split
  · rfl
  split
  · have hhead : c.toNat / 64 % 32 + 192 = 0xc0 + c.toNat / 64 := by omega
    rw [hhead]
  split
  · have hhead : c.toNat / 4096 % 16 + 224 = 0xe0 + c.toNat / 4096 := by omega
    rw [hhead]
  · have hhead : c.toNat / 262144 % 8 + 240 = 0xf0 + c.toNat / 262144 := by omega
    rw [hhead]

/-- The first byte of a character says how many bytes follow, and what they may be. -/
lemma exists_lead_of_char (c : Char) :
    (∃ b, utf8EncodeChar c = [b] ∧ lead b = .whole c) ∨
      ∃ b p, lead b = .begun p ∧ 0 < p.owed ∧ p.Allows c.toNat ∧
        utf8EncodeChar c = b :: following p.owed c.toNat := by
  have hlast := Text.toNat_lt c
  have hvalid : c.toNat < 0xd800 ∨ 0xdfff < c.toNat := by
    rcases c.valid with h | ⟨h, -⟩
    · exact Or.inl h
    · exact Or.inr h
  rw [utf8EncodeChar_eq]
  split
  · next h =>
    have hlead := LeadOf.one h
    rw [Char.ofNat_toNat] at hlead
    exact Or.inl ⟨_, rfl, lead_ofNat (by omega) hlead⟩
  split
  · exact Or.inr ⟨_, _, lead_ofNat (by omega) (.two (by omega) (by omega)), Nat.succ_pos _,
      allows_two.mpr (by omega), rfl⟩
  split
  · exact Or.inr ⟨_, _, lead_ofNat (by omega) (.three (by omega) (by omega)), Nat.succ_pos _,
      (allows_three (by omega) (by omega)).mpr ⟨by omega, by omega, by omega⟩, rfl⟩
  · exact Or.inr ⟨_, _, lead_ofNat (by omega) (.four (by omega) (by omega)), Nat.succ_pos _,
      (allows_four (by omega) (by omega)).mpr ⟨by omega, by omega, by omega⟩, rfl⟩

variable {i : Inside} {k n : Nat}

/-- The reader takes the next byte of a number that its continuation allows. -/
lemma decodeFrom_cons_of_allows (howed : i.rest.owed = k + 1) (h : i.rest.Allows n) (pos : Nat)
    (bs : List UInt8) :
    decodeFrom pos (some i) (UInt8.ofNat (0x80 + leadingBits k n % 64) :: bs) =
      if k = 0 then (decodeFrom (pos + 1) none bs).map (Char.ofNat n :: ·)
      else decodeFrom (pos + 1)
        (some { i with seen := i.seen + 1, rest := ⟨k, 0x80, 0xbf, leadingBits k n⟩ }) bs := by
  have hsix : leadingBits k n % 64 < 64 := Nat.mod_lt _ (by decide)
  have hbyte : (UInt8.ofNat (0x80 + leadingBits k n % 64)).toNat = 0x80 + leadingBits k n % 64 :=
    toNat_ofNat_of_lt (by omega)
  have hbits : 64 * i.rest.bits + (0x80 + leadingBits k n % 64 - 0x80) = leadingBits k n := by
    rw [← h.bits_eq, howed, Nat.add_sub_cancel_left]
    exact Nat.div_add_mod _ _
  have hlow := h.low_le
  have hhigh := h.le_high
  rw [howed, Nat.add_sub_cancel, ← hbyte, ← UInt8.le_iff_toNat_le] at hlow hhigh
  rw [decodeFrom, if_pos ⟨hlow, hhigh⟩]
  simp only [hbyte, hbits, howed, Nat.add_sub_cancel]
  by_cases hk : k = 0
  · simp [hk, leadingBits]
  · simp [hk]

/-- A character that has been begun is completed by the bytes of a number that is allowed. -/
lemma decodeFrom_following (howed : i.rest.owed = k + 1) (h : i.rest.Allows n) (pos : Nat)
    (bs : List UInt8) :
    decodeFrom pos (some i) (following (k + 1) n ++ bs) =
      (decodeFrom (pos + (k + 1)) none bs).map (Char.ofNat n :: ·) := by
  induction k generalizing i pos with
  | zero =>
    rw [following, List.cons_append, decodeFrom_cons_of_allows howed h, if_pos rfl]
    rfl
  | succ k ih =>
    rw [following, List.cons_append, decodeFrom_cons_of_allows howed h, if_neg k.succ_ne_zero,
      ih (by rfl) (Continuation.allows_unrestricted _ _), Nat.add_right_comm]
    rfl

/-- A text that has been written is read back, and the reader goes on behind it. -/
lemma decodeFrom_encode_append (t : Text) (pos : Nat) (bs : List UInt8) :
    decodeFrom pos none (encode t ++ bs) = (decodeFrom (pos + size t) none bs).map (t ++ ·) := by
  induction t generalizing pos with
  | nil =>
    change decodeFrom pos none bs = (decodeFrom pos none bs).map id
    cases decodeFrom pos none bs <;> rfl
  | cons c t ih =>
    have hmap : ∀ r : Except DecodeFault Text,
        (r.map (t ++ ·)).map (c :: ·) = r.map (c :: t ++ ·) := by
      intro r
      cases r <;> rfl
    rw [encode_cons, List.append_assoc, size_cons, ← Nat.add_assoc, ← hmap, ← ih]
    rcases exists_lead_of_char c with ⟨b, hb, hlead⟩ | ⟨b, p, hlead, howed, hallows, hb⟩
    · rw [hb, List.singleton_append, decodeFrom, hlead]
      rfl
    · obtain ⟨k, hk⟩ := Nat.exists_eq_succ_of_ne_zero (Nat.ne_of_gt howed)
      rw [hb, List.cons_append, decodeFrom, hlead, List.length_cons, length_following, hk]
      change decodeFrom (pos + 1) (some ⟨pos, b, 1, p⟩) _ = _
      rw [decodeFrom_following hk hallows, Char.ofNat_toNat, Nat.add_assoc, Nat.add_comm 1]

/-! ## From bytes to texts -/

/-- Bytes that begin a character: every number that the continuation allows is the number of a
character that is written as these bytes and the bytes that hold the rest of the number. -/
structure Begins (bytes : List UInt8) (p : Continuation) : Prop where
  owed_pos : 0 < p.owed
  le_low : 0x80 ≤ p.low.toNat
  high_le : p.high.toNat ≤ 0xbf
  encode_eq : ∀ n, p.Allows n → ∃ c : Char, c.toNat = n ∧
    utf8EncodeChar c = bytes ++ following p.owed n

/-- A byte that is a character by itself is written as it is. -/
lemma utf8EncodeChar_of_lead {b : UInt8} {c : Char} (h : lead b = .whole c) :
    utf8EncodeChar c = [b] := by
  have hlead := leadOf_lead b
  rw [h] at hlead
  cases hlead with
  | one hlt =>
    obtain ⟨c, hc⟩ := Text.exists_char (n := b.toNat) (by omega)
    rw [← hc, Char.ofNat_toNat, utf8EncodeChar_eq, if_pos (by omega), hc, UInt8.ofNat_toNat]

/-- A first byte begins a character. -/
lemma begins_of_lead {b : UInt8} {p : Continuation} (h : lead b = .begun p) : Begins [b] p := by
  have hlead := leadOf_lead b
  rw [h] at hlead
  cases hlead with
  | two hlow hhigh =>
    refine ⟨Nat.succ_pos _, Nat.le_refl _, Nat.le_refl _, fun n hn => ?_⟩
    have hbits := allows_two.mp hn
    obtain ⟨c, rfl⟩ := Text.exists_char (n := n) (by omega)
    have hb : 0xc0 + c.toNat / 64 = b.toNat := by omega
    refine ⟨c, rfl, ?_⟩
    rw [utf8EncodeChar_eq, if_neg (by omega), if_pos (by omega), hb, UInt8.ofNat_toNat]
    rfl
  | three hlow hhigh =>
    refine ⟨Nat.succ_pos _, ?_, ?_, fun n hn => ?_⟩
    · dsimp only
      split <;> decide
    · dsimp only
      split <;> decide
    obtain ⟨hbits, hle, hgap⟩ := (allows_three hlow hhigh).mp hn
    obtain ⟨c, rfl⟩ := Text.exists_char (n := n) (by omega)
    have hb : 0xe0 + c.toNat / 4096 = b.toNat := by omega
    refine ⟨c, rfl, ?_⟩
    rw [utf8EncodeChar_eq, if_neg (by omega), if_neg (by omega), if_pos (by omega), hb,
      UInt8.ofNat_toNat]
    rfl
  | four hlow hhigh =>
    refine ⟨Nat.succ_pos _, ?_, ?_, fun n hn => ?_⟩
    · dsimp only
      split <;> decide
    · dsimp only
      split <;> decide
    obtain ⟨hbits, hle, hlast⟩ := (allows_four hlow hhigh).mp hn
    obtain ⟨c, rfl⟩ := Text.exists_char (n := n) (by omega)
    have hb : 0xf0 + c.toNat / 262144 = b.toNat := by omega
    refine ⟨c, rfl, ?_⟩
    rw [utf8EncodeChar_eq, if_neg (by omega), if_neg (by omega), if_neg (by omega), hb,
      UInt8.ofNat_toNat]
    rfl

/-- The next byte in the range is the next byte of every number that it leaves allowed. -/
lemma Begins.encode_eq_of_bits {part : List UInt8} {p : Continuation} {b : UInt8}
    (h : Begins part p) (hlow : p.low ≤ b) (hhigh : b ≤ p.high) {k n : Nat} (howed : p.owed = k + 1)
    (hn : leadingBits k n = 64 * p.bits + (b.toNat - 0x80)) :
    ∃ c : Char, c.toNat = n ∧ utf8EncodeChar c = part ++ [b] ++ following k n := by
  have hle := h.le_low
  have hge := h.high_le
  rw [UInt8.le_iff_toNat_le] at hlow hhigh
  have hbyte : 0x80 + leadingBits k n % 64 = b.toNat := by omega
  have hallows : p.Allows n := by
    refine ⟨?_, ?_, ?_⟩
    · rw [howed, leadingBits]
      omega
    · rwa [howed, Nat.add_sub_cancel, hbyte]
    · rwa [howed, Nat.add_sub_cancel, hbyte]
  obtain ⟨c, hc, hencode⟩ := h.encode_eq n hallows
  refine ⟨c, hc, ?_⟩
  rw [hencode, howed, following, hbyte, UInt8.ofNat_toNat, List.append_assoc]
  rfl

/-- A character that needs more bytes goes on with the next byte in the range. -/
lemma Begins.append {part : List UInt8} {p : Continuation} {b : UInt8} (h : Begins part p)
    (hlow : p.low ≤ b) (hhigh : b ≤ p.high) {k : Nat} (howed : p.owed = k + 1) (hk : k ≠ 0) :
    Begins (part ++ [b]) ⟨k, 0x80, 0xbf, 64 * p.bits + (b.toNat - 0x80)⟩ where
  owed_pos := Nat.pos_of_ne_zero hk
  le_low := Nat.le_refl _
  high_le := Nat.le_refl _
  encode_eq _ hn := h.encode_eq_of_bits hlow hhigh howed hn.bits_eq

/-- A character that needs one byte is completed by the next byte in the range. -/
lemma Begins.encode_of_owed_eq_one {part : List UInt8} {p : Continuation} {b : UInt8}
    (h : Begins part p) (hlow : p.low ≤ b) (hhigh : b ≤ p.high) (howed : p.owed = 1) :
    utf8EncodeChar (Char.ofNat (64 * p.bits + (b.toNat - 0x80))) = part ++ [b] := by
  obtain ⟨c, hc, hencode⟩ := h.encode_eq_of_bits hlow hhigh howed rfl
  rw [← hc, Char.ofNat_toNat, hencode]
  exact List.append_nil _

/-! ## Runs of the reader -/

/-- What the reader says of bytes whose first one is at the offset `start`: it has read a text that is
written as these bytes, or it stops behind one that is written as the first of them. -/
inductive Reads (start : Nat) (bytes : List UInt8) : Except DecodeFault Text → Prop
  | read {t : Text} (h : bytes = encode t) : Reads start bytes (.ok t)
  | stops {t : Text} {rest : List UInt8} {f : DecodeFault} (h : bytes = encode t ++ rest)
      (hstart : f.start = start + size t) : Reads start bytes (.error f)

/-- What has been read of the character that the reader is in. -/
inductive Holds (start : Nat) : List UInt8 → Option Inside → Prop
  | between : Holds start [] none
  | inside {part : List UInt8} {i : Inside} (hstart : i.start = start)
      (h : Begins part i.rest) : Holds start part (some i)

lemma Reads.cons {start : Nat} {part bytes : List UInt8} {r : Except DecodeFault Text} {c : Char}
    (h : Reads (start + part.length) bytes r) (hpart : utf8EncodeChar c = part) :
    Reads start (part ++ bytes) (r.map (c :: ·)) := by
  subst hpart
  cases h with
  | @read t h =>
    refine .read ?_
    rw [h]
    rfl
  | @stops t rest f h hstart =>
    have hbytes : utf8EncodeChar c ++ bytes = encode (c :: t) ++ rest := by
      rw [h, ← List.append_assoc, encode_cons]
    refine .stops hbytes ?_
    rw [hstart, size_cons, Nat.add_assoc]

/-- The reader keeps to what it knows of the character that it is in. -/
lemma reads_decodeFrom {start : Nat} {part : List UInt8} {state : Option Inside}
    (h : Holds start part state) (bytes : List UInt8) :
    Reads start (part ++ bytes) (decodeFrom (start + part.length) state bytes) := by
  induction bytes generalizing start part state with
  | nil =>
    cases h with
    | between => exact .read rfl
    | inside hstart h => exact .stops (t := []) rfl hstart
  | cons b bytes ih =>
    cases h with
    | between =>
      rw [List.nil_append, List.length_nil, Nat.add_zero, decodeFrom]
      cases hlead : lead b with
      | whole c => exact (ih .between).cons (utf8EncodeChar_of_lead hlead)
      | begun p => exact ih (.inside (i := ⟨start, b, 1, p⟩) rfl (begins_of_lead hlead))
      | none => exact .stops (t := []) rfl rfl
    | @inside _ i hstart h =>
      have hpart : part ++ b :: bytes = part ++ [b] ++ bytes := by simp
      have hlength : start + part.length + 1 = start + (part ++ [b]).length := by
        rw [List.length_append, List.length_singleton, Nat.add_assoc]
      rw [decodeFrom]
      split
      · next hrange =>
        dsimp only
        rw [hpart, hlength]
        split
        · next howed =>
          exact (ih .between).cons (h.encode_of_owed_eq_one hrange.1 hrange.2 howed)
        · next howed =>
          have howed' : i.rest.owed = i.rest.owed - 1 + 1 := by
            have hpos := h.owed_pos
            omega
          exact ih (.inside hstart (h.append hrange.1 hrange.2 howed' (by omega)))
      · exact .stops (t := []) rfl hstart

/-! ## Bytes that are text -/

/-- The bytes are those of a text. -/
def IsWellFormed (bytes : List UInt8) : Prop := ∃ t, encode t = bytes

/-- The longest well-formed part that the bytes begin with ends here. -/
structure IsWellFormedUpTo (bytes : List UInt8) (n : Nat) : Prop where
  exists_part : ∃ part, part <+: bytes ∧ IsWellFormed part ∧ part.length = n
  length_le : ∀ part, part <+: bytes → IsWellFormed part → part.length ≤ n

/-- A text that has been written is read back. -/
lemma decode_encode (t : Text) : decode (encode t) = .ok t := by
  have hrun := decodeFrom_encode_append t 0 []
  rw [List.append_nil] at hrun
  rw [decode, hrun, decodeFrom, Except.map, List.append_nil]

/-- Bytes that are refused are at fault behind the longest part that is text. -/
lemma isWellFormedUpTo_of_decode {bytes : List UInt8} {f : DecodeFault}
    (h : decode bytes = .error f) : IsWellFormedUpTo bytes f.start := by
  have hreads : ∀ (start : Nat) (bytes : List UInt8),
      Reads start bytes (decodeFrom start none bytes) := fun _ bytes =>
    reads_decodeFrom .between bytes
  refine ⟨?_, ?_⟩
  · have hbytes := hreads 0 bytes
    rw [← decode, h] at hbytes
    cases hbytes with
    | @stops t rest f hsplit hstart =>
      refine ⟨encode t, ⟨rest, hsplit.symm⟩, ⟨t, rfl⟩, ?_⟩
      rw [hstart, Nat.zero_add, size]
  · rintro part ⟨rest, rfl⟩ ⟨t, rfl⟩
    -- Behind a text the reader goes on, so that it stops no earlier.
    rw [decode, decodeFrom_encode_append, Nat.zero_add] at h
    have hrest := hreads (size t) rest
    cases hrun : decodeFrom (size t) none rest with
    | ok u =>
      rw [hrun] at h
      cases h
    | error g =>
      rw [hrun] at h hrest
      cases h
      cases hrest with
      | stops hsplit hstart =>
        rw [hstart]
        exact Nat.le_add_right _ _

/-- Bytes are read as a text when they are the bytes of this text. -/
lemma decode_eq_ok_iff {bytes : List UInt8} {t : Text} :
    decode bytes = .ok t ↔ encode t = bytes := by
  constructor
  · intro h
    have hbytes : Reads 0 bytes (decode bytes) := reads_decodeFrom .between bytes
    rw [h] at hbytes
    cases hbytes with
    | read hsplit => exact hsplit.symm
  · rintro rfl
    exact decode_encode t

end RelationAtlas.Utf8
