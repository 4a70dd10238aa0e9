import RelationAtlas.Proofs.Source.Names
import RelationAtlas.Proofs.Text.Gaps
import RelationAtlas.Proofs.Text.Places
import RelationAtlas.Source.Method

/-!
# Where no header begins

A header needs two words one after the other, so a name is no beginning of one unless the second word
follows (`passed_name`), and neither is a text without the first word unless that word is completed
behind it (`passed_of_not_infix`).  The span of a method goes on over everything that is passed over
(`untilHeader_of_passed`), and so does the search for methods (`passed_reader`).
-/

namespace RelationAtlas.Method

open Text

/-! ## The two words -/

/-- What may make a header of the text in front: blanks and the word for functions. -/
def afterFunction? (t : Text) : Option Text :=
  (afterBlanks? t).bind (after? "function".toList)

/-- There is no header where the second word does not follow the first. -/
lemma header?_eq_none {t : Text}
    (h : ∀ rest, after? "public".toList t = some rest → afterFunction? rest = none) :
    header? t = none := by
  cases hpublic : after? "public".toList t with
  | none =>
    rw [header?, hpublic]
    rfl
  | some rest =>
    have hnone := h rest hpublic
    rw [header?, hpublic]
    simp only [Option.bind_eq_bind, Option.bind_some]
    cases hblank : afterBlanks? rest with
    | none => rfl
    | some u =>
      rw [afterFunction?, hblank, Option.bind_some] at hnone
      rw [Option.bind_some, hnone]
      rfl

/-- No header begins with another character. -/
lemma passed_header {u : Text} (h : 'p' ∉ u) (t : Text) : Passed header? u t := by
  refine passed_of_forall (fun c hc s => header?_eq_none fun rest hrest => ?_) t
  obtain ⟨rfl, -⟩ : c = 'p' ∧ s = "ublic".toList ++ rest :=
    List.cons.inj (after?_eq_some_iff.mp hrest)
  exact absurd hc h

/-- No header begins with a brace. -/
lemma header?_brace (cs : Text) : header? ('{' :: cs) = none :=
  (passed_header (u := ['{']) (by simp) cs).1

/-- No header begins in a text without the first word, if that word is not completed behind the
text. -/
lemma passed_of_not_infix {u t : Text} (h : ¬ "public".toList <:+: u)
    (ht : ∀ c ∈ t.head?, c ∉ "ublic".toList) : Passed header? u t := by
  induction u with
  | nil => trivial
  | cons c u ih =>
    refine ⟨header?_eq_none fun rest hrest => ?_,
      ih fun hu => h (hu.trans (List.suffix_cons c u).isInfix)⟩
    have htext : (c :: u) ++ t = "public".toList ++ rest := after?_eq_some_iff.mp hrest
    rcases List.append_eq_append_iff.mp htext with ⟨a, ha, rfl⟩ | ⟨a, ha, -⟩
    · cases a with
      | nil => exact absurd ⟨[], [], by rw [ha]; simp⟩ h
      | cons d ds =>
        have htail : "ublic".toList = u ++ d :: ds := (List.cons.inj ha).2
        exact absurd (by rw [htail]; simp) (ht d (by simp))
    · exact absurd ⟨[], a, ha.symm⟩ h

/-! ## Runs of characters -/

/-- There is no header at a run of characters that is not followed by the second word.  The class of
the run has no blanks, and the first word belongs to it. -/
lemma header?_run {p : Char → Bool} (hpublic : ∀ c ∈ "public".toList, p c = true)
    (hblank : ∀ c, p c = true → isBlank c = false) {w rest : Text} (hw : ∀ c ∈ w, p c = true)
    (hend : ∀ c ∈ rest.head?, p c = false) (hrest : afterFunction? rest = none) :
    header? (w ++ rest) = none := by
  refine header?_eq_none fun u hu => ?_
  -- Either the run ends with the first word, or one of the two goes on where the other ends.
  rcases List.append_eq_append_iff.mp (after?_eq_some_iff.mp hu) with ⟨a, ha, hrest'⟩ | ⟨a, ha, rfl⟩
  · cases a with
    | nil => rwa [hrest'] at hrest
    | cons c cs =>
      have hfalse := hend c (by simp [hrest'])
      rw [hpublic c (by rw [ha]; simp)] at hfalse
      cases hfalse
  · cases a with
    | nil => exact hrest
    | cons c cs =>
      have hc : isBlank c = false := hblank c (hw c (by simp [ha]))
      rw [afterFunction?, afterBlanks?_eq_none (by simpa using hc)]
      rfl

/-- A run is passed over unless the second word follows. -/
lemma passed_run {p : Char → Bool} (hpublic : ∀ c ∈ "public".toList, p c = true)
    (hblank : ∀ c, p c = true → isBlank c = false) {w rest : Text} (hw : ∀ c ∈ w, p c = true)
    (hend : ∀ c ∈ rest.head?, p c = false) (hrest : afterFunction? rest = none) :
    Passed header? w rest := by
  induction w with
  | nil => trivial
  | cons c w ih =>
    exact ⟨header?_run hpublic hblank hw hend hrest, ih fun d hd => hw d (by simp [hd])⟩

/-- No header begins in blanks. -/
lemma passed_blanks (s : Blanks) (t : Text) : Passed header? s.text t :=
  passed_header (fun hp => absurd (s.isBlank 'p' hp) (by decide)) t

/-- The second word of a header does not follow where another character follows the blanks. -/
lemma afterFunction?_eq_none (s : Blanks) {c : Char} (hblank : isBlank c = false) (hc : c ≠ 'f')
    (t : Text) : afterFunction? (s.text ++ c :: t) = none := by
  by_cases hs : s.text = []
  · rw [hs, List.nil_append, afterFunction?, afterBlanks?_eq_none (by simpa using hblank)]
    rfl
  · rw [afterFunction?, Gap.afterBlanks?_append ⟨s, hs⟩ (by simpa using hblank), Option.bind_some]
    cases hfunction : after? "function".toList (c :: t) with
    | none => rfl
    | some rest =>
      obtain ⟨rfl, -⟩ : c = 'f' ∧ t = "unction".toList ++ rest :=
        List.cons.inj (after?_eq_some_iff.mp hfunction)
      exact absurd rfl hc

/-- A run is passed over in front of blanks and a sign. -/
lemma passed_run_blanks {p : Char → Bool} (hpublic : ∀ c ∈ "public".toList, p c = true)
    (hblank : ∀ c, p c = true → isBlank c = false) {w : Text} (hw : ∀ c ∈ w, p c = true)
    (s : Blanks) {d : Char} (hp : p d = false) (hd : isBlank d = false) (hf : d ≠ 'f') (t : Text) :
    Passed header? w (s.text ++ d :: t) := by
  refine passed_run hpublic hblank hw (s.not_of_head (fun c hc => ?_) (by simpa using hp))
    (afterFunction?_eq_none s hd hf t)
  exact Bool.eq_false_iff.mpr fun hclass => by simp [hblank c hclass] at hc

/-- The first word of a header is a name. -/
lemma isNameChar_public : ∀ c ∈ "public".toList, Name.isNameChar c = true :=
  List.all_eq_true.mp (by decide +kernel)

/-- A name is passed over unless the second word follows. -/
lemma passed_name (n : SpelledName) {rest : Text}
    (hend : ∀ c ∈ rest.head?, Name.isNameChar c = false) (hrest : afterFunction? rest = none) :
    Passed header? n.text rest :=
  passed_run isNameChar_public (fun _ => isBlank_eq_false_of_isNameChar) n.isNameChar hend hrest

/-- A name is passed over in front of a delimiter that is no blank. -/
lemma passed_name_cons (n : SpelledName) {d : Char} (hd : d ∈ Name.delimiters)
    (hblank : isBlank d = false) (t : Text) : Passed header? n.text (d :: t) :=
  passed_run_blanks isNameChar_public (fun _ => isBlank_eq_false_of_isNameChar) n.isNameChar .empty
    (Name.isNameChar_of_delimiter hd) hblank (fun hf => absurd (hf ▸ hd) (by decide)) t

/-! ## Spans and methods -/

/-- The span of a method goes on over what is passed over. -/
lemma untilHeader_of_passed {u t : Text} (h : Passed header? u t) :
    untilHeader (u ++ t) = u ++ untilHeader t := by
  induction u with
  | nil => rfl
  | cons c u ih =>
    rw [List.cons_append, untilHeader, if_neg (by simp [h.1]), ih h.2]
    rfl

/-- The reader of methods passes over what no header begins in. -/
lemma passed_reader {u t : Text} (h : Passed header? u t) : Passed reader.read? u t := by
  induction u with
  | nil => trivial
  | cons c u ih => exact ⟨by simp [reader, h.1], ih h.2⟩

end RelationAtlas.Method
