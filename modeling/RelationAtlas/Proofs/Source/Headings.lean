import RelationAtlas.Proofs.Source.Headers

/-!
# Headers as they are written

A `Heading` is the header of a public method without parameters as it stands in a file: its words,
its parentheses, perhaps the type that the method returns, and the blanks between these parts.  A
header is read exactly where a heading is written in front of an opening brace
(`header?_eq_some_iff`).

No header begins inside another one (`header?_of_inside`), although the name of a method and the type
that it returns may hold the words with which headers begin: a name is followed by a parenthesis and
a type by a brace, but the first word of a header by the second.
-/

namespace RelationAtlas

open Text

/-- The type that a method returns, as it is written behind the parentheses. -/
structure ReturnType where
  before : Blanks
  isOptional : Bool
  type : Text
  ne_nil : type ≠ []
  isTypeChar : ∀ c ∈ type, Method.isTypeChar c = true
  behind : Blanks

/-- The header of a method as it is written, up to its opening brace. -/
structure Heading where
  behindPublic : Gap
  behindFunction : Gap
  name : Word
  beforeParentheses : Blanks
  inParentheses : Blanks
  behindParentheses : Blanks
  returns : Option ReturnType

/-- The text of a type that a method returns. -/
def ReturnType.text (r : ReturnType) : Text :=
  ':' :: (r.before.text ++ ((if r.isOptional then ['?'] else []) ++ (r.type ++ r.behind.text)))

namespace Heading

/-- The text of the type, if there is one. -/
def returnText (h : Heading) : Text := (h.returns.map ReturnType.text).getD []

/-- The text of a header, up to its opening brace. -/
def text (h : Heading) : Text :=
  "public".toList ++ (h.behindPublic.text ++ ("function".toList ++ (h.behindFunction.text ++
    (h.name.text ++ (h.beforeParentheses.text ++ '(' :: (h.inParentheses.text ++
      ')' :: (h.behindParentheses.text ++ h.returnText)))))))

/-- The parts of a header in front of another text. -/
lemma text_append (h : Heading) (t : Text) :
    h.text ++ t = "public".toList ++ (h.behindPublic.text ++ ("function".toList ++
      (h.behindFunction.text ++ (h.name.text ++ (h.beforeParentheses.text ++
        '(' :: (h.inParentheses.text ++ ')' :: (h.behindParentheses.text ++
          (h.returnText ++ t)))))))) := by
  unfold text
  simp only [List.append_assoc, List.cons_append]

/-- What stands behind the parentheses and the blanks there begins with no blank. -/
lemma isBlank_of_head_returnText (h : Heading) (t : Text) :
    ∀ c ∈ (h.returnText ++ '{' :: t).head?, isBlank c = false := by
  cases hreturns : h.returns with
  | none => simp [returnText, hreturns]; decide
  | some r => simp [returnText, hreturns, ReturnType.text]; decide

end Heading

namespace Method

/-! ## Reading a header -/

/-- No blank is a character of a type. -/
lemma isBlank_eq_false_of_isTypeChar {c : Char} (h : isTypeChar c = true) : isBlank c = false := by
  rcases (by simpa [isTypeChar] using h : Name.isNameChar c = true ∨ c = '|') with hname | rfl
  · exact isBlank_eq_false_of_isNameChar hname
  · decide

lemma isTypeChar_eq_false_of_isBlank {c : Char} (h : isBlank c = true) : isTypeChar c = false :=
  Bool.eq_false_iff.mpr fun htype => by
    rw [isBlank_eq_false_of_isTypeChar htype] at h
    cases h

/-- At most one question mark is dropped. -/
lemma exists_questionMark (t : Text) :
    ∃ optional : Bool, t = (if optional then ['?'] else []) ++ dropQuestionMark t := by
  unfold dropQuestionMark
  split
  · exact ⟨true, rfl⟩
  · exact ⟨false, rfl⟩

/-- What precedes an opening brace behind the parentheses is a type or nothing. -/
lemma exists_returns {t rest : Text} (h : afterReturnType? (dropBlanks t) = some rest)
    (hbrace : rest.head? = some '{') : ∃ (s : Blanks) (r : Option ReturnType),
      t = s.text ++ ((r.map ReturnType.text).getD [] ++ rest) := by
  obtain ⟨s, hs⟩ := exists_blanks t
  unfold afterReturnType? at h
  split at h
  · next cs hcolon =>
    obtain ⟨⟨type, u⟩, hrun, rfl⟩ := Option.map_eq_some_iff.mp h
    obtain ⟨htype, hne, hall, -⟩ := run?_eq_some_iff.mp hrun
    obtain ⟨before, hbefore⟩ := exists_blanks cs
    obtain ⟨behind, hbehind⟩ := exists_blanks u
    obtain ⟨optional, hmark⟩ := exists_questionMark (dropBlanks cs)
    refine ⟨s, some ⟨before, optional, type, hne, hall, behind⟩, ?_⟩
    calc t = s.text ++ ':' :: cs := by rw [← hcolon]; exact hs
      _ = s.text ++ ':' :: (before.text ++ dropBlanks cs) := by rw [← hbefore]
      _ = s.text ++ ':' :: (before.text ++ ((if optional then ['?'] else []) ++
            dropQuestionMark (dropBlanks cs))) := by rw [← hmark]
      _ = s.text ++ ':' :: (before.text ++ ((if optional then ['?'] else []) ++
            (type ++ (behind.text ++ dropBlanks u)))) := by rw [← hbehind, ← htype]
      _ = _ := by simp [ReturnType.text]
  · obtain rfl := Option.some.inj h
    exact ⟨s, none, hs⟩

/-- Nothing is dropped from a text that begins with no question mark. -/
lemma dropQuestionMark_of_head {t : Text} (h : ∀ c ∈ t.head?, c ≠ '?') :
    dropQuestionMark t = t := by
  unfold dropQuestionMark
  split
  · exact absurd rfl (h '?' (by simp))
  · rfl

/-- A type in front of an opening brace is passed. -/
lemma afterReturnType?_append (r : Option ReturnType) (t : Text) :
    afterReturnType? ((r.map ReturnType.text).getD [] ++ '{' :: t) = some ('{' :: t) := by
  cases r with
  | none => rfl
  | some r =>
    have htext : (((some r).map ReturnType.text).getD []) ++ '{' :: t =
        ':' :: (r.before.text ++ ((if r.isOptional then ['?'] else []) ++
          (r.type ++ (r.behind.text ++ '{' :: t)))) := by
      simp [ReturnType.text]
    have hhead : ∀ c ∈ (r.type ++ (r.behind.text ++ '{' :: t)).head?, isTypeChar c = true := by
      obtain ⟨c, cs, hc⟩ := List.exists_cons_of_ne_nil r.ne_nil
      rw [hc]
      rintro d hd
      obtain rfl : c = d := by simpa using hd
      exact r.isTypeChar c (by simp [hc])
    have hdrop : dropQuestionMark (dropBlanks (r.before.text ++
        ((if r.isOptional then ['?'] else []) ++ (r.type ++ (r.behind.text ++ '{' :: t))))) =
          r.type ++ (r.behind.text ++ '{' :: t) := by
      cases r.isOptional with
      | true => rw [if_pos rfl, r.before.dropBlanks_append (by simp; decide)]; rfl
      | false =>
        rw [if_neg (by simp), List.nil_append, r.before.dropBlanks_append
          fun c hc => isBlank_eq_false_of_isTypeChar (hhead c hc)]
        have hmark : isTypeChar '?' = false := by decide +kernel
        exact dropQuestionMark_of_head fun c hc heq => by simp [heq ▸ hhead c hc] at hmark
    have hstop : ∀ c ∈ (r.behind.text ++ '{' :: t).head?, isTypeChar c = false :=
      r.behind.not_of_head (fun _ => isTypeChar_eq_false_of_isBlank) (by simp; decide +kernel)
    rw [htext, afterReturnType?, hdrop, run?_append_eq r.ne_nil r.isTypeChar hstop, Option.map_some,
      r.behind.dropBlanks_append (by simp; decide)]

/-- A header that is read is a heading. -/
lemma exists_heading {t name rest : Text} (h : header? t = some (name, rest)) :
    ∃ h : Heading, h.name.text = name ∧ t = h.text ++ rest ∧ rest.head? = some '{' := by
  simp only [header?, Option.bind_eq_bind, Option.bind_eq_some_iff] at h
  obtain ⟨t1, h1, t2, h2, t3, h3, t4, h4, ⟨w, t5⟩, h5, t6, h6, t7, h7, t8, h8, h9⟩ := h
  dsimp only at h6 h9
  split at h9
  · next hbrace =>
    simp only [Option.some.injEq, Prod.mk.injEq] at h9
    obtain ⟨rfl, rfl⟩ := h9
    obtain ⟨g1, hg1⟩ := exists_gap h2
    obtain ⟨g2, hg2⟩ := exists_gap h4
    obtain ⟨hname, hne, hword, -⟩ := run?_eq_some_iff.mp h5
    obtain ⟨s1, hs1⟩ := exists_blanks t5
    obtain ⟨s2, hs2⟩ := exists_blanks t6
    obtain ⟨s3, returns, hs3⟩ := exists_returns h8 hbrace
    refine ⟨⟨g1, g2, ⟨w, hne, hword⟩, s1, s2, s3, returns⟩, rfl, ?_, hbrace⟩
    calc t = "public".toList ++ t1 := after?_eq_some_iff.mp h1
      _ = "public".toList ++ (g1.text ++ ("function".toList ++ t3)) := by
          rw [hg1, after?_eq_some_iff.mp h3]
      _ = "public".toList ++ (g1.text ++ ("function".toList ++ (g2.text ++
            (w ++ (s1.text ++ '(' :: t6))))) := by
          rw [hg2, hname, hs1, after?_eq_some_iff.mp h6]
          simp
      _ = "public".toList ++ (g1.text ++ ("function".toList ++ (g2.text ++
            (w ++ (s1.text ++ '(' :: (s2.text ++ ')' :: (s3.text ++
              ((returns.map ReturnType.text).getD [] ++ t8)))))))) := by
          rw [hs2, after?_eq_some_iff.mp h7, hs3]
          simp
      _ = _ := by rw [Heading.text_append]; rfl
  · cases h9

/-- A heading in front of an opening brace is read. -/
lemma header?_text (h : Heading) (t : Text) :
    header? (h.text ++ '{' :: t) = some (h.name.text, '{' :: t) := by
  have hname : ∀ c ∈ (h.beforeParentheses.text ++ '(' :: (h.inParentheses.text ++ ')' ::
      (h.behindParentheses.text ++ (h.returnText ++ '{' :: t)))).head?, isWord c = false :=
    h.beforeParentheses.not_of_head (fun _ => isWord_eq_false_of_isBlank)
      (by simpa using Name.isWord_of_delimiter (by decide))
  rw [h.text_append, header?, after?_append]
  simp only [Option.bind_eq_bind, Option.bind_some]
  rw [h.behindPublic.afterBlanks?_append (isBlank_of_head_append (c := 'f') rfl (by decide) _),
    Option.bind_some, after?_append, Option.bind_some,
    h.behindFunction.afterBlanks?_append (h.name.isBlank_of_head _), Option.bind_some,
    run?_append_eq h.name.ne_nil h.name.isWord hname, Option.bind_some]
  dsimp only
  rw [h.beforeParentheses.dropBlanks_append (by simp; decide), after?_sign, Option.bind_some,
    h.inParentheses.dropBlanks_append (by simp; decide), after?_sign, Option.bind_some,
    h.behindParentheses.dropBlanks_append (h.isBlank_of_head_returnText t), Heading.returnText,
    afterReturnType?_append, Option.bind_some]
  rfl

/-- A header is read where a heading is written in front of an opening brace. -/
theorem header?_eq_some_iff {t name rest : Text} :
    header? t = some (name, rest) ↔
      ∃ h : Heading, h.name.text = name ∧ t = h.text ++ rest ∧ rest.head? = some '{' := by
  constructor
  · exact exists_heading
  · rintro ⟨h, rfl, rfl, hbrace⟩
    obtain ⟨cs, rfl⟩ := List.head?_eq_some_iff.mp hbrace
    exact header?_text h cs

/-- The reader of methods reads a heading in front of an opening brace. -/
lemma reader_text (h : Heading) (t : Text) : reader.read? (h.text ++ '{' :: t) =
    some (⟨h.name.text, untilHeader ('{' :: t)⟩, '{' :: t) := by
  change (header? _).map _ = _
  rw [header?_text]
  rfl

/-! ## Headers inside headers -/

/-- No header begins in the type that a method returns. -/
lemma passed_returnText (h : Heading) (t : Text) : Passed header? h.returnText ('{' :: t) := by
  cases hreturns : h.returns with
  | none =>
    rw [Heading.returnText, hreturns]
    trivial
  | some r =>
    have htext : h.returnText = [':'] ++ (r.before.text ++ ((if r.isOptional then ['?'] else []) ++
        (r.type ++ r.behind.text))) := by
      rw [Heading.returnText, hreturns]
      rfl
    have hmark : 'p' ∉ if r.isOptional then ['?'] else [] := by
      split <;> simp
    have htype : Passed header? r.type (r.behind.text ++ '{' :: t) :=
      passed_run_blanks (fun c hc => by simp [isTypeChar, isNameChar_public c hc])
        (fun _ => isBlank_eq_false_of_isTypeChar) r.isTypeChar r.behind (by decide +kernel)
        (by decide) (by decide) t
    rw [htext]
    refine passed_append.mpr ⟨passed_header (by simp) _, ?_⟩
    refine passed_append.mpr ⟨passed_blanks _ _, ?_⟩
    refine passed_append.mpr ⟨passed_header hmark _, ?_⟩
    exact passed_append.mpr ⟨htype, passed_blanks _ _⟩

/-- No header begins behind the first character of another one. -/
lemma passed_tail_text (h : Heading) (t : Text) : Passed header? h.text.tail ('{' :: t) := by
  have htail : h.text.tail = "ublic".toList ++ (h.behindPublic.text ++ ("function".toList ++
      (h.behindFunction.text ++ (h.name.text ++ (h.beforeParentheses.text ++
        (['('] ++ (h.inParentheses.text ++ ([')'] ++ (h.behindParentheses.text ++
          h.returnText))))))))) := by
    unfold Heading.text
    rfl
  have hname : Passed header? h.name.text (h.beforeParentheses.text ++
      '(' :: (h.inParentheses.text ++ ([')'] ++ (h.behindParentheses.text ++
        (h.returnText ++ '{' :: t))))) :=
    passed_run_blanks isNameChar_public (fun _ => isBlank_eq_false_of_isNameChar)
      h.name.toName.isNameChar _ (Name.isNameChar_of_delimiter (by decide)) (by decide)
      (by decide) _
  simp only [htail, passed_append, List.append_assoc]
  exact ⟨passed_header (by simp) _, passed_blanks _ _, passed_header (by simp) _,
    passed_blanks _ _, hname, passed_blanks _ _, passed_header (by simp) _, passed_blanks _ _,
    passed_header (by simp) _, passed_blanks _ _, passed_returnText h t⟩

/-- Nothing is read behind the first character of a header, up to its opening brace. -/
theorem header?_of_inside {h : Heading} {front back : Text} (htext : h.text = front ++ back)
    (hfront : front ≠ []) (t : Text) : header? (back ++ '{' :: t) = none := by
  have hpassed := passed_tail_text h t
  rw [htext, List.tail_append_of_ne_nil hfront] at hpassed
  cases back with
  | nil => exact header?_brace t
  | cons c cs => exact (passed_append.mp hpassed).2.1

end Method

end RelationAtlas
