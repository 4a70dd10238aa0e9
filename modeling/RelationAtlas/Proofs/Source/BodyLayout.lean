import RelationAtlas.Proofs.Source.BodyTokens
import RelationAtlas.Proofs.Source.Calls
import RelationAtlas.Proofs.Source.Headings

/-!
# Bodies as they are written

A `BodyLayout` is the body of a method with any number of calls and any code around them, provided
that this code has no quotes, comments or arrows and that its braces are balanced.  The body ends
with its own last brace (`BodyLayout.ofText_append`), no header begins in it
(`BodyLayout.passed_text`), and the calls that are read in it are those that are written, with their
targets as they stand there (`BodyLayout.allWith_text`).

The arguments are local: every part of a body ends where a character follows with which neither a
header nor a call goes on.
-/

namespace RelationAtlas

open Text

/-! ## Balanced braces -/

/-- No front part of the text closes more braces than it opens, and the whole text opens and closes
as many. -/
structure Balanced (t : Text) : Prop where
  count_front_le : ∀ front, front <+: t → front.count '}' ≤ front.count '{'
  count_eq : t.count '{' = t.count '}'

namespace Balanced

/-- A text without braces is balanced. -/
lemma of_notMem {t : Text} (hopen : '{' ∉ t) (hclose : '}' ∉ t) : Balanced t where
  count_front_le front hfront := by
    rw [List.count_eq_zero_of_not_mem fun h => hclose (hfront.subset h)]
    exact Nat.zero_le _
  count_eq := by rw [List.count_eq_zero_of_not_mem hopen, List.count_eq_zero_of_not_mem hclose]

/-- Balanced texts are balanced one after the other. -/
lemma append {t u : Text} (ht : Balanced t) (hu : Balanced u) : Balanced (t ++ u) where
  count_front_le front hfront := by
    obtain ⟨rest, hrest⟩ := hfront
    rcases List.append_eq_append_iff.mp hrest with ⟨a, rfl, -⟩ | ⟨a, rfl, rfl⟩
    · exact ht.count_front_le front (List.prefix_append front a)
    · have := hu.count_front_le a (List.prefix_append a rest)
      rw [List.count_append, List.count_append, ht.count_eq]
      omega
  count_eq := by rw [List.count_append, List.count_append, ht.count_eq, hu.count_eq]

end Balanced

namespace Body

/-- Is the character one with which neither a string nor a comment begins? -/
def isCode (c : Char) : Bool := c != '\'' && c != '"' && c != '#' && c != '/'

/-- A blank begins neither a string nor a comment. -/
lemma isCode_of_isBlank {c : Char} (h : isBlank c = true) : isCode c = true := by
  have hne : ∀ {d : Char}, isBlank d = false → (c != d) = true := fun hd =>
    bne_iff_ne.mpr fun heq => by simp [← heq, h] at hd
  simp only [isCode, Bool.and_eq_true]
  exact ⟨⟨⟨hne (by decide), hne (by decide)⟩, hne (by decide)⟩, hne (by decide)⟩

/-- A character of names begins neither a string nor a comment. -/
lemma isCode_of_isNameChar {c : Char} (h : Name.isNameChar c = true) : isCode c = true := by
  have hne : ∀ {d : Char}, d ∈ Name.delimiters → (c != d) = true := fun hd =>
    bne_iff_ne.mpr (Name.ne_delimiter h hd)
  simp only [isCode, Bool.and_eq_true]
  exact ⟨⟨⟨hne (by decide), hne (by decide)⟩, hne (by decide)⟩, hne (by decide)⟩

/-- Code belongs to the body as long as it does not close all its braces. -/
lemma extent_code_append {u : Text} (hcode : ∀ c ∈ u, isCode c = true) {depth depth' : Nat}
    (hopen : ∀ front, front <+: u → front.count '}' < depth + front.count '{')
    (hdepth : depth + u.count '{' = depth' + u.count '}') (t : Text) :
    extent .code depth (u ++ t) = u ++ extent .code depth' t := by
  induction u generalizing depth with
  | nil =>
    obtain rfl : depth = depth' := by simpa using hdepth
    rfl
  | cons c u ih =>
    have hc := hcode c (by simp)
    simp only [isCode, Bool.and_eq_true, bne_iff_ne] at hc
    obtain ⟨⟨⟨hsingle, hdouble⟩, hhash⟩, hslash⟩ := hc
    have hu : ∀ d ∈ u, isCode d = true := fun d hd => hcode d (by simp [hd])
    have hfront : ∀ front, front <+: u →
        (c :: front).count '}' < depth + (c :: front).count '{' := fun front h =>
      hopen _ (List.cons_prefix_cons.mpr ⟨rfl, h⟩)
    have hnone := hfront [] List.nil_prefix
    rw [List.cons_append, extent_code_cons depth (fun h => hslash h.1) (fun h => hslash h.1),
      if_neg (by simp [hsingle, hdouble]), if_neg hhash, List.cons_append]
    simp only [List.count_cons] at hfront hdepth hnone
    by_cases hopening : c = '{'
    · subst hopening
      have hnext : extent .code (depth + 1) (u ++ t) = u ++ extent .code depth' t := ih hu
        (fun front h => by have := hfront front h; simp at this; omega)
        (by simp at hdepth; omega)
      rw [if_pos rfl, hnext]
    by_cases hclosing : c = '}'
    · subst hclosing
      have hnext : extent .code (depth - 1) (u ++ t) = u ++ extent .code depth' t := ih hu
        (fun front h => by have := hfront front h; simp at this; omega)
        (by simp at hdepth hnone; omega)
      rw [if_neg hopening, if_pos rfl, if_neg (by simp at hnone; omega), hnext]
    · have hnext : extent .code depth (u ++ t) = u ++ extent .code depth' t := ih hu
        (fun front h => by simpa [hopening, hclosing] using hfront front h)
        (by simpa [hopening, hclosing] using hdepth)
      rw [if_neg hopening, if_neg hclosing, hnext]

/-- A body of balanced code ends with the brace behind it. -/
lemma ofText_balanced {u : Text} (hcode : ∀ c ∈ u, isCode c = true) (hu : Balanced u) (t : Text) :
    ofText ('{' :: (u ++ '}' :: t)) = '{' :: (u ++ ['}']) := by
  have hcontent : extent .code 1 (u ++ '}' :: t) = u ++ extent .code 1 ('}' :: t) :=
    extent_code_append hcode (fun front h => by have := hu.count_front_le front h; omega)
      (by rw [hu.count_eq]) _
  have hclose : extent .code 1 ('}' :: t) = ['}'] := by
    rw [extent_code_cons 1 (by simp) (by simp)]
    rfl
  rw [ofText, extent_code_cons 0 (by simp) (by simp), if_neg (by decide), if_neg (by decide),
    if_pos rfl, hcontent, hclose]

end Body

/-! ## Parts of a body -/

/-- Code around calls. -/
structure Filler where
  text : Text
  isAllowed : ∀ c ∈ text, c ∉ ['\'', '"', '#', '/', '>']
  noPublic : ¬ "public".toList <:+: text
  balanced : Balanced text

/-- A call of a class by its name, with the character behind it. -/
structure ClosedCall where
  call : WrittenCall
  isNameChar : ∀ c ∈ call.target.text, Name.isNameChar c = true
  closing : Char
  isClosing : closing = ')' ∨ closing = ','

/-- The body of a method: calls and the code around them. -/
structure BodyLayout where
  first : Filler
  calls : List (ClosedCall × Filler)

/-- The text of a call with the character behind it. -/
def ClosedCall.text (c : ClosedCall) : Text := c.call.text ++ [c.closing]

namespace BodyLayout

/-- The text of calls with the code behind them. -/
def callsText (calls : List (ClosedCall × Filler)) : Text :=
  calls.flatMap fun c => c.1.text ++ c.2.text

/-- The text between the braces of a body. -/
def content (b : BodyLayout) : Text := b.first.text ++ callsText b.calls

/-- The text of a body with its braces. -/
def text (b : BodyLayout) : Text := '{' :: (b.content ++ ['}'])

end BodyLayout

namespace Filler

/-- Neither a string nor a comment begins in code around calls. -/
lemma isCode (f : Filler) : ∀ c ∈ f.text, Body.isCode c = true := by
  intro c hc
  have hallowed := f.isAllowed c hc
  simp only [List.mem_cons, List.not_mem_nil, or_false, not_or] at hallowed
  simp [Body.isCode, hallowed]

/-- No arrow ends in code around calls. -/
lemma notMem_arrow (f : Filler) : '>' ∉ f.text := fun h => absurd (f.isAllowed _ h) (by simp)

end Filler

namespace ClosedCall

/-- The signs that a call is made of, apart from blanks and names. -/
def signs : Text := ['-', '>', '(', ')', ','] ++ Call.classSuffix

/-- The character behind a call is one of the signs, and cannot stand in a target. -/
lemma closing_mem (c : ClosedCall) :
    c.closing ∈ signs ∧ Call.isTargetChar c.closing = false ∧ c.closing ∉ ['p', '-', '>'] := by
  rcases c.isClosing with h | h <;> rw [h] <;> decide

/-- The parts of a call, in front of another text. -/
lemma text_append (c : ClosedCall) (t : Text) : c.text ++ t = "->".toList ++
    (c.call.behindArrow.text ++ (c.call.kind.word ++ (c.call.behindKind.text ++
      '(' :: (c.call.behindParenthesis.text ++ (c.call.target.text ++
        (Call.classSuffix ++ c.closing :: t)))))) := by
  rw [text, WrittenCall.text, List.append_assoc, List.append_assoc, List.append_assoc,
    WrittenCall.opening_append]
  rfl

/-- A call is made of blanks, characters of names and signs. -/
lemma forall_mem_text {P : Char → Prop} (hblank : ∀ d, isBlank d = true → P d)
    (hname : ∀ d, Name.isNameChar d = true → P d) (hsign : ∀ d ∈ signs, P d) (c : ClosedCall) :
    ∀ d ∈ c.text, P d := by
  have hblanks : ∀ s : Blanks, ∀ d ∈ s.text, P d := fun s d hd => hblank d (s.isBlank d hd)
  intro d hd
  rw [← List.append_nil c.text, text_append] at hd
  simp only [List.mem_append, List.mem_cons, List.not_mem_nil, or_false] at hd
  rcases hd with hd | hd | hd | hd | rfl | hd | hd | hd | rfl
  · have harrow : "->".toList ⊆ signs := by decide
    exact hsign d (harrow hd)
  · exact hblanks _ d hd
  · exact hname d (c.call.kind.toWord.toName.isNameChar d hd)
  · exact hblanks _ d hd
  · exact hsign '(' (by decide)
  · exact hblanks _ d hd
  · exact hname d (c.isNameChar d hd)
  · exact hsign d (List.mem_append_right _ hd)
  · exact hsign _ c.closing_mem.1

/-- Neither a string nor a comment begins in a call. -/
lemma isCode_text (c : ClosedCall) : ∀ d ∈ c.text, Body.isCode d = true :=
  c.forall_mem_text (fun _ => Body.isCode_of_isBlank) (fun _ => Body.isCode_of_isNameChar)
    (List.all_eq_true.mp (by decide))

/-- A delimiter that is no blank and none of the signs does not occur in a call. -/
lemma notMem_text (c : ClosedCall) {b : Char} (hname : b ∈ Name.delimiters)
    (hblank : isBlank b = false) (hsign : b ∉ signs) : b ∉ c.text := fun hb =>
  c.forall_mem_text (P := fun d => d ≠ b) (fun d hd heq => by simp [heq, hblank] at hd)
    (fun d hd => Name.ne_delimiter hd hname) (fun d hd heq => hsign (heq ▸ hd)) b hb rfl

/-- There are no braces in a call. -/
lemma balanced_text (c : ClosedCall) : Balanced c.text :=
  Balanced.of_notMem (c.notMem_text (by decide) (by decide) (by decide))
    (c.notMem_text (by decide) (by decide) (by decide))

/-- No header begins in a call. -/
lemma passed_header (c : ClosedCall) (t : Text) : Passed Method.header? c.text t := by
  have htext : c.text = "->".toList ++ (c.call.behindArrow.text ++ (c.call.kind.word ++
      (c.call.behindKind.text ++ (['('] ++ (c.call.behindParenthesis.text ++
        (c.call.target.text ++ (Call.classSuffix ++ [c.closing]))))))) := by
    rw [← List.append_nil c.text, text_append]
    rfl
  have hkind (u : Text) : Passed Method.header? c.call.kind.word
      (c.call.behindKind.text ++ '(' :: u) :=
    Method.passed_run_blanks Method.isNameChar_public (fun _ => isBlank_eq_false_of_isNameChar)
      c.call.kind.toWord.toName.isNameChar _ (Name.isNameChar_of_delimiter (by decide)) (by decide)
      (by decide) u
  have htarget (u : Text) : Passed Method.header? c.call.target.text (Call.classSuffix ++ u) :=
    Method.passed_name_cons ⟨_, c.call.target.ne_nil, c.isNameChar⟩ (by decide) (by decide) _
  have hclosing : 'p' ∉ [c.closing] := fun h =>
    c.closing_mem.2.2 (by simp [← List.mem_singleton.mp h])
  simp only [htext, passed_append, List.append_assoc]
  exact ⟨Method.passed_header (by simp) _, Method.passed_blanks _ _, hkind _,
    Method.passed_blanks _ _, Method.passed_header (by simp) _, Method.passed_blanks _ _,
    htarget _, Method.passed_header (by decide) _, Method.passed_header hclosing _⟩

/-- A call is read as it is written. -/
lemma read?_text (c : ClosedCall) {kinds : List RelationKind} (hkinds : ∀ k, k ∈ kinds) (t : Text) :
    Call.read? kinds (c.text ++ t) = some (c.call.call, c.closing :: t) := by
  rw [text, List.append_assoc]
  exact c.call.read?_text (hkinds _) c.closing_mem.2.1 t

end ClosedCall

/-! ## Whole bodies -/

namespace BodyLayout

/-- What stands behind code around calls is the next call or the closing brace. -/
lemma head_callsText (calls : List (ClosedCall × Filler)) (t : Text) :
    ∀ d ∈ (callsText calls ++ '}' :: t).head?, d = '-' ∨ d = '}' := by
  cases calls with
  | nil => simp [callsText]
  | cons c calls =>
    simp only [callsText, List.flatMap_cons, List.append_assoc, ClosedCall.text_append]
    simp

/-- Neither a string nor a comment begins in a body. -/
lemma isCode_content (b : BodyLayout) : ∀ c ∈ b.content, Body.isCode c = true := by
  intro c hc
  simp only [content, callsText, List.mem_append, List.mem_flatMap] at hc
  rcases hc with hc | ⟨p, -, hc | hc⟩
  · exact b.first.isCode c hc
  · exact p.1.isCode_text c hc
  · exact p.2.isCode c hc

/-- The braces between those of a body are balanced. -/
lemma balanced_content (b : BodyLayout) : Balanced b.content := by
  refine b.first.balanced.append ?_
  induction b.calls with
  | nil => exact Balanced.of_notMem (by simp [callsText]) (by simp [callsText])
  | cons c calls ih =>
    rw [callsText, List.flatMap_cons]
    exact (c.1.balanced_text.append c.2.balanced).append ih

/-- A body ends with its last brace, whatever follows. -/
theorem ofText_append (b : BodyLayout) (t : Text) : Body.ofText (b.text ++ t) = b.text := by
  have htext : b.text ++ t = '{' :: (b.content ++ '}' :: t) := by simp [text]
  rw [htext, Body.ofText_balanced b.isCode_content b.balanced_content]
  rfl

/-- No header begins in a body. -/
theorem passed_text (b : BodyLayout) (t : Text) : Passed Method.header? b.text t := by
  have hfiller (f : Filler) (calls : List (ClosedCall × Filler)) :
      Passed Method.header? f.text (callsText calls ++ '}' :: t) :=
    Method.passed_of_not_infix f.noPublic fun d hd => by
      rcases head_callsText calls t d hd with rfl | rfl <;> decide
  have hcalls : ∀ calls, Passed Method.header? (callsText calls) ('}' :: t) := by
    intro calls
    induction calls with
    | nil => trivial
    | cons c calls ih =>
      rw [callsText, List.flatMap_cons]
      exact passed_append.mpr ⟨passed_append.mpr ⟨c.1.passed_header _, hfiller c.2 calls⟩, ih⟩
  have htext : b.text = ['{'] ++ (b.first.text ++ (callsText b.calls ++ ['}'])) := by
    simp [text, content]
  rw [htext]
  simp only [passed_append, List.append_assoc]
  exact ⟨Method.passed_header (by simp) _, hfiller b.first b.calls, hcalls b.calls,
    Method.passed_header (by simp) _⟩

/-- The calls that are read in a body are those that are written. -/
theorem allWith_text {kinds : List RelationKind} (hkinds : ∀ k, k ∈ kinds) (b : BodyLayout) :
    Call.allWith kinds b.text = b.calls.map fun c => c.1.call.call := by
  have hcode {u : Text} (hu : '>' ∉ u) (calls : List (ClosedCall × Filler)) :
      (Call.reader kinds).all (u ++ (callsText calls ++ ['}'])) =
        (Call.reader kinds).all (callsText calls ++ ['}']) := by
    refine Reader.all_of_passed (Call.passed_read? hu (fun hhead => ?_) kinds)
    rcases head_callsText calls [] '>' hhead with h | h <;> exact absurd h (by decide)
  have hcalls : ∀ calls, (Call.reader kinds).all (callsText calls ++ ['}']) =
      calls.map fun c => c.1.call.call := by
    intro calls
    induction calls with
    | nil =>
      have hlast : Passed (Call.read? kinds) ['}'] [] := Call.passed_read? (by simp) (by simp) kinds
      exact (Reader.all_of_passed (r := Call.reader kinds) hlast).trans (Reader.all_nil _)
    | cons c calls ih =>
      have hbehind : '>' ∉ c.1.closing :: c.2.text := by
        simp only [List.mem_cons, not_or]
        exact ⟨fun h => c.1.closing_mem.2.2 (by simp [← h]), c.2.notMem_arrow⟩
      calc (Call.reader kinds).all (callsText (c :: calls) ++ ['}'])
          = (Call.reader kinds).all (c.1.text ++ (c.2.text ++ (callsText calls ++ ['}']))) := by
            simp only [callsText, List.flatMap_cons, List.append_assoc]
        _ = c.1.call.call :: (Call.reader kinds).all
              ((c.1.closing :: c.2.text) ++ (callsText calls ++ ['}'])) :=
            Reader.all_of_read? (c.1.read?_text hkinds _)
        _ = c.1.call.call :: calls.map fun c => c.1.call.call := by rw [hcode hbehind, ih]
  have htext : b.text = ('{' :: b.first.text) ++ (callsText b.calls ++ ['}']) := by
    simp [text, content]
  have hfirst : '>' ∉ '{' :: b.first.text := by simp [b.first.notMem_arrow]
  rw [Call.allWith, htext, hcode hfirst, hcalls]

end BodyLayout

end RelationAtlas
