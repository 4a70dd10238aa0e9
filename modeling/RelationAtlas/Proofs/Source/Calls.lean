import RelationAtlas.Proofs.Source.Names
import RelationAtlas.Proofs.Text.Gaps
import RelationAtlas.Proofs.Text.Places
import RelationAtlas.Source.Call

/-!
# Calls as they are written

A `WrittenCall` is a relationship call as it stands in a file, up to its class suffix: an arrow, the
word of a kind, a parenthesis and a target, with the blanks between them.  Only written calls are read
(`exists_writtenCall`), in whatever order the kinds are tried, and where one is written, a call of its
kind is read whose target is no shorter (`WrittenCall.read?_longest`): of the class suffixes that can
end a target, the last one counts.

The kind is settled by the text although one word may begin with another, because a word is followed
by a blank or a parenthesis (`eq_of_ofKind?`).
-/

namespace RelationAtlas

open Text

/-- A target as it is written. -/
structure TargetText where
  text : Text
  ne_nil : text ≠ []
  isTargetChar : ∀ c ∈ text, Call.isTargetChar c = true

/-- A call as it is written, up to its class suffix. -/
structure WrittenCall where
  behindArrow : Blanks
  kind : RelationKind
  behindKind : Blanks
  behindParenthesis : Blanks
  target : TargetText

namespace WrittenCall

/-- What stands in front of the target. -/
def opening (w : WrittenCall) : Text :=
  "->".toList ++ (w.behindArrow.text ++ (w.kind.word ++ (w.behindKind.text ++
    '(' :: w.behindParenthesis.text)))

/-- The text of a call, up to its class suffix. -/
def text (w : WrittenCall) : Text := w.opening ++ (w.target.text ++ Call.classSuffix)

/-- The call that is written. -/
def call (w : WrittenCall) : Call := ⟨w.kind, w.target.text⟩

/-- The call with another target. -/
def withTarget (w : WrittenCall) (target : TargetText) : WrittenCall := { w with target := target }

@[simp] lemma opening_withTarget (w : WrittenCall) (target : TargetText) :
    (w.withTarget target).opening = w.opening := rfl

@[simp] lemma target_withTarget (w : WrittenCall) (target : TargetText) :
    (w.withTarget target).target = target := rfl

end WrittenCall

namespace Call

/-! ## Targets -/

/-- A text is cut at a class suffix with something before it. -/
lemma cutAtLastSuffix_append {t w rest : Text} (h : cutAtLastSuffix t = some (w, rest)) :
    t = w ++ (classSuffix ++ rest) ∧ w ≠ [] := by
  induction t generalizing w rest with
  | nil => cases h
  | cons c cs ih =>
    rw [cutAtLastSuffix] at h
    split at h
    · next u v heq =>
      simp only [Option.some.injEq, Prod.mk.injEq] at h
      obtain ⟨rfl, rfl⟩ := h
      exact ⟨by rw [(ih heq).1]; rfl, by simp⟩
    · obtain ⟨v, hv, heq⟩ := Option.map_eq_some_iff.mp h
      simp only [Prod.mk.injEq] at heq
      obtain ⟨rfl, rfl⟩ := heq
      exact ⟨by rw [after?_eq_some_iff.mp hv]; rfl, by simp⟩

/-- A text is cut at a class suffix with something before it, or behind that. -/
lemma exists_cutAtLastSuffix {w : Text} (hw : w ≠ []) (rest : Text) :
    ∃ w' rest', cutAtLastSuffix (w ++ (classSuffix ++ rest)) = some (w', rest') ∧
      w.length ≤ w'.length := by
  induction w with
  | nil => exact absurd rfl hw
  | cons c cs ih =>
    rw [List.cons_append, cutAtLastSuffix]
    cases hcut : cutAtLastSuffix (cs ++ (classSuffix ++ rest)) with
    | some found =>
      refine ⟨c :: found.1, found.2, rfl, ?_⟩
      cases cs with
      | nil => simp
      | cons d ds =>
        obtain ⟨w', rest', hcut', hle⟩ := ih (by simp)
        rw [hcut] at hcut'
        obtain rfl := Option.some.inj hcut'
        simpa using hle
    | none =>
      cases cs with
      | nil => exact ⟨[c], rest, by simp, by simp⟩
      | cons d ds =>
        obtain ⟨w', rest', hcut', -⟩ := ih (by simp)
        rw [hcut] at hcut'
        cases hcut'

/-- The characters of a class suffix can stand in a target. -/
lemma isTargetChar_classSuffix : ∀ c ∈ classSuffix, isTargetChar c = true :=
  List.all_eq_true.mp (by decide)

/-- What is read as a target is a target with a class suffix behind it. -/
lemma exists_targetText {t w rest : Text} (h : target? t = some (w, rest)) :
    ∃ target : TargetText, target.text = w ∧ t = w ++ (classSuffix ++ rest) := by
  obtain ⟨⟨w, u⟩, hcut, heq⟩ := Option.map_eq_some_iff.mp h
  simp only [Prod.mk.injEq] at heq
  obtain ⟨rfl, rfl⟩ := heq
  obtain ⟨htake, hne⟩ := cutAtLastSuffix_append hcut
  have hall : ∀ c ∈ w, isTargetChar c = true := fun c hc =>
    List.all_eq_true.mp List.all_takeWhile c (by rw [htake]; exact List.mem_append_left _ hc)
  refine ⟨⟨w, hne, hall⟩, rfl, ?_⟩
  calc t = t.takeWhile isTargetChar ++ t.dropWhile isTargetChar :=
        List.takeWhile_append_dropWhile.symm
    _ = _ := by rw [htake, List.append_assoc, List.append_assoc]

/-- The characters of a written target are taken, and those of its class suffix. -/
lemma takeWhile_target (w : TargetText) (rest : Text) :
    (w.text ++ (classSuffix ++ rest)).takeWhile isTargetChar =
      w.text ++ (classSuffix ++ rest.takeWhile isTargetChar) := by
  rw [List.takeWhile_append_of_pos w.isTargetChar,
    List.takeWhile_append_of_pos isTargetChar_classSuffix]

/-- Where a target is written, one is read that is no shorter. -/
lemma exists_target? (w : TargetText) (rest : Text) :
    ∃ (w' : TargetText) (rest' : Text),
      target? (w.text ++ (classSuffix ++ rest)) = some (w'.text, rest') ∧
        w.text.length ≤ w'.text.length := by
  obtain ⟨w', rest', hcut, hle⟩ :=
    exists_cutAtLastSuffix w.ne_nil (rest.takeWhile isTargetChar)
  have hread : target? (w.text ++ (classSuffix ++ rest)) = some (w',
      rest' ++ (w.text ++ (classSuffix ++ rest)).dropWhile isTargetChar) := by
    rw [target?, takeWhile_target, hcut]
    rfl
  obtain ⟨target, rfl, -⟩ := exists_targetText hread
  exact ⟨target, _, hread, hle⟩

/-- A character of names is one of targets. -/
lemma isTargetChar_of_isNameChar {c : Char} (h : Name.isNameChar c = true) :
    isTargetChar c = true := by
  have hcomma : c ≠ ',' := Name.ne_delimiter h (by decide)
  have hparen : c ≠ ')' := Name.ne_delimiter h (by decide)
  simp [isTargetChar, isBlank_eq_false_of_isNameChar h, hcomma, hparen]

/-- No character of a target is a blank. -/
lemma isBlank_eq_false_of_isTargetChar {c : Char} (h : isTargetChar c = true) :
    isBlank c = false := by
  simp only [isTargetChar, Bool.and_eq_true, Bool.not_eq_true'] at h
  exact h.1.1

/-! ## Kinds -/

/-- What is read as the rest of a call of some kind is one. -/
lemma exists_ofKind? {k : RelationKind} {t rest : Text} {c : Call}
    (h : ofKind? k t = some (c, rest)) : ∃ (behindKind behindParenthesis : Blanks)
      (target : TargetText), c = ⟨k, target.text⟩ ∧ t = k.word ++ (behindKind.text ++
        '(' :: (behindParenthesis.text ++ (target.text ++ (classSuffix ++ rest)))) := by
  simp only [ofKind?, Option.bind_eq_bind, Option.bind_eq_some_iff] at h
  obtain ⟨t1, h1, t2, h2, ⟨w, t3⟩, h3, h4⟩ := h
  simp only [Option.pure_def, Option.some.injEq, Prod.mk.injEq] at h4
  obtain ⟨rfl, rfl⟩ := h4
  obtain ⟨s1, hs1⟩ := exists_blanks t1
  obtain ⟨s2, hs2⟩ := exists_blanks t2
  obtain ⟨target, rfl, htarget⟩ := exists_targetText h3
  refine ⟨s1, s2, target, rfl, ?_⟩
  calc t = k.word ++ t1 := after?_eq_some_iff.mp h1
    _ = k.word ++ (s1.text ++ '(' :: t2) := by
        rw [hs1, after?_eq_some_iff.mp h2, List.singleton_append]
    _ = _ := by rw [hs2, htarget]

/-- The rest of a call is read as far as its parenthesis, and then its target. -/
lemma ofKind?_append (k : RelationKind) (behindKind behindParenthesis : Blanks) {t : Text}
    (ht : ∀ c ∈ t.head?, isBlank c = false) :
    ofKind? k (k.word ++ (behindKind.text ++ '(' :: (behindParenthesis.text ++ t))) =
      (target? t).map fun found => (⟨k, found.1⟩, found.2) := by
  rw [ofKind?, after?_append]
  simp only [Option.bind_eq_bind, Option.bind_some]
  rw [behindKind.dropBlanks_append (by simp; decide), after?_sign, Option.bind_some,
    behindParenthesis.dropBlanks_append ht]
  cases target? t <;> rfl

/-- A word of a kind ends where blanks and a parenthesis follow. -/
lemma run?_word (k : RelationKind) (s : Blanks) (t : Text) :
    run? isWord (k.word ++ (s.text ++ '(' :: t)) = some (k.word, s.text ++ '(' :: t) :=
  run?_append_eq k.toWord.ne_nil k.toWord.isWord
    (s.not_of_head (fun _ => isWord_eq_false_of_isBlank)
      (by simpa using Name.isWord_of_delimiter (by decide)))

/-- Only one of the kinds can be read in front of a parenthesis. -/
lemma eq_of_ofKind? {j k : RelationKind} {s : Blanks} {t rest : Text} {c : Call}
    (h : ofKind? j (k.word ++ (s.text ++ '(' :: t)) = some (c, rest)) : j = k := by
  obtain ⟨s', s'', target, -, htext⟩ := exists_ofKind? h
  have hk := run?_word k s t
  rw [htext, run?_word] at hk
  exact RelationKind.word_injective (Prod.mk.inj (Option.some.inj hk)).1

/-- Whatever the order of the kinds is, the written one is read. -/
lemma findSome?_ofKind? {kinds : List RelationKind} {k : RelationKind} (hk : k ∈ kinds)
    (s : Blanks) (t : Text) :
    kinds.findSome? (fun j => ofKind? j (k.word ++ (s.text ++ '(' :: t))) =
      ofKind? k (k.word ++ (s.text ++ '(' :: t)) := by
  have hother : ∀ j, j ≠ k → ofKind? j (k.word ++ (s.text ++ '(' :: t)) = none := by
    intro j hne
    cases hread : ofKind? j (k.word ++ (s.text ++ '(' :: t)) with
    | none => rfl
    | some found => exact absurd (eq_of_ofKind? hread) hne
  cases hread : ofKind? k (k.word ++ (s.text ++ '(' :: t)) with
  | none =>
    refine List.findSome?_eq_none_iff.mpr fun j _ => ?_
    by_cases hne : j = k
    · rw [hne, hread]
    · exact hother j hne
  | some found =>
    obtain ⟨before, behind, rfl, hbefore⟩ := List.eq_append_cons_of_mem hk
    refine List.findSome?_eq_some_iff.mpr ⟨before, k, behind, rfl, hread, fun j hj => ?_⟩
    exact hother j fun heq => hbefore (heq ▸ hj)

/-! ## Calls -/

/-- What is read is a written call. -/
lemma exists_writtenCall {kinds : List RelationKind} {t rest : Text} {c : Call}
    (h : read? kinds t = some (c, rest)) :
    ∃ w : WrittenCall, w.call = c ∧ t = w.text ++ rest := by
  simp only [read?, Option.bind_eq_bind, Option.bind_eq_some_iff] at h
  obtain ⟨t1, harrow, hfind⟩ := h
  obtain ⟨k, -, hkind⟩ := List.exists_of_findSome?_eq_some hfind
  obtain ⟨s0, hs0⟩ := exists_blanks t1
  obtain ⟨s1, s2, target, rfl, htext⟩ := exists_ofKind? hkind
  refine ⟨⟨s0, k, s1, s2, target⟩, rfl, ?_⟩
  calc t = "->".toList ++ t1 := after?_eq_some_iff.mp harrow
    _ = "->".toList ++ (s0.text ++ (k.word ++ (s1.text ++ '(' :: (s2.text ++
          (target.text ++ (classSuffix ++ rest)))))) := by rw [hs0, htext]
    _ = _ := by
        unfold WrittenCall.text WrittenCall.opening
        simp only [List.append_assoc, List.cons_append]

end Call

namespace WrittenCall

/-- The parts in front of a target, in front of another text. -/
lemma opening_append (w : WrittenCall) (t : Text) :
    w.opening ++ t = "->".toList ++ (w.behindArrow.text ++ (w.kind.word ++ (w.behindKind.text ++
      '(' :: (w.behindParenthesis.text ++ t)))) := by
  unfold opening
  simp only [List.append_assoc, List.cons_append]

/-- What stands in front of a target is read, and then the target. -/
lemma read?_opening {kinds : List RelationKind} (w : WrittenCall) (hk : w.kind ∈ kinds) {t : Text}
    (ht : ∀ c ∈ t.head?, isBlank c = false) :
    Call.read? kinds (w.opening ++ t) =
      (Call.target? t).map fun found => (⟨w.kind, found.1⟩, found.2) := by
  rw [opening_append, Call.read?, after?_append]
  simp only [Option.bind_eq_bind, Option.bind_some]
  have hword : ∀ c ∈ (w.kind.word ++ (w.behindKind.text ++
      '(' :: (w.behindParenthesis.text ++ t))).head?, isBlank c = false :=
    w.kind.toWord.isBlank_of_head _
  rw [w.behindArrow.dropBlanks_append hword, Call.findSome?_ofKind? hk,
    Call.ofKind?_append _ _ _ ht]

/-- A target begins with no blank. -/
lemma isBlank_of_head_target (w : WrittenCall) (t : Text) :
    ∀ c ∈ (w.target.text ++ t).head?, isBlank c = false := by
  obtain ⟨d, ds, hd⟩ := List.exists_cons_of_ne_nil w.target.ne_nil
  rw [hd]
  rintro c hc
  obtain rfl : d = c := by simpa using hc
  exact Call.isBlank_eq_false_of_isTargetChar (w.target.isTargetChar d (by simp [hd]))

/-- Where a call is written, the longest target is read that can be. -/
theorem read?_longest {kinds : List RelationKind} (w : WrittenCall) (hk : w.kind ∈ kinds)
    (rest : Text) : ∃ (target : TargetText) (rest' : Text),
      Call.read? kinds (w.text ++ rest) = some (⟨w.kind, target.text⟩, rest') ∧
      w.target.text ++ (Call.classSuffix ++ rest) = target.text ++ (Call.classSuffix ++ rest') ∧
      w.target.text.length ≤ target.text.length := by
  obtain ⟨target, rest', hread, hle⟩ := Call.exists_target? w.target rest
  obtain ⟨-, -, htext⟩ := Call.exists_targetText hread
  refine ⟨target, rest', ?_, htext, hle⟩
  rw [text, List.append_assoc, List.append_assoc,
    w.read?_opening hk (w.isBlank_of_head_target _), hread]
  rfl

/-- A call is read as it is written where a character follows that cannot stand in a target. -/
theorem read?_text {kinds : List RelationKind} (w : WrittenCall) (hk : w.kind ∈ kinds) {d : Char}
    (hd : Call.isTargetChar d = false) (t : Text) :
    Call.read? kinds (w.text ++ d :: t) = some (w.call, d :: t) := by
  obtain ⟨target, rest, hread, htext, hle⟩ := w.read?_longest hk (d :: t)
  -- No class suffix behind that of the call is reached by the characters of targets.
  have htake := congrArg (fun u => (u.takeWhile Call.isTargetChar).length) htext
  simp only [Call.takeWhile_target, List.length_append,
    List.takeWhile_cons_of_neg (Bool.eq_false_iff.mp hd), List.length_nil] at htake
  obtain ⟨htarget, hrest⟩ := List.append_inj htext (by omega)
  rw [hread, WrittenCall.call, htarget, List.append_cancel_left hrest]

end WrittenCall

namespace Call

/-- Calls begin with an arrow. -/
lemma read?_eq_none {c : Char} {t : Text} (h : c = '-' → t.head? ≠ some '>')
    (kinds : List RelationKind) : read? kinds (c :: t) = none := by
  rw [read?]
  cases hafter : after? "->".toList (c :: t) with
  | none => rfl
  | some rest =>
    obtain ⟨rfl, rfl⟩ : c = '-' ∧ t = '>' :: rest := List.cons.inj (after?_eq_some_iff.mp hafter)
    exact absurd rfl (h rfl)

/-- A text in which no arrow ends is passed over unless one ends behind it. -/
lemma passed_read? {u t : Text} (hu : '>' ∉ u) (ht : t.head? ≠ some '>')
    (kinds : List RelationKind) : Passed (read? kinds) u t := by
  induction u with
  | nil => trivial
  | cons c u ih =>
    obtain ⟨-, hrest⟩ := List.ne_and_not_mem_of_not_mem_cons hu
    refine ⟨read?_eq_none (fun _ => ?_) kinds, ih hrest⟩
    cases u with
    | nil => exact ht
    | cons d u =>
      rw [List.cons_append, List.head?_cons]
      rintro heq
      simp [Option.some.inj heq] at hrest

end Call

end RelationAtlas
