import RelationAtlas.Proofs.Source.Calls

/-!
# Calls inside calls

A target may hold almost every character, and so the text of one call may lie in the target of
another.  Two calls never overlap otherwise: a call that begins inside one that is read ends inside it
(`WrittenCall.length_le_of_inside`), since it begins in the target, and if it went on behind the class
suffix, a longer target could be read.

So the calls that are read in a text are those that lie in no other one
(`Call.mem_places_iff_outermost`).
-/

namespace RelationAtlas

open Text

namespace WrittenCall

/-! ## Where a call can begin and end inside another one -/

/-- Only the arrow of a call holds a hyphen in front of the target. -/
lemma hyphen_notMem_tail_opening (w : WrittenCall) : '-' ∉ w.opening.tail := by
  have hblank : ∀ s : Blanks, '-' ∉ s.text := fun s h => absurd (s.isBlank '-' h) (by decide)
  have hword : '-' ∉ w.kind.word := fun h =>
    absurd (w.kind.toWord.isWord '-' h) (by simpa using by decide +kernel)
  have htail : w.opening.tail = '>' :: (w.behindArrow.text ++ (w.kind.word ++
      (w.behindKind.text ++ '(' :: w.behindParenthesis.text))) := by
    unfold opening
    rfl
  simp [htail, hblank, hword]

/-- There is no colon in front of the target of a call. -/
lemma colon_notMem_opening (w : WrittenCall) : ':' ∉ w.opening := by
  have hblank : ∀ s : Blanks, ':' ∉ s.text := fun s h => absurd (s.isBlank ':' h) (by decide)
  have hword : ':' ∉ w.kind.word := w.kind.toWord.toName.notMem (by decide)
  have hopening : w.opening = '-' :: '>' :: (w.behindArrow.text ++ (w.kind.word ++
      (w.behindKind.text ++ '(' :: w.behindParenthesis.text))) := by
    unfold opening
    rfl
  simp [hopening, hblank, hword]

/-- A call begins with a hyphen, and goes on with the rest of what stands in front of its target. -/
lemma opening_eq (w : WrittenCall) : w.opening = '-' :: w.opening.tail := by
  unfold opening
  rfl

/-- A class suffix begins with a colon. -/
lemma classSuffix_eq : Call.classSuffix = ':' :: Call.classSuffix.tail := by
  unfold Call.classSuffix
  rfl

/-- A call that begins inside another one begins in its target. -/
lemma exists_target_of_inside {outer inner : WrittenCall} {front rest rest' : Text}
    (htext : outer.text ++ rest = front ++ (inner.text ++ rest')) (hstart : front ≠ [])
    (hinside : front.length < outer.text.length) :
    ∃ f b, front = outer.opening ++ f ∧ outer.target.text = f ++ b := by
  have hinner : inner.text =
      '-' :: (inner.opening.tail ++ (inner.target.text ++ Call.classSuffix)) := by
    rw [text, inner.opening_eq]
    rfl
  -- The hyphen is none of the characters in front of the target, the first one apart.
  obtain ⟨f, rfl⟩ : ∃ f, front = outer.opening ++ f := by
    cases front with
    | nil => exact absurd rfl hstart
    | cons c cs =>
      rw [text, outer.opening_eq, hinner] at htext
      simp only [List.cons_append, List.append_assoc] at htext
      obtain ⟨rfl, htail⟩ := List.cons.inj htext
      obtain ⟨f, rfl⟩ := exists_append_of_notMem htail outer.hyphen_notMem_tail_opening
      exact ⟨f, by rw [outer.opening_eq]; rfl⟩
  have hbehind : outer.target.text ++ (Call.classSuffix ++ rest) = f ++ (inner.text ++ rest') := by
    rw [text] at htext
    simpa only [List.append_assoc, List.append_cancel_left_eq] using htext
  rcases List.append_eq_append_iff.mp hbehind with ⟨a, rfl, ha⟩ | ⟨b, hb, -⟩
  · -- Nor is it one of those of the class suffix.
    rw [hinner] at ha
    obtain ⟨b, rfl⟩ := exists_append_of_notMem ha (by decide)
    simp only [text, List.length_append] at hinside
    omega
  · exact ⟨f, b, rfl, hb⟩

/-- A call that begins inside another one that is read ends inside it. -/
theorem length_le_of_inside {kinds : List RelationKind} (hkinds : ∀ k, k ∈ kinds)
    {outer inner : WrittenCall} {front rest rest' : Text}
    (hread : Call.read? kinds (outer.text ++ rest) = some (outer.call, rest))
    (htext : outer.text ++ rest = front ++ (inner.text ++ rest')) (hstart : front ≠ [])
    (hinside : front.length < outer.text.length) :
    front.length + inner.text.length ≤ outer.text.length := by
  obtain ⟨f, b, rfl, htarget⟩ := exists_target_of_inside htext hstart hinside
  refine Nat.le_of_not_lt fun hlt => ?_
  have hb : b ++ (Call.classSuffix ++ rest) =
      inner.opening ++ (inner.target.text ++ (Call.classSuffix ++ rest')) := by
    rw [text, htarget, text] at htext
    simpa only [List.append_assoc, List.append_cancel_left_eq] using htext
  -- The inner call is written up to its target in the outer one, which could go on with that.
  obtain ⟨b', rfl⟩ : ∃ b', b = inner.opening ++ b' := by
    rw [classSuffix_eq] at hb
    exact exists_append_of_notMem hb.symm inner.colon_notMem_opening
  have hall : ∀ c ∈ f ++ (inner.opening ++ inner.target.text), Call.isTargetChar c = true := by
    intro c hc
    simp only [List.mem_append] at hc
    rcases hc with hc | hc | hc
    · exact outer.target.isTargetChar c (by simp [htarget, hc])
    · exact outer.target.isTargetChar c (by simp [htarget, hc])
    · exact inner.target.isTargetChar c hc
  have hne : f ++ (inner.opening ++ inner.target.text) ≠ [] := by
    simp [inner.target.ne_nil]
  have hlonger : (outer.withTarget ⟨_, hne, hall⟩).text ++ rest' = outer.text ++ rest := by
    rw [htext, text, text, opening_withTarget, target_withTarget]
    simp only [List.append_assoc]
  obtain ⟨target, rest'', hread', -, hle⟩ :=
    (outer.withTarget ⟨_, hne, hall⟩).read?_longest (hkinds _) rest'
  rw [hlonger, hread] at hread'
  have hsame : outer.target.text = target.text :=
    congrArg (fun found => found.1.target) (Option.some.inj hread')
  simp only [text, ← hsame, htarget, target_withTarget, List.length_append] at hlt hle
  omega

/-- Where a call is written, one is read that is no shorter. -/
lemma exists_read {kinds : List RelationKind} (hkinds : ∀ k, k ∈ kinds) (w : WrittenCall)
    (rest : Text) : ∃ (w' : WrittenCall) (rest' : Text), w.text ++ rest = w'.text ++ rest' ∧
      Call.read? kinds (w'.text ++ rest') = some (w'.call, rest') ∧
      w.text.length ≤ w'.text.length := by
  obtain ⟨target, rest', hread, htext, hle⟩ := w.read?_longest (hkinds _) rest
  have hsame : w.text ++ rest = (w.withTarget target).text ++ rest' := by
    rw [text, text, opening_withTarget, target_withTarget]
    simp only [List.append_assoc]
    rw [htext]
  refine ⟨w.withTarget target, rest', hsame, hsame ▸ hread, ?_⟩
  simp only [text, opening_withTarget, target_withTarget, List.length_append]
  omega

/-- The text of a call settles which call it is. -/
lemma call_eq_of_text_eq {w w' : WrittenCall} (h : w.text = w'.text) : w.call = w'.call := by
  obtain ⟨target, rest, hread, htext, -⟩ := w.read?_longest (RelationKind.mem_all _) []
  obtain ⟨target', rest', hread', htext', -⟩ := w'.read?_longest (RelationKind.mem_all _) []
  rw [h, hread'] at hread
  simp only [Option.some.injEq, Prod.mk.injEq, Call.mk.injEq] at hread
  obtain ⟨⟨hkind, htarget⟩, rfl⟩ := hread
  rw [← htarget, ← htext'] at htext
  rw [call, call, hkind, List.append_cancel_right htext]

end WrittenCall

namespace Call

/-! ## The calls in a text -/

/-- The place is that of a call that is written in a text whose front is at `pos`. -/
def IsAt (pos : Nat) (t : Text) (p : Reader.Place Call) : Prop :=
  ∃ (w : WrittenCall) (before rest : Text), t = before ++ (w.text ++ rest) ∧
    p = ⟨pos + before.length, pos + before.length + w.text.length, w.call⟩

/-- A call that begins and ends where another one does is the same. -/
lemma IsAt.eq_of_span {pos : Nat} {t : Text} {p q : Reader.Place Call} (hp : IsAt pos t p)
    (hq : IsAt pos t q) (hstart : p.start = q.start) (hstop : p.stop = q.stop) : p = q := by
  obtain ⟨w, before, rest, rfl, rfl⟩ := hp
  obtain ⟨w', before', rest', htext, rfl⟩ := hq
  dsimp only at hstart hstop
  obtain ⟨rfl, hrest⟩ := List.append_inj htext (by omega)
  obtain ⟨hw, -⟩ := List.append_inj hrest (by omega)
  rw [hw, WrittenCall.call_eq_of_text_eq hw]

/-- The reader of calls leaves an end of the text. -/
lemma leavesEnd_reader (kinds : List RelationKind) : (reader kinds).LeavesEnd := fun h => by
  obtain ⟨w, -, htext⟩ := exists_writtenCall h
  exact ⟨w.text, htext.symm⟩

/-- A call that is found is written there, and read. -/
lemma exists_of_mem_places {kinds : List RelationKind} {pos : Nat} {t : Text}
    {p : Reader.Place Call} (h : p ∈ (reader kinds).places pos t) :
    ∃ (w : WrittenCall) (before rest : Text), t = before ++ (w.text ++ rest) ∧
      p = ⟨pos + before.length, pos + before.length + w.text.length, w.call⟩ ∧
      read? kinds (w.text ++ rest) = some (w.call, rest) := by
  obtain ⟨before, part, rest, htext, hread, hstart, hstop⟩ :=
    Reader.exists_of_mem_places (leavesEnd_reader kinds) h
  obtain ⟨w, hcall, hpart⟩ := exists_writtenCall hread
  obtain rfl := List.append_cancel_right hpart
  refine ⟨w, before, rest, htext, ?_, hcall ▸ hread⟩
  rw [hcall, ← hstart, ← hstop]

variable {kinds : List RelationKind}

/-- A call that begins inside one that is found ends inside it. -/
lemma stop_le_of_mem_places (hkinds : ∀ k, k ∈ kinds) {pos : Nat} {t : Text}
    {p q : Reader.Place Call} (hp : p ∈ (reader kinds).places pos t) (hq : IsAt pos t q)
    (hstart : p.start < q.start) (hstop : q.start < p.stop) : q.stop ≤ p.stop := by
  obtain ⟨outer, before, rest, rfl, rfl, hread⟩ := exists_of_mem_places hp
  obtain ⟨inner, before', rest', htext, rfl⟩ := hq
  dsimp only at hstart hstop ⊢
  obtain ⟨front, rfl, hbehind⟩ := exists_append_of_length_le htext (by omega)
  rw [List.length_append] at hstart hstop ⊢
  have hfront : front ≠ [] := by
    rintro rfl
    simp at hstart
  have hle := WrittenCall.length_le_of_inside hkinds hread hbehind hfront (by omega)
  omega

/-- Every call lies in one that is found. -/
lemma exists_mem_places_of_isAt (hkinds : ∀ k, k ∈ kinds) {pos : Nat} {t : Text}
    {q : Reader.Place Call} (hq : IsAt pos t q) :
    ∃ p ∈ (reader kinds).places pos t, p.start ≤ q.start ∧ q.stop ≤ p.stop := by
  have hisAt := hq
  obtain ⟨w, before, rest, rfl, rfl⟩ := hq
  obtain ⟨w', rest', htext, hread, hle⟩ := w.exists_read hkinds rest
  rw [htext] at hisAt ⊢
  rcases Reader.mem_places_or_covered (leavesEnd_reader kinds) hread pos before with
    hmem | ⟨p, hmem, hstart, hstop⟩
  · exact ⟨_, hmem, Nat.le_refl _, Nat.add_le_add_left hle _⟩
  · exact ⟨p, hmem, Nat.le_of_lt hstart, stop_le_of_mem_places hkinds hmem hisAt hstart hstop⟩

/-- The calls that are found in a text are those that lie in no other one. -/
theorem mem_places_iff_outermost (hkinds : ∀ k, k ∈ kinds) (pos : Nat) (t : Text)
    (p : Reader.Place Call) : p ∈ (reader kinds).places pos t ↔
      IsAt pos t p ∧ ∀ q, IsAt pos t q → q.start ≤ p.start → p.stop ≤ q.stop → q = p := by
  have hfound : ∀ q ∈ (reader kinds).places pos t, IsAt pos t q := fun q hq => by
    obtain ⟨w, before, rest, htext, hplace, -⟩ := exists_of_mem_places hq
    exact ⟨w, before, rest, htext, hplace⟩
  constructor
  · intro hp
    refine ⟨hfound p hp, fun q hq hstart hstop => ?_⟩
    obtain ⟨r, hr, hrstart, hrstop⟩ := exists_mem_places_of_isAt hkinds hq
    have hlt := (Reader.le_start_of_mem_places _ pos t p hp).2
    obtain rfl := Reader.eq_of_mem_places _ pos t hr hp (by omega) (by omega)
    exact hq.eq_of_span (hfound r hr) (by omega) (by omega)
  · rintro ⟨hp, houtermost⟩
    obtain ⟨r, hr, hstart, hstop⟩ := exists_mem_places_of_isAt hkinds hp
    rwa [← houtermost r (hfound r hr) hstart hstop]

end Call

end RelationAtlas
