import RelationAtlas.Proofs.Source.InsertedImports

/-!
# Text behind the class of a file

The class of a file is told by its first declarations.  Text that is added behind them could change it
only by completing a declaration that begins in front of them.

A namespace declaration holds one semicolon, which ends it, so none begins in front of another one and
ends behind it (`IsNamespaceAt.of_append`).  A class declaration may begin in front of another one,
since its modifiers may stand on lines of their own.  But then both have the same name, or the first
word of the later one is the name of the earlier one, and in either case the earlier one is complete
without the text that is added (`IsClassAt.of_append`).

So the class stays the same whatever is added, as long as no word goes on into it, and already the text
up to the name of the class settles it (`identity_append_of_ok`).
-/

namespace RelationAtlas

namespace Text

/-- No word goes on from the first text into the second one. -/
def NoWordAcross (t s : Text) : Prop :=
  (∀ c ∈ t.getLast?, isWord c = false) ∨ ∀ c ∈ s.head?, isWord c = false

/-- Where a character stands in a text of two parts, and what stands behind it. -/
lemma exists_behind {x y u t : Text} {c : Char} (h : x ++ y = u ++ c :: t) :
    (∃ v, x = u ++ c :: v ∧ t = v ++ y) ∨ ∃ b, y = b ++ c :: t := by
  rcases List.append_eq_append_iff.mp h with ⟨b, -, hy⟩ | ⟨v, hx, hy⟩
  · exact Or.inr ⟨b, hy⟩
  · cases v with
    | nil => exact Or.inr ⟨[], hy.symm⟩
    | cons d v =>
      obtain ⟨rfl, rfl⟩ := List.cons.inj hy
      exact Or.inl ⟨v, hx, rfl⟩

end Text

open Text

namespace Declaration

/-! ## Namespace declarations -/

/-- A namespace declaration stays one when text is added. -/
lemma IsNamespaceAt.append {t : Text} {p : Reader.Place Text} (h : IsNamespaceAt t p) (s : Text) :
    IsNamespaceAt (t ++ s) p := by
  obtain ⟨d, before, rest, rfl, hbefore, hspans, hvalue⟩ := h
  exact ⟨d, before, rest ++ s, by simp, hbefore, hspans, hvalue⟩

/-- A namespace declaration that begins in front of another one is there without text that is added
behind the other one. -/
lemma IsNamespaceAt.of_append {t s : Text} {p q : Reader.Place Text} (hp : IsNamespaceAt t p)
    (hq : IsNamespaceAt (t ++ s) q) (hlt : q.start < p.start) : IsNamespaceAt t q := by
  obtain ⟨d, before, rest, rfl, -, hspans, -⟩ := hp
  obtain ⟨e, before', rest', htext, hbefore', hspans', hvalue'⟩ := hq
  obtain ⟨front, hfront, -⟩ := d.exists_text_eq
  obtain ⟨front', hfront', hsemicolon⟩ := e.exists_text_eq
  have hle : before'.length ≤ before.length := by
    rw [← hspans'.1, ← hspans.1]
    exact Nat.le_of_lt hlt
  have hcut : before' ++ (front' ++ ';' :: rest') = before ++ (front ++ ';' :: (rest ++ s)) := by
    rw [hfront, hfront'] at htext
    simpa using htext.symm
  obtain ⟨between, rfl, hbehind⟩ := exists_append_of_length_le hcut hle
  -- The earlier declaration ends with its first semicolon, and the later one has a semicolon, too.
  rw [← List.append_assoc] at hbehind
  obtain ⟨b, hb⟩ := exists_append_of_notMem hbehind hsemicolon
  rw [hb, List.append_assoc, List.append_cancel_left_eq] at hbehind
  have hsuffix : ∃ r, rest' = r ++ s := by
    cases b with
    | nil => exact ⟨rest, (List.cons.inj hbehind).2⟩
    | cons c b => exact ⟨b ++ ';' :: rest, by rw [(List.cons.inj hbehind).2]; simp⟩
  obtain ⟨r, rfl⟩ := hsuffix
  refine ⟨e, before', r, ?_, hbefore', hspans', hvalue'⟩
  have hall : (before' ++ between ++ (d.text ++ rest)) ++ s = (before' ++ (e.text ++ r)) ++ s := by
    simpa using htext
  exact List.append_cancel_right hall

/-! ## Class declarations -/

/-- No word goes on from a text into what follows a class declaration at its end. -/
lemma isWord_of_head_append (d : ClassClause) {before rest s : Text}
    (hacross : NoWordAcross (before ++ (d.text ++ rest)) s)
    (hrest : ∀ c ∈ rest.head?, isWord c = false) : ∀ c ∈ (rest ++ s).head?, isWord c = false := by
  cases rest with
  | cons a rest => simpa using hrest
  | nil =>
    rcases hacross with hlast | hhead
    · -- The declaration ends with a word character, the last one of its name.
      obtain ⟨w, c, hw⟩ := (List.eq_nil_or_concat' d.name.text).resolve_left d.name.ne_nil
      have htext : before ++ (d.text ++ []) = before ++ (d.indent.text ++
          (ClassClause.modifierText d.modifiers ++ ("class".toList ++ (d.gap.text ++ w)))) ++ [c] := by
        simp [ClassClause.text, hw]
      have hnot := hlast c (by rw [htext, List.getLast?_concat]; rfl)
      rw [d.name.isWord c (by simp [hw])] at hnot
      cases hnot
    · simpa using hhead

/-- A class declaration stays one when text is added into which no word goes on. -/
lemma IsClassAt.append {t s : Text} {p : Reader.Place Text} (h : IsClassAt t p)
    (hacross : NoWordAcross t s) : IsClassAt (t ++ s) p := by
  obtain ⟨d, before, rest, rfl, hbefore, hspans, hvalue, hrest⟩ := h
  exact ⟨d, before, rest ++ s, by simp, hbefore, hspans, hvalue,
    isWord_of_head_append d hacross hrest⟩

/-- Behind a character that stands in none of its fixed words, a class declaration goes on behind a
gap or inside its name, unless the character stands behind the whole declaration. -/
lemma class_behind {ms : List (Text × Gap)} (hms : ∀ m ∈ ms, m.1 ∈ modifiers) (g : Gap) (w : Word)
    {rest u t : Text} {c : Char} (hc : ∀ word ∈ "class".toList :: modifiers, c ∉ word)
    (h : ClassClause.modifierText ms ++ ("class".toList ++ (g.text ++ (w.text ++ rest))) =
      u ++ c :: t) :
    (∃ (s : Blanks) (ms' : List (Text × Gap)), (∀ m ∈ ms', m.1 ∈ modifiers) ∧
      t = s.text ++ (ClassClause.modifierText ms' ++
        ("class".toList ++ (g.text ++ (w.text ++ rest))))) ∨
    (∃ (s : Blanks) (v : Text), (∀ a ∈ v, isWord a = true) ∧ t = s.text ++ (v ++ rest)) ∨
    ∃ b, rest = b ++ c :: t := by
  have hgap : ∀ (k : Gap) {v x : Text}, k.text = x ++ c :: v → ∃ s : Blanks, s.text = v := by
    intro k v x hk
    exact ⟨⟨v, fun a ha => k.isBlank a (by simp [hk, ha])⟩, rfl⟩
  have hword : ∀ word ∈ "class".toList :: modifiers, ∀ {y x : Text},
      word ++ y = x ++ c :: t → ∃ b, y = b ++ c :: t := by
    intro word hmem y x heq
    rcases exists_behind heq with ⟨v, hv, -⟩ | hb
    · exact absurd (by simp [hv]) (hc word hmem)
    · exact hb
  induction ms generalizing u with
  | nil =>
    obtain ⟨b, hb⟩ := hword "class".toList (by simp) (by simpa [ClassClause.modifierText] using h)
    rcases exists_behind hb with ⟨v, hv, rfl⟩ | ⟨b, hb⟩
    · obtain ⟨s, rfl⟩ := hgap g hv
      exact Or.inr (Or.inl ⟨s, w.text, w.isWord, rfl⟩)
    rcases exists_behind hb with ⟨v, hv, rfl⟩ | hrest
    · exact Or.inr (Or.inl ⟨.empty, v, fun a ha => w.isWord a (by simp [hv, ha]), rfl⟩)
    · exact Or.inr (Or.inr hrest)
  | cons m ms ih =>
    have hms' : ∀ n ∈ ms, n.1 ∈ modifiers := fun n hn => hms n (by simp [hn])
    obtain ⟨b, hb⟩ := hword m.1 (by simp [hms m]) (y := m.2.text ++ (ClassClause.modifierText ms ++
      ("class".toList ++ (g.text ++ (w.text ++ rest))))) (by
        simpa [ClassClause.modifierText] using h)
    rcases exists_behind hb with ⟨v, hv, rfl⟩ | ⟨b, hb⟩
    · obtain ⟨s, rfl⟩ := hgap m.2 hv
      exact Or.inl ⟨s, ms, hms', rfl⟩
    · exact ih hms' hb

/-- The words of a class declaration are not all inside one word with blanks in front of it. -/
lemma not_word_of_class {s : Blanks} {v a b : Text} {g : Gap} (hv : ∀ c ∈ v, isWord c = true) :
    s.text ++ v ≠ a ++ ("class".toList ++ (g.text ++ b)) := by
  intro h
  obtain ⟨c, cs, hg⟩ := List.exists_cons_of_ne_nil g.ne_nil
  have hword : isWord c = false := isWord_eq_false_of_isBlank (g.isBlank c (by simp [hg]))
  have hsplit : s.text ++ v = (a ++ "clas".toList) ++ 's' :: (g.text ++ b) := by simpa using h
  rcases exists_behind hsplit with ⟨x, hx, -⟩ | ⟨x, hx⟩
  · have hblank := s.isBlank 's' (by simp [hx])
    exact absurd hblank (by decide)
  · have hmem := hv c (by simp [hx, hg])
    rw [hword] at hmem
    cases hmem

/-- The characters that a declaration may stand behind. -/
def openers : List Char := ['\n', ';', 'p']

/-- A declaration begins behind a line end, a semicolon or the last character of the opening tag. -/
lemma exists_opener {before u : Text} (h : MayFollow (before ++ u)) (hu : u ≠ []) :
    ∃ v, ∃ c ∈ openers, u = v ++ [c] := by
  obtain ⟨v, c, rfl⟩ := (List.eq_nil_or_concat' u).resolve_left hu
  refine ⟨v, c, ?_, rfl⟩
  rcases h with hnil | ⟨mark, hmark, w, hw⟩
  · simp at hnil
  · have hall : ∀ mark ∈ [['\n'], [';'], "<?php".toList], ∀ c ∈ mark.getLast?, c ∈ openers := by
      simp [openers]
    have hne : mark ≠ [] := by
      rintro rfl
      exact absurd hmark (by decide)
    apply hall mark hmark
    rw [← List.getLast?_append_of_ne_nil w hne, hw, ← List.append_assoc, List.getLast?_concat]
    rfl

/-- A class declaration with a character in front of which another one begins is complete where the
other one is. -/
lemma exists_end_of_class {d e : ClassClause} {u rest rest' s : Text} {c : Char} (hc : c ∈ openers)
    (h : e.text ++ rest' = u ++ c :: (d.text ++ (rest ++ s)))
    (hrest : ∀ a ∈ rest.head?, isWord a = false)
    (hadded : ∀ a ∈ (rest ++ s).head?, isWord a = false)
    (hrest' : ∀ a ∈ rest'.head?, isWord a = false) :
    ∃ r, rest' = r ++ s ∧ ∀ a ∈ r.head?, isWord a = false := by
  have hfixed : ∀ c ∈ openers, ∀ word ∈ "class".toList :: modifiers, c ∉ word := by
    simp [openers, modifiers]
  have hnone : ∀ c ∈ openers, isIndent c = false := by
    simp [openers, isIndent]
  have hclass : ∀ (f : ClassClause) (y : Text), f.text ++ y = f.indent.text ++
      (ClassClause.modifierText f.modifiers ++
        ("class".toList ++ (f.gap.text ++ (f.name.text ++ y)))) := by
    intro f y
    simp [ClassClause.text]
  rw [hclass] at h
  rcases exists_behind h with ⟨v, hv, -⟩ | ⟨b, hb⟩
  · have hindent := e.indent.isIndent c (by simp [hv])
    rw [hnone c hc] at hindent
    cases hindent
  rcases class_behind e.mem_modifiers e.gap e.name (hfixed c hc) hb with
    ⟨k, ms, hms, hk⟩ | ⟨k, v, hv, hk⟩ | ⟨b, rfl⟩
  · -- Both declarations go on in the same way, so they end at the same place.
    let f : ClassClause := ⟨d.indent, ms, hms, e.gap, e.name⟩
    have hhead : ∀ y, ∀ a ∈ ("class".toList ++ y).head?, isBlank a = false :=
      isBlank_of_head_append rfl (by decide)
    have hblanks := congrArg (List.takeWhile isBlank) hk
    rw [hclass, takeWhile_append_eq (fun c hc => isBlank_of_isIndent (d.indent.isIndent c hc))
        (isBlank_of_head_modifierText d.mem_modifiers (hhead _)),
      takeWhile_append_eq k.isBlank (isBlank_of_head_modifierText hms (hhead _))] at hblanks
    have hf : d.text ++ (rest ++ s) = f.text ++ rest' := by
      rw [hk, ← hblanks, hclass f]
    have hread : readClass? (d.text ++ (rest ++ s)) = some (d.name.text, rest ++ s) :=
      readClass?_eq_some_iff.mpr ⟨⟨d, rfl, rfl⟩, hadded⟩
    have hread' : readClass? (f.text ++ rest') = some (f.name.text, rest') :=
      readClass?_eq_some_iff.mpr ⟨⟨f, rfl, rfl⟩, hrest'⟩
    rw [hf, hread'] at hread
    exact ⟨rest, (Prod.mk.inj (Option.some.inj hread)).2, hrest⟩
  · -- The earlier declaration ends with the first word of the later one.
    have hwords : ∀ y, k.text ++ v ≠ d.text ++ y := by
      intro y
      have hne := not_word_of_class (s := k) (a := d.indent.text ++ ClassClause.modifierText d.modifiers)
        (g := d.gap) (b := d.name.text ++ y) hv
      rw [hclass]
      simpa using hne
    rw [← List.append_assoc, ← List.append_assoc] at hk
    rcases List.append_eq_append_iff.mp hk with ⟨a, ha, -⟩ | ⟨a, ha, rfl⟩
    · exact absurd (ha.trans (List.append_assoc _ _ _)) (hwords _)
    · refine ⟨a, rfl, ?_⟩
      cases a with
      | nil => exact absurd (by rw [ha, List.append_nil]) (hwords rest)
      | cons a as => simpa using hrest'
  · exact ⟨b ++ c :: (d.text ++ rest), by simp, by cases b <;> simpa using hrest'⟩

/-- A class declaration that begins in front of another one is there without text that is added
behind the other one, if no word goes on into this text. -/
lemma IsClassAt.of_append {t s : Text} {p q : Reader.Place Text} (hacross : NoWordAcross t s)
    (hp : IsClassAt t p) (hq : IsClassAt (t ++ s) q) (hlt : q.start < p.start) : IsClassAt t q := by
  obtain ⟨d, before, rest, rfl, hbefore, hspans, -, hrest⟩ := hp
  obtain ⟨e, before', rest', htext, hbefore', hspans', hvalue', hrest'⟩ := hq
  have hcut : before' ++ (e.text ++ rest') = before ++ (d.text ++ (rest ++ s)) := by
    simpa using htext.symm
  obtain ⟨between, rfl, hbehind⟩ := exists_append_of_length_le hcut
    (by rw [← hspans.1, ← hspans'.1]; exact Nat.le_of_lt hlt)
  have hne : between ≠ [] := by
    rintro rfl
    have hstart : q.start = p.start := by rw [hspans.1, hspans'.1, List.append_nil]
    exact absurd hstart (Nat.ne_of_lt hlt)
  obtain ⟨u, c, hc, rfl⟩ := exists_opener hbefore hne
  obtain ⟨r, rfl, hr⟩ := exists_end_of_class hc (by simpa using hbehind) hrest
    (isWord_of_head_append d hacross hrest) hrest'
  refine ⟨e, before', r, ?_, hbefore', hspans', hvalue', hr⟩
  have hall : (before' ++ (u ++ [c]) ++ (d.text ++ rest)) ++ s =
      (before' ++ (e.text ++ r)) ++ s := by
    simpa using htext
  exact List.append_cancel_right hall

/-! ## The class of a file -/

/-- A first place stays the first one when places in front of it are no new ones. -/
lemma IsFirstFrom.mono {asked asked' : Reader.Place Text → Prop} {pos : Nat}
    {p : Reader.Place Text} (h : IsFirstFrom pos asked p) (hkept : asked' p)
    (hnew : ∀ q, asked' q → q.start < p.start → asked q) : IsFirstFrom pos asked' p := by
  refine ⟨hkept, h.2.1, fun q hq hle => ?_⟩
  by_contra hlt
  exact hlt (h.2.2 q (hnew q hq (Nat.lt_of_not_le hlt)) hle)

/-- The first declarations stay the first ones when text is added into which no word goes on. -/
lemma identity_append {t s : Text} {c : ClassIdentity} (h : identity t = .ok c)
    (hacross : NoWordAcross t s) : identity (t ++ s) = .ok c := by
  obtain ⟨p, q, hp, hq, rfl⟩ := identity_eq_iff.mp h
  refine identity_eq_iff.mpr ⟨p, q, ?_, ?_, rfl⟩
  · exact hp.mono (hp.1.append s) fun _ hr hlt => hp.1.of_append hr hlt
  · exact hq.mono (hq.1.append hacross) fun _ hr hlt => hq.1.of_append hacross hr hlt

/-- The text of a file up to the name of its class declares the same class. -/
lemma exists_front_of_identity {t : Text} {c : ClassIdentity} (h : identity t = .ok c) :
    ∃ p q front rest, IsFirstFrom 0 (IsNamespaceAt t) p ∧ IsFirstFrom p.stop (IsClassAt t) q ∧
      c = ⟨p.value, q.value⟩ ∧ t = front ++ rest ∧ q.stop = front.length ∧
      identity front = .ok c := by
  obtain ⟨p, q, hp, hq, rfl⟩ := identity_eq_iff.mp h
  obtain ⟨d, before, rest, rfl, hbefore, hspans, hvalue, hrest⟩ := hq.1
  obtain ⟨e, before', rest', htext, hbefore', hspans', hvalue'⟩ := hp.1
  have hstop : q.stop = (before ++ d.text).length := by rw [hspans.2, hspans.1, List.length_append]
  have hclass : IsClassAt (before ++ d.text) q :=
    ⟨d, before, [], by simp, hbefore, hspans, hvalue, by simp⟩
  -- The namespace declaration ends in front of the class declaration.
  have hnamespace : IsNamespaceAt (before ++ d.text) p := by
    have hcut : (before' ++ e.text) ++ rest' = before ++ (d.text ++ rest) := by simpa using htext.symm
    have hle : (before' ++ e.text).length ≤ before.length := by
      rw [List.length_append, ← hspans'.1, ← hspans'.2, ← hspans.1]
      exact hq.2.1
    obtain ⟨between, rfl, -⟩ := exists_append_of_length_le hcut hle
    exact ⟨e, before', between ++ d.text, by simp, hbefore', hspans', hvalue'⟩
  have hall : before ++ (d.text ++ rest) = before ++ d.text ++ rest :=
    (List.append_assoc _ _ _).symm
  refine ⟨p, q, before ++ d.text, rest, hp, hq, rfl, hall, hstop, identity_eq_iff.mpr
    ⟨p, q, ⟨hnamespace, hp.2.1, fun r hr => hp.2.2 r ?_⟩, ⟨hclass, hq.2.1, fun r hr => hq.2.2 r ?_⟩,
      rfl⟩⟩
  · exact hall ▸ hr.append rest
  · exact hall ▸ hr.append (Or.inr hrest)

/-- The text declares the class, and a file with this text has the node of the class, wherever the
file is. -/
def Settles (t : Text) (c : ClassIdentity) : Prop :=
  identity t = .ok c ∧ ∀ path, (Contribution.ofFile ⟨path, t⟩).map Contribution.node =
    .ok ⟨c.qualified, c.name, path⟩

lemma settles_of_identity {t : Text} {c : ClassIdentity} (h : identity t = .ok c) : Settles t c := by
  refine ⟨h, fun path => ?_⟩
  rw [Contribution.ofFile, h]
  rfl

/-- Only the first namespace and the first class behind it count: text that is added to a file changes
neither the class of the file nor its node, as long as no word goes on into it.  The same holds for
whatever stands behind the name of the class. -/
theorem identity_append_of_ok {t : Text} {c : ClassIdentity} (h : identity t = .ok c) :
    (∀ s, NoWordAcross t s → Settles (t ++ s) c) ∧
    ∃ p q front rest, IsFirstFrom 0 (IsNamespaceAt t) p ∧ IsFirstFrom p.stop (IsClassAt t) q ∧
      c = ⟨p.value, q.value⟩ ∧ t = front ++ rest ∧ q.stop = front.length ∧
      ∀ s, (∀ a ∈ s.head?, isWord a = false) → Settles (front ++ s) c := by
  refine ⟨fun s hacross => settles_of_identity (identity_append h hacross), ?_⟩
  obtain ⟨p, q, front, rest, hp, hq, hc, htext, hstop, hfront⟩ := exists_front_of_identity h
  refine ⟨p, q, front, rest, hp, hq, hc, htext, hstop, fun s hs => ?_⟩
  exact settles_of_identity (identity_append hfront (Or.inr hs))

/-- A file up to the name of its class, whose modifier stands on a line of its own. -/
def firstPair : Text := "<?php\nnamespace App\\Models;\nuse Blog\\Post;\nfinal\nclass User".toList

/-- Another namespace with another class. -/
def secondPair : Text := " extends Model \x7b \x7d\nnamespace Blog;\nclass Post \x7b \x7d\n".toList

/-- The second namespace and the second class in a file do not count. -/
theorem identity_append_of_ok_secondPair :
    identity firstPair = .ok ⟨"App\\Models".toList, "User".toList⟩ ∧
    NoWordAcross firstPair secondPair ∧
    Settles (firstPair ++ secondPair) ⟨"App\\Models".toList, "User".toList⟩ := by
  have hidentity : identity firstPair = .ok ⟨"App\\Models".toList, "User".toList⟩ := by
    decide +kernel
  have hacross : NoWordAcross firstPair secondPair := by
    refine Or.inr fun c hc => ?_
    obtain rfl : ' ' = c := Option.some.inj hc
    rfl
  exact ⟨hidentity, hacross, (identity_append_of_ok hidentity).1 secondPair hacross⟩

/-- A word that goes on makes another class. -/
example : identity (firstPair ++ "s \x7b \x7d".toList) =
    .ok ⟨"App\\Models".toList, "Users".toList⟩ := by
  decide +kernel

end Declaration

end RelationAtlas
