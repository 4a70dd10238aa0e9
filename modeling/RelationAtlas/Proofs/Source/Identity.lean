import RelationAtlas.Proofs.Source.Declarations
import RelationAtlas.Proofs.Text.Gaps

/-!
# The class of a file, by the grammar of declarations

A declaration is written down in parts: blanks, words and names.  `NamespaceClause` and `ClassClause`
are such declarations, and the readers take exactly them off the front of a text
(`readNamespace?_eq_some_iff`, `readClass?_eq_some_iff`).

The search for a declaration tries one place after the other, so it finds the first one
(`first?_spec`).  Together this says which class a file declares, without mentioning how it is
looked for (`identity_of_first`): the namespace is that of the first namespace declaration, and the
class that of the first class declaration behind its semicolon.
-/

namespace RelationAtlas

open Text

/-! ## Declarations as they are written -/

/-- Spaces and tabs in front of a declaration. -/
structure Indent where
  text : Text
  isIndent : ∀ c ∈ text, Text.isIndent c = true

/-- A namespace declaration as it is written. -/
structure NamespaceClause where
  indent : Indent
  gap : Gap
  name : SpelledName
  space : Blanks

/-- A class declaration as it is written, up to the name of the class. -/
structure ClassClause where
  indent : Indent
  modifiers : List (Text × Gap)
  mem_modifiers : ∀ m ∈ modifiers, m.1 ∈ Declaration.modifiers
  gap : Gap
  name : Word

namespace NamespaceClause

/-- The text of a namespace declaration, its semicolon included. -/
def text (d : NamespaceClause) : Text :=
  d.indent.text ++ ("namespace".toList ++ (d.gap.text ++ (d.name.text ++ (d.space.text ++ [';']))))

end NamespaceClause

namespace ClassClause

/-- The text of modifiers. -/
def modifierText (ms : List (Text × Gap)) : Text := ms.flatMap fun m => m.1 ++ m.2.text

/-- The text of a class declaration. -/
def text (d : ClassClause) : Text :=
  d.indent.text ++ (modifierText d.modifiers ++ ("class".toList ++ (d.gap.text ++ d.name.text)))

end ClassClause

namespace Declaration

/-! ## Reading a declaration -/

/-- Spaces and tabs are blanks. -/
lemma isBlank_of_isIndent {c : Char} (h : isIndent c = true) : isBlank c = true := by
  rcases (by simpa [isIndent] using h : c = ' ' ∨ c = '\t') with rfl | rfl
  all_goals decide

/-- A declaration is read behind what it is indented by. -/
lemma dropWhile_indent (s : Indent) {t : Text} (ht : ∀ c ∈ t.head?, isBlank c = false) :
    (s.text ++ t).dropWhile isIndent = t := by
  refine dropWhile_append_eq s.isIndent fun c hc => Bool.eq_false_iff.mpr fun hindent => ?_
  have hblank := ht c hc
  rw [isBlank_of_isIndent hindent] at hblank
  cases hblank

lemma exists_indent (t : Text) : ∃ s : Indent, t = s.text ++ t.dropWhile isIndent :=
  ⟨⟨t.takeWhile isIndent, List.all_eq_true.mp List.all_takeWhile⟩,
    (List.takeWhile_append_dropWhile (p := isIndent)).symm⟩

/-- The reader of namespace declarations reads those that are written at the front of a text. -/
lemma readNamespace?_eq_some_iff {t name rest : Text} :
    readNamespace? t = some (name, rest) ↔
      ∃ d : NamespaceClause, d.name.text = name ∧ t = d.text ++ rest := by
  constructor
  · intro h
    simp only [readNamespace?, Option.bind_eq_bind, Option.bind_eq_some_iff] at h
    obtain ⟨t1, h1, t2, h2, ⟨w, t3⟩, h3, t4, h4, h5⟩ := h
    simp only [Option.pure_def, Option.some.injEq, Prod.mk.injEq] at h5
    obtain ⟨rfl, rfl⟩ := h5
    obtain ⟨indent, hindent⟩ := exists_indent t
    obtain ⟨gap, rfl⟩ := exists_gap h2
    obtain ⟨space, hspace⟩ := exists_blanks t3
    obtain ⟨rfl, hne, hname, -⟩ := run?_eq_some_iff.mp h3
    rw [after?_eq_some_iff.mp h1] at hindent
    rw [after?_eq_some_iff.mp h4] at hspace
    refine ⟨⟨indent, gap, ⟨w, hne, hname⟩, space⟩, rfl, ?_⟩
    rw [hindent, hspace]
    simp [NamespaceClause.text]
  · rintro ⟨d, rfl, rfl⟩
    have htext : d.text ++ rest = d.indent.text ++ ("namespace".toList ++ (d.gap.text ++
        (d.name.text ++ (d.space.text ++ ';' :: rest)))) := by
      simp [NamespaceClause.text]
    have hend : ∀ c ∈ (d.space.text ++ ';' :: rest).head?, Name.isNameChar c = false :=
      d.space.not_of_head (fun c => isNameChar_eq_false_of_isBlank)
        (by simpa using Name.isNameChar_of_delimiter (d := ';') (by decide))
    rw [htext, readNamespace?, dropWhile_indent _ (isBlank_of_head_append rfl (by decide) _),
      after?_append]
    simp only [Option.bind_eq_bind, Option.bind_some]
    rw [d.gap.afterBlanks?_append (d.name.isBlank_of_head _), Option.bind_some,
      run?_append_eq d.name.ne_nil d.name.isNameChar hend]
    simp only [Option.bind_some]
    rw [d.space.dropBlanks_append (by simp; decide)]
    rfl

/-- Different modifiers begin with different characters. -/
lemma eq_of_modifiers_append {m n u v : Text} (hm : m ∈ modifiers) (hn : n ∈ modifiers)
    (h : m ++ u = n ++ v) : m = n := by
  have hsome : ∀ m ∈ modifiers, m.head?.isSome = true := by decide
  have heq : ∀ m ∈ modifiers, ∀ n ∈ modifiers, m.head? = n.head? → m = n := by decide
  have hhead := congrArg List.head? h
  rw [List.head?_append, List.head?_append, Option.or_of_isSome (hsome m hm),
    Option.or_of_isSome (hsome n hn)] at hhead
  exact heq m hm n hn hhead

/-- A modifier with the gap behind it is passed. -/
lemma afterModifier?_append {m : Text} (hm : m ∈ modifiers) (g : Gap) {t : Text}
    (ht : ∀ c ∈ t.head?, isBlank c = false) : afterModifier? (m ++ (g.text ++ t)) = some t := by
  obtain ⟨before, behind, hmodifiers, hbefore⟩ := List.eq_append_cons_of_mem hm
  refine List.findSome?_eq_some_iff.mpr ⟨before, m, behind, hmodifiers, ?_, fun n hn => ?_⟩
  · rw [after?_append, Option.bind_some, g.afterBlanks?_append ht]
  · cases hafter : after? n (m ++ (g.text ++ t)) with
    | none => rfl
    | some rest =>
      have hmem : n ∈ modifiers := by simp [hmodifiers, hn]
      have heq := eq_of_modifiers_append hm hmem (after?_eq_some_iff.mp hafter)
      exact absurd (heq ▸ hn) hbefore

/-- No blank stands in front of modifiers. -/
lemma isBlank_of_head_modifierText {ms : List (Text × Gap)} (hms : ∀ m ∈ ms, m.1 ∈ modifiers)
    {t : Text} (ht : ∀ c ∈ t.head?, isBlank c = false) :
    ∀ c ∈ (ClassClause.modifierText ms ++ t).head?, isBlank c = false := by
  cases ms with
  | nil => exact ht
  | cons m ms =>
    have hm := hms m (by simp)
    simp only [modifiers, List.mem_cons, List.not_mem_nil, or_false] at hm
    rw [ClassClause.modifierText, List.flatMap_cons, List.append_assoc, List.append_assoc]
    rcases hm with hm | hm | hm
    all_goals
      rw [hm]
      exact isBlank_of_head_append rfl (by decide) _

/-- What modifiers stand in front of is left when they are dropped. -/
lemma dropModifiers_append {ms : List (Text × Gap)} (hms : ∀ m ∈ ms, m.1 ∈ modifiers) {t : Text}
    (ht : ∀ c ∈ t.head?, isBlank c = false) (hnone : afterModifier? t = none) :
    dropModifiers (ClassClause.modifierText ms ++ t) = t := by
  induction ms with
  | nil =>
    rw [ClassClause.modifierText, List.flatMap_nil, List.nil_append, dropModifiers]
    split
    · next h => rw [hnone] at h; cases h
    · rfl
  | cons m ms ih =>
    have hms' : ∀ n ∈ ms, n.1 ∈ modifiers := fun n hn => hms n (by simp [hn])
    have hfirst := afterModifier?_append (hms m (by simp)) m.2
      (isBlank_of_head_modifierText hms' ht)
    have htext : ClassClause.modifierText (m :: ms) ++ t =
        m.1 ++ (m.2.text ++ (ClassClause.modifierText ms ++ t)) := by
      simp [ClassClause.modifierText]
    rw [htext, dropModifiers]
    split
    · next h =>
      rw [hfirst] at h
      obtain rfl := Option.some.inj h
      exact ih hms'
    · next h => rw [hfirst] at h; cases h

/-- Where modifiers are dropped, modifiers stand. -/
lemma exists_modifiers (t : Text) : ∃ ms : List (Text × Gap), (∀ m ∈ ms, m.1 ∈ modifiers) ∧
    t = ClassClause.modifierText ms ++ dropModifiers t := by
  induction hn : t.length using Nat.strongRecOn generalizing t with
  | _ n ih =>
    subst hn
    cases h : afterModifier? t with
    | none =>
      refine ⟨[], by simp, ?_⟩
      rw [dropModifiers]
      split
      · next h' => rw [h] at h'; cases h'
      · rfl
    | some rest =>
      obtain ⟨m, hm, hafter⟩ := List.exists_of_findSome?_eq_some h
      obtain ⟨u, hu, hgap⟩ := Option.bind_eq_some_iff.mp hafter
      obtain ⟨g, rfl⟩ := exists_gap hgap
      obtain ⟨ms, hms, hrest⟩ := ih _ (afterModifier?_length h) rest rfl
      refine ⟨(m, g) :: ms, ?_, ?_⟩
      · intro n hn
        rcases List.mem_cons.mp hn with rfl | hn
        · exact hm
        · exact hms n hn
      · have hdrop : dropModifiers t = dropModifiers rest := by
          rw [dropModifiers]
          split
          · next h' => rw [h] at h'; rw [Option.some.inj h']
          · next h' => rw [h] at h'; cases h'
        rw [hdrop, ClassClause.modifierText, List.flatMap_cons, ← ClassClause.modifierText,
          List.append_assoc, List.append_assoc, ← hrest]
        exact after?_eq_some_iff.mp hu

/-- The reader of class declarations reads those that are written at the front of a text, with a
word that does not go on. -/
lemma readClass?_eq_some_iff {t name rest : Text} :
    readClass? t = some (name, rest) ↔
      (∃ d : ClassClause, d.name.text = name ∧ t = d.text ++ rest) ∧
        ∀ c ∈ rest.head?, isWord c = false := by
  constructor
  · intro h
    simp only [readClass?, Option.bind_eq_bind, Option.bind_eq_some_iff] at h
    obtain ⟨t1, h1, t2, h2, h3⟩ := h
    obtain ⟨indent, hindent⟩ := exists_indent t
    obtain ⟨ms, hms, hmodifiers⟩ := exists_modifiers (t.dropWhile Text.isIndent)
    obtain ⟨gap, rfl⟩ := exists_gap h2
    obtain ⟨rfl, hne, hword, hend⟩ := run?_eq_some_iff.mp h3
    rw [hmodifiers, after?_eq_some_iff.mp h1] at hindent
    refine ⟨⟨⟨indent, ms, hms, gap, ⟨name, hne, hword⟩⟩, rfl, ?_⟩, hend⟩
    rw [hindent]
    simp [ClassClause.text]
  · rintro ⟨⟨d, rfl, rfl⟩, hend⟩
    have htext : d.text ++ rest = d.indent.text ++ (ClassClause.modifierText d.modifiers ++
        ("class".toList ++ (d.gap.text ++ (d.name.text ++ rest)))) := by
      simp [ClassClause.text]
    have hclass : ∀ t, afterModifier? ("class".toList ++ t) = none := by
      intro t
      simp [afterModifier?, modifiers, after?]
    have hhead : ∀ c ∈ ("class".toList ++ (d.gap.text ++ (d.name.text ++ rest))).head?,
        isBlank c = false := isBlank_of_head_append rfl (by decide) _
    rw [htext, readClass?, dropWhile_indent _ (isBlank_of_head_modifierText d.mem_modifiers hhead),
      dropModifiers_append d.mem_modifiers hhead (hclass _), after?_append]
    simp only [Option.bind_eq_bind, Option.bind_some]
    rw [d.gap.afterBlanks?_append (d.name.isBlank_of_head _), Option.bind_some,
      run?_append_eq d.name.ne_nil d.name.isWord hend]

/-! ## Places of declarations -/

/-- May a declaration begin behind this text?  It may at the front of a file, behind a line end,
behind a semicolon, and behind the opening tag. -/
def MayFollow (before : Text) : Prop :=
  before = [] ∨ ∃ mark ∈ [['\n'], [';'], "<?php".toList], mark <:+ before

/-- There is a namespace declaration at the place. -/
def IsNamespaceAt (t : Text) (p : Reader.Place Text) : Prop :=
  ∃ (d : NamespaceClause) (before rest : Text), t = before ++ (d.text ++ rest) ∧
    MayFollow before ∧ p.Spans before d.text ∧ p.value = d.name.text

/-- There is a class declaration at the place, and its name is complete. -/
def IsClassAt (t : Text) (p : Reader.Place Text) : Prop :=
  ∃ (d : ClassClause) (before rest : Text), t = before ++ (d.text ++ rest) ∧
    MayFollow before ∧ p.Spans before d.text ∧ p.value = d.name.text ∧
    ∀ c ∈ rest.head?, isWord c = false

/-- The place is the first one from `pos` on of those that are asked for. -/
def IsFirstFrom (pos : Nat) (asked : Reader.Place Text → Prop) (p : Reader.Place Text) : Prop :=
  asked p ∧ pos ≤ p.start ∧ ∀ q, asked q → pos ≤ q.start → p.start ≤ q.start

/-- The reader is told whether a declaration may begin by the characters before it, of which it sees
the nearest first. -/
lemma opensDeclaration_reverse_iff (before : Text) :
    opensDeclaration before.reverse = true ↔ MayFollow before := by
  have hmarks : MayFollow before ↔ before.reverse = [] ∨
      ['\n'] <+: before.reverse ∨ [';'] <+: before.reverse ∨ "php?<".toList <+: before.reverse := by
    unfold MayFollow
    simp only [List.mem_cons, List.not_mem_nil, or_false, exists_eq_or_imp, exists_eq_left,
      ← List.reverse_prefix, List.reverse_eq_nil_iff]
    rfl
  rw [hmarks]
  generalize before.reverse = b
  unfold opensDeclaration
  split
  · simp
  · simp
  · simp
  · simp
  · next hnil hline hsemicolon htag =>
    have hnone : ¬ (b = [] ∨ ['\n'] <+: b ∨ [';'] <+: b ∨ "php?<".toList <+: b) := by
      rintro (hb | ⟨r, hb⟩ | ⟨r, hb⟩ | ⟨r, hb⟩)
      · exact hnil hb
      · exact hline r hb.symm
      · exact hsemicolon r hb.symm
      · exact htag r hb.symm
    simpa using hnone

/-- Behind a semicolon it does not matter what stands before it. -/
lemma mayFollow_behind (before u : Text) :
    MayFollow (before ++ ';' :: u) ↔ MayFollow (';' :: u) := by
  have hsuffix : ';' :: u <:+ before ++ ';' :: u := List.suffix_append _ _
  have hmark : ∀ mark ∈ [['\n'], [';'], "<?php".toList],
      mark <:+ before ++ ';' :: u → mark <:+ ';' :: u := by
    intro mark hmem h
    rcases List.suffix_or_suffix_of_suffix h hsuffix with hshort | hlong
    · exact hshort
    -- The only mark that holds a semicolon is the semicolon itself.
    have hsemicolon : ';' ∈ mark := hlong.subset (by simp)
    simp only [List.mem_cons, List.not_mem_nil, or_false] at hmem
    rcases hmem with rfl | rfl | rfl
    · simp at hsemicolon
    · exact (hlong.eq_of_length_le (by simp)) ▸ List.suffix_rfl
    · simp at hsemicolon
  unfold MayFollow
  simp only [List.append_eq_nil_iff, reduceCtorEq, and_false, false_or]
  constructor
  · rintro ⟨mark, hmem, h⟩
    exact ⟨mark, hmem, hmark mark hmem h⟩
  · rintro ⟨mark, hmem, h⟩
    exact ⟨mark, hmem, h.trans hsuffix⟩

/-! ## The first declaration -/

/-- A declaration can be read at the place, and it may begin there. -/
def IsReadAt (read? : Text → Option (Text × Text)) (t : Text) (p : Reader.Place Text) : Prop :=
  ∃ before part rest, t = before ++ (part ++ rest) ∧ MayFollow before ∧ p.Spans before part ∧
    read? (part ++ rest) = some (p.value, rest)

lemma isReadAt_readNamespace? (t : Text) : IsReadAt readNamespace? t = IsNamespaceAt t := by
  funext p
  refine propext ⟨?_, ?_⟩
  · rintro ⟨before, part, rest, rfl, hbefore, hspans, hread⟩
    obtain ⟨d, hname, hd⟩ := readNamespace?_eq_some_iff.mp hread
    obtain rfl := List.append_cancel_right hd
    exact ⟨d, before, rest, rfl, hbefore, hspans, hname.symm⟩
  · rintro ⟨d, before, rest, rfl, hbefore, hspans, hname⟩
    exact ⟨before, d.text, rest, rfl, hbefore, hspans,
      readNamespace?_eq_some_iff.mpr ⟨d, hname.symm, rfl⟩⟩

lemma isReadAt_readClass? (t : Text) : IsReadAt readClass? t = IsClassAt t := by
  funext p
  refine propext ⟨?_, ?_⟩
  · rintro ⟨before, part, rest, rfl, hbefore, hspans, hread⟩
    obtain ⟨⟨d, hname, hd⟩, hend⟩ := readClass?_eq_some_iff.mp hread
    obtain rfl := List.append_cancel_right hd
    exact ⟨d, before, rest, rfl, hbefore, hspans, hname.symm, hend⟩
  · rintro ⟨d, before, rest, rfl, hbefore, hspans, hname, hend⟩
    exact ⟨before, d.text, rest, rfl, hbefore, hspans,
      readClass?_eq_some_iff.mpr ⟨⟨d, hname.symm, rfl⟩, hend⟩⟩

/-- What is read at a place is determined by where it starts. -/
lemma IsReadAt.unique {read? : Text → Option (Text × Text)} {t : Text} {p q : Reader.Place Text}
    (hp : IsReadAt read? t p) (hq : IsReadAt read? t q) (hstart : p.start = q.start) : p = q := by
  obtain ⟨before, part, rest, rfl, -, hspans, hread⟩ := hp
  obtain ⟨before', part', rest', htext, -, hspans', hread'⟩ := hq
  have hlength : before.length = before'.length := by rw [← hspans.1, hstart, hspans'.1]
  obtain ⟨rfl, hbehind⟩ := List.append_inj htext hlength
  rw [hbehind, hread'] at hread
  simp only [Option.some.injEq, Prod.mk.injEq] at hread
  obtain ⟨hvalue, rfl⟩ := hread
  obtain rfl := List.append_cancel_right hbehind
  obtain ⟨start, stop, value⟩ := p
  obtain ⟨start', stop', value'⟩ := q
  simp only [Reader.Place.Spans] at hspans hspans' hvalue hstart
  rw [hspans.2, hspans'.2, hvalue, hstart]

/-- There is at most one first place. -/
lemma IsFirstFrom.unique {read? : Text → Option (Text × Text)} {t : Text} {pos : Nat}
    {p q : Reader.Place Text} (hp : IsFirstFrom pos (IsReadAt read? t) p)
    (hq : IsFirstFrom pos (IsReadAt read? t) q) : p = q :=
  hp.1.unique hq.1 (Nat.le_antisymm (hp.2.2 q hq.1 hq.2.1) (hq.2.2 p hp.1 hp.2.1))

/-- What is read right behind a text. -/
lemma IsReadAt.read? {read? : Text → Option (Text × Text)} {front t : Text}
    {p : Reader.Place Text} (hp : IsReadAt read? (front ++ t) p) (hstart : p.start = front.length) :
    MayFollow front ∧ ∃ rest, read? t = some (p.value, rest) := by
  obtain ⟨before, part, rest, htext, hbefore, hspans, hread⟩ := hp
  obtain ⟨rfl, rfl⟩ := List.append_inj htext (by rw [← hstart, hspans.1])
  exact ⟨hbefore, rest, hread⟩

/-- The search tries one place after the other: it finds the first one at which something can be
read, and nothing if there is none.  What stands in front of it is `front`, and it is told so much of
it, as `before`, that it knows where a declaration may begin. -/
lemma first?_spec {read? : Text → Option (Text × Text)} (hnil : read? [] = none)
    (hend : ∀ {t a rest}, read? t = some (a, rest) → rest <:+ t) (front before t : Text)
    (hopens : ∀ u, opensDeclaration (u.reverse ++ before) = true ↔ MayFollow (front ++ u)) :
    match first? read? before t with
    | none => ∀ p, IsReadAt read? (front ++ t) p → p.start < front.length
    | some (a, rest) => ∃ p part, IsFirstFrom front.length (IsReadAt read? (front ++ t)) p ∧
        p.value = a ∧ front ++ t = part ++ rest ∧ p.stop = part.length := by
  induction t generalizing front before with
  | nil =>
    rintro p ⟨u, part, rest, htext, -, hspans, hread⟩
    have hne : part ++ rest ≠ [] := by
      intro h
      rw [h, hnil] at hread
      cases hread
    have hpos := List.length_pos_iff.mpr hne
    have hlength := congrArg List.length htext
    rw [List.append_nil, List.length_append] at hlength
    rw [hspans.1]
    omega
  | cons c cs ih =>
    have hhere : opensDeclaration before = true ↔ MayFollow front := by simpa using hopens []
    by_cases hfound : MayFollow front ∧ (read? (c :: cs)).isSome
    · obtain ⟨hfront, hsome⟩ := hfound
      obtain ⟨⟨a, rest⟩, hread⟩ := Option.isSome_iff_exists.mp hsome
      obtain ⟨part, hpart⟩ := hend hread
      rw [first?_of_some (by simp) (hhere.mpr hfront) hread]
      refine ⟨⟨front.length, (front ++ part).length, a⟩, front ++ part,
        ⟨⟨front, part, rest, by rw [hpart], hfront, ⟨rfl, List.length_append⟩, by rwa [hpart]⟩,
          Nat.le_refl _, fun q _ hq => hq⟩, rfl, by rw [List.append_assoc, hpart], rfl⟩
    · -- Nothing can be read here, so the search goes on with one character more in front of it.
      have hnext : first? read? before (c :: cs) = first? read? (c :: before) cs := by
        cases hread : read? (c :: cs) with
        | none => exact first?_of_none hread
        | some found =>
          have hclosed : opensDeclaration before ≠ true := fun hbefore =>
            hfound ⟨hhere.mp hbefore, by simp [hread]⟩
          exact first?_of_closed (by simpa using hclosed)
      have hlater : ∀ p, IsReadAt read? (front ++ c :: cs) p → p.start ≠ front.length := by
        intro p hp hstart
        obtain ⟨hfront, rest, hread⟩ := hp.read? hstart
        exact hfound ⟨hfront, by simp [hread]⟩
      have hopens' : ∀ u, opensDeclaration (u.reverse ++ c :: before) = true ↔
          MayFollow (front ++ [c] ++ u) := by
        intro u
        have h := hopens (c :: u)
        simpa using h
      have hrest := ih (front ++ [c]) (c :: before) hopens'
      have htext : front ++ [c] ++ cs = front ++ c :: cs := by simp
      rw [htext, List.length_append, List.length_singleton] at hrest
      rw [hnext]
      cases hsearch : first? read? (c :: before) cs with
      | none =>
        rw [hsearch] at hrest
        intro p hp
        have hlt := hrest p hp
        have hne := hlater p hp
        omega
      | some found =>
        obtain ⟨a, rest⟩ := found
        rw [hsearch] at hrest
        obtain ⟨p, part, ⟨hp, hpos, hfirst⟩, hp'⟩ := hrest
        refine ⟨p, part, ⟨hp, by omega, fun q hq hle => ?_⟩, hp'⟩
        have hne := hlater q hq
        exact hfirst q hq (by omega)

/-- The search for the namespace of a file. -/
lemma first?_readNamespace? (t : Text) :
    match first? readNamespace? [] t with
    | none => ∀ p, ¬ IsNamespaceAt t p
    | some (scope, rest) => ∃ p before, IsFirstFrom 0 (IsNamespaceAt t) p ∧ p.value = scope ∧
        t = before ++ ';' :: rest ∧ p.stop = (before ++ [';']).length := by
  have hend : ∀ {t a rest}, readNamespace? t = some (a, rest) → rest <:+ t := by
    intro t a rest hread
    obtain ⟨d, -, rfl⟩ := readNamespace?_eq_some_iff.mp hread
    exact List.suffix_append _ _
  have hspec := first?_spec (by simp [readNamespace?, after?]) hend [] [] t
    (fun u => by rw [List.append_nil, List.nil_append, opensDeclaration_reverse_iff])
  rw [List.nil_append, isReadAt_readNamespace?] at hspec
  cases hsearch : first? readNamespace? [] t with
  | none =>
    rw [hsearch] at hspec
    exact fun p hp => absurd (hspec p hp) (Nat.not_lt_zero _)
  | some found =>
    obtain ⟨scope, rest⟩ := found
    rw [hsearch] at hspec
    obtain ⟨p, part, hfirst, hvalue, htext, hstop⟩ := hspec
    obtain ⟨d, before, rest', hd, -, hspans, -⟩ := hfirst.1
    -- The declaration ends with its semicolon.
    have hsemicolon : before ++ d.text = before ++ (d.indent.text ++ ("namespace".toList ++
        (d.gap.text ++ (d.name.text ++ d.space.text)))) ++ [';'] := by
      simp [NamespaceClause.text]
    have hpart : part = before ++ d.text := by
      rw [← List.append_assoc] at hd
      refine (List.append_inj (htext.symm.trans hd) ?_).1
      rw [← hstop, hspans.2, hspans.1, List.length_append]
    refine ⟨p, _, hfirst, hvalue, ?_, by rw [hstop, hpart, hsemicolon]⟩
    rw [htext, hpart, hsemicolon, List.append_assoc _ [';']]
    rfl

/-- The search for the class of a file, behind a semicolon. -/
lemma first?_readClass? (before t : Text) :
    match first? readClass? [';'] t with
    | none => ∀ q, IsClassAt (before ++ ';' :: t) q → q.start < (before ++ [';']).length
    | some (name, _) => ∃ q, IsFirstFrom (before ++ [';']).length
        (IsClassAt (before ++ ';' :: t)) q ∧ q.value = name := by
  have hend : ∀ {t a rest}, readClass? t = some (a, rest) → rest <:+ t := by
    intro t a rest hread
    obtain ⟨⟨d, -, rfl⟩, -⟩ := readClass?_eq_some_iff.mp hread
    exact List.suffix_append _ _
  have hnil : readClass? [] = none := by
    cases hread : readClass? [] with
    | none => rfl
    | some found =>
      obtain ⟨name, rest⟩ := found
      obtain ⟨⟨d, -, htext⟩, -⟩ := readClass?_eq_some_iff.mp hread
      simp [ClassClause.text] at htext
  have hopens : ∀ u, opensDeclaration (u.reverse ++ [';']) = true ↔
      MayFollow (before ++ [';'] ++ u) := by
    intro u
    rw [List.append_assoc, List.singleton_append, mayFollow_behind, ← opensDeclaration_reverse_iff,
      List.reverse_cons]
  have hspec := first?_spec hnil hend (before ++ [';']) [';'] t hopens
  have htext : before ++ [';'] ++ t = before ++ ';' :: t := by simp
  rw [htext, isReadAt_readClass?] at hspec
  cases hsearch : first? readClass? [';'] t with
  | none =>
    rw [hsearch] at hspec
    exact hspec
  | some found =>
    obtain ⟨name, rest⟩ := found
    rw [hsearch] at hspec
    obtain ⟨q, -, hfirst, hvalue, -⟩ := hspec
    exact ⟨q, hfirst, hvalue⟩

/-! ## The class of a file -/

/-- What the places of declarations have to be for an answer. -/
def Answers (t : Text) : Except DeclarationFault ClassIdentity → Prop
  | .error .noNamespace => ∀ p, ¬ IsNamespaceAt t p
  | .error .noClass =>
    ∃ p, IsFirstFrom 0 (IsNamespaceAt t) p ∧ ∀ q, IsClassAt t q → q.start < p.stop
  | .ok c => ∃ p q, IsFirstFrom 0 (IsNamespaceAt t) p ∧ IsFirstFrom p.stop (IsClassAt t) q ∧
      c = ⟨p.value, q.value⟩

/-- The answer fits the places of declarations. -/
lemma answers_identity (t : Text) : Answers t (identity t) := by
  have hnamespace := first?_readNamespace? t
  rw [identity]
  cases hscope : first? readNamespace? [] t with
  | none =>
    rw [hscope] at hnamespace
    exact hnamespace
  | some found =>
    obtain ⟨scope, rest⟩ := found
    rw [hscope] at hnamespace
    obtain ⟨p, before, hp, rfl, htext, hstop⟩ := hnamespace
    have hclass := first?_readClass? before rest
    rw [← htext, ← hstop] at hclass
    dsimp only
    cases hname : first? readClass? [';'] rest with
    | none =>
      rw [hname] at hclass
      exact ⟨p, hp, hclass⟩
    | some found =>
      obtain ⟨name, rest'⟩ := found
      rw [hname] at hclass
      obtain ⟨q, hq, rfl⟩ := hclass
      exact ⟨p, q, hp, hq, rfl⟩

/-- There is only one first namespace declaration. -/
lemma eq_of_isFirst_namespace {t : Text} {pos : Nat} {p q : Reader.Place Text}
    (hp : IsFirstFrom pos (IsNamespaceAt t) p) (hq : IsFirstFrom pos (IsNamespaceAt t) q) :
    p = q := by
  rw [← isReadAt_readNamespace?] at hp hq
  exact hp.unique hq

/-- There is only one first class declaration. -/
lemma eq_of_isFirst_class {t : Text} {pos : Nat} {p q : Reader.Place Text}
    (hp : IsFirstFrom pos (IsClassAt t) p) (hq : IsFirstFrom pos (IsClassAt t) q) : p = q := by
  rw [← isReadAt_readClass?] at hp hq
  exact hp.unique hq

/-- Behind a first declaration, one cannot be missing. -/
lemma not_isFirstFrom_of_lt {P : Reader.Place Text → Prop} {pos : Nat} {q : Reader.Place Text}
    (hnone : ∀ q, P q → q.start < pos) : ¬ IsFirstFrom pos P q := fun hq => by
  have hlt := hnone q hq.1
  have hle := hq.2.1
  omega

/-- The places of declarations fit one answer only. -/
lemma Answers.unique {t : Text} {a b : Except DeclarationFault ClassIdentity} (ha : Answers t a)
    (hb : Answers t b) : a = b := by
  match a, b, ha, hb with
  | .error .noNamespace, .error .noNamespace, _, _ => rfl
  | .error .noNamespace, .error .noClass, hnone, ⟨p, hp, _⟩ => exact absurd hp.1 (hnone p)
  | .error .noNamespace, .ok _, hnone, ⟨p, _, hp, _⟩ => exact absurd hp.1 (hnone p)
  | .error .noClass, .error .noNamespace, ⟨p, hp, _⟩, hnone => exact absurd hp.1 (hnone p)
  | .error .noClass, .error .noClass, _, _ => rfl
  | .error .noClass, .ok _, ⟨p, hp, hnone⟩, ⟨p', q, hp', hq, _⟩ =>
    obtain rfl := eq_of_isFirst_namespace hp hp'
    exact absurd hq (not_isFirstFrom_of_lt hnone)
  | .ok _, .error .noNamespace, ⟨p, _, hp, _⟩, hnone => exact absurd hp.1 (hnone p)
  | .ok _, .error .noClass, ⟨p', q, hp', hq, _⟩, ⟨p, hp, hnone⟩ =>
    obtain rfl := eq_of_isFirst_namespace hp hp'
    exact absurd hq (not_isFirstFrom_of_lt hnone)
  | .ok _, .ok _, ⟨p, q, hp, hq, hc⟩, ⟨p', q', hp', hq', hc'⟩ =>
    obtain rfl := eq_of_isFirst_namespace hp hp'
    obtain rfl := eq_of_isFirst_class hq hq'
    rw [hc, hc']

/-- The answer is the one that fits the places of declarations. -/
lemma identity_eq_iff {t : Text} {a : Except DeclarationFault ClassIdentity} :
    identity t = a ↔ Answers t a :=
  ⟨fun h => h ▸ answers_identity t, fun h => (answers_identity t).unique h⟩

/-- Faults are told apart by their words. -/
lemma mapError_message_inj {a b : Except DeclarationFault ClassIdentity} :
    a.mapError DeclarationFault.message = b.mapError DeclarationFault.message ↔ a = b := by
  have hmessage : DeclarationFault.noNamespace.message ≠ DeclarationFault.noClass.message := by
    decide
  refine ⟨fun h => ?_, fun h => h ▸ rfl⟩
  match a, b with
  | .ok _, .ok _ => exact congrArg Except.ok (Except.ok.inj h)
  | .error .noNamespace, .error .noNamespace => rfl
  | .error .noNamespace, .error .noClass => exact absurd (Except.error.inj h) hmessage
  | .error .noClass, .error .noNamespace => exact absurd (Except.error.inj h).symm hmessage
  | .error .noClass, .error .noClass => rfl

/-- The class that a file declares, by the places of declarations.  Without a namespace declaration
there is none; behind the first namespace declaration there has to be a class declaration; and the
first one there names the class. -/
theorem identity_of_first (t : Text) :
    let answer := (identity t).mapError DeclarationFault.message
    (answer = .error "no namespace declaration".toList ↔ ∀ p, ¬ IsNamespaceAt t p) ∧
    (answer = .error "no class declaration after namespace".toList ↔
      ∃ p, IsFirstFrom 0 (IsNamespaceAt t) p ∧ ∀ q, IsClassAt t q → q.start < p.stop) ∧
    ∀ c, answer = .ok c ↔ ∃ p q, IsFirstFrom 0 (IsNamespaceAt t) p ∧
      IsFirstFrom p.stop (IsClassAt t) q ∧ c = ⟨p.value, q.value⟩ := by
  intro answer
  have hanswer : ∀ a, answer = a.mapError DeclarationFault.message ↔ Answers t a := fun a =>
    mapError_message_inj.trans identity_eq_iff
  exact ⟨hanswer (.error .noNamespace), hanswer (.error .noClass), fun c => hanswer (.ok c)⟩

end Declaration

end RelationAtlas
