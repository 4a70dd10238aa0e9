import RelationAtlas.Proofs.Source.JoinedTexts

/-!
# Lines that are put between statements

A line that holds no sign of a body, no hyphen and no header can be put behind any finished statement of
a file, and the file keeps its relationships (`Relationship.ofTextWith_insert`), wherever the place is:
between declarations, in a body, in the middle of a string or of a comment.

At a line end the reader of bodies has stopped, or it goes on in one of four modes, because a comment
that ends with the line is over (`Body.meetsLineEnd`).  In each of these modes an inert line belongs to
the body and leaves mode and braces as they are (`Body.IsInert.runsThrough`).  The calls in front of the
line do not reach into it, because the target of a call ends at the line end at the latest, and nothing
else of a call holds a semicolon (`Call.sealed_read`).
-/

namespace RelationAtlas

open Text

/-! ## Bodies -/

namespace Body

/-- In the given mode and with the given number of open braces, a body runs through the text, and
behind it it goes on in the other mode and with the other number, whatever follows. -/
def RunsThrough (m : Mode) (depth : Nat) (u : Text) (m' : Mode) (depth' : Nat) : Prop :=
  ∀ v, extent m depth (u ++ v) = u ++ extent m' depth' v

/-- The modes in which a line can start. -/
def lineStartModes : List Mode := [.code, .quoted '\'', .quoted '"', .blockComment]

/-- At the line end behind the text, the body is over, or it runs through the line end. -/
def MeetsLineEnd (m : Mode) (depth : Nat) (u : Text) : Prop :=
  (∃ e, ∀ v, extent m depth (u ++ '\n' :: v) = e) ∨
    ∃ m' ∈ lineStartModes, ∃ depth', RunsThrough m depth (u ++ ['\n']) m' depth'

section MeetsLineEnd

variable {m m' : Mode} {depth depth' : Nat} {u v : Text}

/-- The line end is met behind a front part that belongs to the body. -/
lemma MeetsLineEnd.append (h : MeetsLineEnd m' depth' v)
    (hstep : ∀ w, extent m depth (u ++ (v ++ '\n' :: w)) = u ++ extent m' depth' (v ++ '\n' :: w)) :
    MeetsLineEnd m depth (u ++ v) := by
  rcases h with ⟨e, he⟩ | ⟨m'', hm'', depth'', hruns⟩
  · exact .inl ⟨u ++ e, fun w => by rw [List.append_assoc, hstep, he]⟩
  · refine .inr ⟨m'', hm'', depth'', fun w => ?_⟩
    have hnext := hruns w
    simp only [List.append_assoc, List.singleton_append] at hnext ⊢
    rw [hstep, hnext]

lemma MeetsLineEnd.cons {c : Char} (h : MeetsLineEnd m' depth' v)
    (hstep : ∀ w, extent m depth (c :: (v ++ '\n' :: w)) = c :: extent m' depth' (v ++ '\n' :: w)) :
    MeetsLineEnd m depth (c :: v) :=
  h.append (u := [c]) hstep

/-- A line end opens nothing, and it ends a comment of one sort. -/
lemma meetsLineEnd_nil (hm : m ∈ .lineComment :: lineStartModes) (depth : Nat) :
    MeetsLineEnd m depth [] := by
  have hnext : ∀ m' ∈ lineStartModes,
      (∀ v, extent m depth ('\n' :: v) = '\n' :: extent m' depth v) → MeetsLineEnd m depth [] :=
    fun m' hm' h => .inr ⟨m', hm', depth, h⟩
  simp only [lineStartModes, List.mem_cons, List.not_mem_nil, or_false] at hm
  rcases hm with rfl | rfl | rfl | rfl | rfl
  · exact hnext .code (by decide) fun v => by simp [extent]
  · exact hnext .code (by decide) fun v => by simp [extent]
  · exact hnext (.quoted '\'') (by decide) fun v => by simp [extent]
  · exact hnext (.quoted '"') (by decide) fun v => by simp [extent]
  · exact hnext .blockComment (by decide) fun v => by simp [extent]

end MeetsLineEnd

/-- In a comment, a character that does not end it is one like any other. -/
lemma extent_blockComment_cons {c : Char} {cs : Text} (depth : Nat)
    (hend : ¬ (c = '*' ∧ cs.head? = some '/')) :
    extent .blockComment depth (c :: cs) = c :: extent .blockComment depth cs := by
  have hno : ∀ rest, c = '*' → cs = '/' :: rest → False := by
    rintro rest rfl rfl
    simp at hend
  simp [extent]

/-- In a string, a character that takes none along ends the string or goes on with it. -/
lemma extent_quoted_cons (quote : Char) {c : Char} (hc : c ≠ '\\') (depth : Nat) (cs : Text) :
    extent (.quoted quote) depth (c :: cs) =
      c :: extent (if c = quote then .code else .quoted quote) depth cs := by
  simp [extent, hc]

/-- A sign of two characters that does not stand in a text does not end behind the line end either. -/
lemma not_sign_of_append {c first second : Char} {cs : Text} (hsecond : second ≠ '\n')
    (h : ∀ rest, c = first → cs = second :: rest → False) (w : Text) :
    ¬ (c = first ∧ (cs ++ '\n' :: w).head? = some second) := by
  rintro ⟨hc, hhead⟩
  cases cs with
  | nil => exact hsecond (by simpa using hhead.symm)
  | cons b bs => exact h bs hc (by simpa using hhead)

/-- Whatever a text holds, at the line end behind it the body is over or goes on in the next line. -/
theorem meetsLineEnd (m : Mode) (depth : Nat) (u : Text) (hm : m ∈ .lineComment :: lineStartModes) :
    MeetsLineEnd m depth u := by
  have hcode {depth : Nat} {c : Char} {cs : Text}
      (hblock : ∀ rest, c = '/' → cs = '*' :: rest → False)
      (hline : ∀ rest, c = '/' → cs = '/' :: rest → False) (w : Text) :=
    extent_code_cons depth (not_sign_of_append (by decide) hblock w)
      (not_sign_of_append (by decide) hline w)
  -- The cases are those of the reader: in a string, in either sort of comment, in code.
  fun_induction extent m depth u with
  | case1 m depth => exact meetsLineEnd_nil hm depth
  | case2 quote depth =>
    -- A backslash takes the line end along.
    have hquote : .quoted quote ∈ lineStartModes := by simpa using hm
    exact .inr ⟨.quoted quote, hquote, depth, fun v => by simp [extent]⟩
  | case3 quote depth c cs ih => exact (ih hm).append (u := ['\\', c]) fun w => by simp [extent]
  | case4 quote depth c cs hlast hescape ih =>
    have hc : c ≠ '\\' := fun hc => by
      cases cs with
      | nil => exact hlast hc rfl
      | cons d ds => exact hescape d ds hc rfl
    refine (ih ?_).cons fun w => extent_quoted_cons quote hc depth _
    split
    · decide
    · exact hm
  | case5 depth cs ih =>
    exact (ih (by decide)).append (u := "*/".toList) fun w => by simp [extent]
  | case6 depth c cs hend ih =>
    exact (ih hm).cons fun w =>
      extent_blockComment_cons depth (not_sign_of_append (by decide) hend w)
  | case7 depth c cs ih =>
    refine (ih ?_).cons fun w => by simp [extent]
    split <;> decide
  | case8 depth cs ih =>
    exact (ih (by decide)).append (u := "/*".toList) fun w => by simp [extent]
  | case9 depth cs ih =>
    exact (ih (by decide)).append (u := "//".toList) fun w => by simp [extent]
  | case10 depth c cs hblock hline hquote ih =>
    refine (ih ?_).cons fun w => by rw [hcode hblock hline, if_pos hquote]
    rcases hquote with rfl | rfl <;> decide
  | case11 depth cs hblock hline hquote ih =>
    exact (ih (by decide)).cons fun w => by rw [hcode hblock hline, if_neg hquote, if_pos rfl]
  | case12 depth cs hblock hline hquote hhash ih =>
    exact (ih hm).cons fun w => by
      rw [hcode hblock hline, if_neg hquote, if_neg hhash, if_pos rfl]
  | case13 cs hblock hline hquote hhash hopen =>
    exact .inl ⟨['}'], fun w => by
      rw [List.cons_append, hcode hblock hline, if_neg hquote, if_neg hhash, if_neg hopen,
        if_pos rfl, if_pos rfl]⟩
  | case14 depth cs hdepth hblock hline hquote hhash hopen ih =>
    exact (ih hm).cons fun w => by
      rw [hcode hblock hline, if_neg hquote, if_neg hhash, if_neg hopen, if_pos rfl, if_neg hdepth]
  | case15 depth c cs hblock hline hquote hhash hopen hclose ih =>
    exact (ih hm).cons fun w => by
      rw [hcode hblock hline, if_neg hquote, if_neg hhash, if_neg hopen, if_neg hclose]

/-! ## Inert lines -/

/-- The characters that open or close something in a body. -/
def marks : List Char := ['\'', '"', '#', '/', '*', '{', '}']

/-- A text that opens and closes nothing, and that takes nothing behind it along. -/
structure IsInert (u : Text) : Prop where
  notMem_marks : ∀ c ∈ u, c ∉ marks
  getLast?_ne : u.getLast? ≠ some '\\'

namespace IsInert

variable {u : Text}

lemma runsThrough_code (hu : IsInert u) (depth : Nat) : RunsThrough .code depth u .code depth := by
  have hgo : ∀ w : Text, (∀ c ∈ w, c ∉ marks) → RunsThrough .code depth w .code depth := by
    intro w hw v
    induction w with
    | nil => rfl
    | cons c w ih =>
      have hc := hw c (by simp)
      simp only [marks, List.mem_cons, List.not_mem_nil, or_false, not_or] at hc
      obtain ⟨hsingle, hdouble, hhash, hslash, -, hopen, hclose⟩ := hc
      rw [List.cons_append, extent_code_cons depth (fun h => hslash h.1) (fun h => hslash h.1),
        if_neg (by simp [hsingle, hdouble]), if_neg hhash, if_neg hopen, if_neg hclose,
        ih fun d hd => hw d (by simp [hd])]
      rfl
  exact hgo u hu.notMem_marks

lemma runsThrough_blockComment (hu : IsInert u) (depth : Nat) :
    RunsThrough .blockComment depth u .blockComment depth := by
  have hgo : ∀ w : Text, '*' ∉ w → RunsThrough .blockComment depth w .blockComment depth := by
    intro w hw v
    induction w with
    | nil => rfl
    | cons c w ih =>
      obtain ⟨hc, hrest⟩ := List.ne_and_not_mem_of_not_mem_cons hw
      rw [List.cons_append, extent_blockComment_cons depth fun h => hc h.1.symm, ih hrest]
      rfl
  exact hgo u fun hstar => hu.notMem_marks '*' hstar (by decide)

lemma runsThrough_quoted (hu : IsInert u) {quote : Char} (hquote : quote ∈ marks) (depth : Nat) :
    RunsThrough (.quoted quote) depth u (.quoted quote) depth := by
  have hbackslash : '\\' ∉ marks := by decide
  have hgo : ∀ w : Text, quote ∉ w → w.getLast? ≠ some '\\' →
      RunsThrough (.quoted quote) depth w (.quoted quote) depth := by
    intro w hw hlast v
    -- A backslash takes one character along, which is no quote, and which is there.
    induction w using List.twoStepInduction with
    | nil => rfl
    | singleton c =>
      have hc : c ≠ '\\' := by simpa using hlast
      have hne : c ≠ quote := by simpa [eq_comm] using hw
      rw [List.singleton_append, extent_quoted_cons quote hc, if_neg hne]
      rfl
    | cons_cons c d w ih ih' =>
      obtain ⟨hc, hrest⟩ := List.ne_and_not_mem_of_not_mem_cons hw
      rw [List.getLast?_cons_cons] at hlast
      by_cases hescape : c = '\\'
      · subst hescape
        have hnext : w.getLast? ≠ some '\\' := by
          cases w with
          | nil => simp
          | cons e w => rwa [List.getLast?_cons_cons] at hlast
        have hv := ih (List.ne_and_not_mem_of_not_mem_cons hrest).2 hnext
        simp [extent, hv]
      · rw [List.cons_append, extent_quoted_cons quote hescape, if_neg hc.symm,
          ih' d hrest hlast]
        rfl
  exact hgo u (fun hmem => hu.notMem_marks quote hmem hquote) hu.getLast?_ne

/-- A body runs through an inert text wherever a line can start. -/
theorem runsThrough (hu : IsInert u) {m : Mode} (hm : m ∈ lineStartModes) (depth : Nat) :
    RunsThrough m depth u m depth := by
  simp only [lineStartModes, List.mem_cons, List.not_mem_nil, or_false] at hm
  rcases hm with rfl | rfl | rfl | rfl
  · exact hu.runsThrough_code depth
  · exact hu.runsThrough_quoted (by decide) depth
  · exact hu.runsThrough_quoted (by decide) depth
  · exact hu.runsThrough_blockComment depth

/-- An inert text at the start of a line does not belong to a body, or it belongs to it and changes
nothing else about it. -/
lemma ofText_insert {line : Text} (hline : IsInert line) (u v : Text) :
    ofText (u ++ '\n' :: (line ++ v)) = ofText (u ++ '\n' :: v) ∨
      ∃ e, ofText (u ++ '\n' :: (line ++ v)) = u ++ '\n' :: (line ++ e) ∧
        ofText (u ++ '\n' :: v) = u ++ '\n' :: e := by
  rcases meetsLineEnd .code 0 u (by decide) with ⟨e, he⟩ | ⟨m, hm, depth, hruns⟩
  · exact .inl ((he _).trans (he _).symm)
  · have hbehind : ∀ w, ofText (u ++ '\n' :: w) = u ++ '\n' :: extent m depth w := fun w => by
      have hw := hruns w
      rwa [List.append_assoc, List.append_assoc] at hw
    exact .inr ⟨extent m depth v, by rw [hbehind, hline.runsThrough hm], hbehind v⟩

end IsInert

end Body

/-! ## Calls -/

namespace Call

/-- A text ends in front of a semicolon and a line end for the reader of targets. -/
lemma target?_append_line (u v : Text) :
    target? (u ++ ';' :: '\n' :: v) =
      (target? (u ++ [';', '\n'])).map fun found => (found.1, found.2 ++ v) := by
  -- The semicolon may stand in a target, but the line end cannot.
  have hcut : ∀ w, u ++ ';' :: '\n' :: w = (u ++ [';']) ++ '\n' :: w := fun w => by simp
  have hread : ∀ w, target? (u ++ ';' :: '\n' :: w) =
      (cutAtLastSuffix ((u ++ [';']).takeWhile isTargetChar)).map fun found =>
        (found.1, found.2 ++ ((u ++ [';']).dropWhile isTargetChar ++ '\n' :: w)) := fun w => by
    rw [hcut, target?, takeWhile_append_cons (by decide), dropWhile_append_cons (by decide)]
  rw [hread, hread, Option.map_map]
  simp [Function.comp_def]

lemma ofKind?_append_line (k : RelationKind) (u v : Text) :
    ofKind? k (u ++ ';' :: '\n' :: v) =
      (ofKind? k (u ++ [';', '\n'])).map fun found => (found.1, found.2 ++ v) := by
  have hword : ';' ∉ k.word := k.toWord.toName.notMem (by decide)
  rw [ofKind?, ofKind?, after?_append_cons hword, after?_append_cons hword]
  cases after? k.word u with
  | none => rfl
  | some t =>
    simp only [Option.map_some, Option.bind_eq_bind, Option.bind_some]
    rw [dropBlanks_append_cons (by decide), dropBlanks_append_cons (by decide),
      after?_append_cons (by decide), after?_append_cons (by decide)]
    cases after? ['('] (dropBlanks t) with
    | none => rfl
    | some t =>
      simp only [Option.map_some, Option.bind_some]
      rw [dropBlanks_append_cons (by decide), dropBlanks_append_cons (by decide),
        target?_append_line]
      cases target? (dropBlanks t ++ [';', '\n']) <;> rfl

/-- A text that ends with a semicolon and a line end is sealed for the reader of calls. -/
lemma sealed_read (kinds : List RelationKind) (s : Text) :
    Sealed (read? kinds) (s ++ ";\n".toList) := by
  have hend : Sealed (read? kinds) ['\n'] :=
    sealed_of_passed fun v => ⟨read?_eq_none (by simp) kinds, trivial⟩
  refine sealed_append_cons hend (fun u v => ?_) s
  rw [List.singleton_append, read?, read?, after?_append_cons (by decide),
    after?_append_cons (by decide)]
  cases after? "->".toList u with
  | none => rfl
  | some t =>
    simp only [Option.map_some, Option.bind_eq_bind, Option.bind_some]
    rw [dropBlanks_append_cons (by decide), dropBlanks_append_cons (by decide),
      List.map_findSome?]
    exact congrArg (kinds.findSome? ·) (funext fun k => ofKind?_append_line k _ v)

/-- A text without hyphens behind a semicolon and a line end has no calls, and hides none. -/
lemma allWith_insert (kinds : List RelationKind) (s : Text) {line : Text} (hline : '-' ∉ line)
    (t : Text) : allWith kinds (s ++ ";\n".toList ++ (line ++ t)) =
      allWith kinds (s ++ ";\n".toList ++ t) := by
  have hpassed : Passed (read? kinds) line t := passed_of_forall (fun c hc u =>
    read?_eq_none (fun heq => absurd (heq ▸ hc) hline) kinds) t
  have hall := Reader.all_append_of_sealed (leavesEnd_reader kinds) (sealed_read kinds s)
  rw [allWith, hall, Reader.all_of_passed (r := reader kinds) hpassed, ← hall, ← allWith]

end Call

/-! ## Relationships -/

/-- A line that nothing is declared in, and that opens and closes nothing in a body. -/
structure Method.IsIdle (line : Text) : Prop extends Body.IsInert line where
  notMem_hyphen : '-' ∉ line
  passed : ∀ t, Passed header? line t

namespace Relationship

variable {line : Text}

/-- A method has the same relationships with an idle line behind a statement at the end of its span. -/
lemma ofMethodWith_insert (hline : Method.IsIdle line) {m : Method} {u : Text}
    (hspan : m.span = u ++ ";\n".toList) (kinds : List RelationKind) (t : Text) :
    ofMethodWith kinds (m.extend (line ++ t)) = ofMethodWith kinds (m.extend t) := by
  have hbody := hline.ofText_insert (u ++ [';']) t
  have hcalls := Call.allWith_insert kinds u hline.notMem_hyphen
  have hextend : ∀ w, (m.extend w).span = u ++ [';'] ++ '\n' :: w := fun w => by
    rw [Method.extend, hspan]
    simp
  rw [ofMethodWith, ofMethodWith, hextend, hextend]
  rcases hbody with heq | ⟨e, hwith, hwithout⟩
  · rw [heq]
    rfl
  · rw [hwith, hwithout]
    have hcut : ∀ w, u ++ [';'] ++ '\n' :: w = u ++ ";\n".toList ++ w := fun w => by simp
    rw [hcut, hcut, hcalls]
    rfl

/-- An idle line can be put behind any finished statement at the end of a line, wherever this is. -/
theorem ofTextWith_insert (hline : Method.IsIdle line) (kinds : List RelationKind) (s t : Text) :
    ofTextWith kinds (s ++ ";\n".toList ++ (line ++ t)) =
      ofTextWith kinds (s ++ ";\n".toList ++ t) := by
  have hend : Sealed Method.header? ['\n'] := sealed_of_passed (Method.passed_header (by simp))
  have hsealed : Sealed Method.header? (s ++ ";\n".toList) :=
    Method.sealed_header (d := ';') (by decide) hend s
  have hpassed := hline.passed t
  rcases List.eq_nil_or_concat' (Method.ofText (s ++ ";\n".toList)) with hnone | ⟨ms, m, hms⟩
  · have hfront := Method.passed_of_ofText_eq_nil hsealed hnone
    rw [ofTextWith_of_passed (hfront _), ofTextWith_of_passed (hfront _),
      ofTextWith_of_passed hpassed]
  · -- The line is part of the span of the last method in front of it.
    obtain ⟨hsuffix, hjoined⟩ := Method.ofText_append_of_concat hsealed hms
    obtain ⟨u, hspan⟩ : ∃ u, m.span = u ++ ";\n".toList := by
      rcases List.suffix_or_suffix_of_suffix hsuffix (List.suffix_append s _) with hshort | ⟨u, hu⟩
      · have hmem : m ∈ Method.ofText (s ++ ";\n".toList) := by rw [hms]; simp
        obtain ⟨cs, hcs⟩ := Method.exists_span_eq hmem
        have hbrace : '{' ∈ ";\n".toList := hshort.subset (by simp [hcs])
        simp at hbrace
      · exact ⟨u, hu.symm⟩
    have hmethods : Method.ofText (line ++ t) = Method.ofText t :=
      Reader.all_of_passed (Method.passed_reader hpassed)
    rw [ofTextWith, ofTextWith, hjoined, hjoined, hmethods, Method.untilHeader_of_passed hpassed,
      List.flatMap_append, List.flatMap_append, List.flatMap_cons, List.flatMap_cons,
      ofMethodWith_insert hline hspan]

end Relationship

end RelationAtlas
