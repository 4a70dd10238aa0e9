import RelationAtlas.Proofs.Source.Identity
import RelationAtlas.Proofs.Source.ImportTables

/-!
# Imports, by the grammar of import statements

An `ImportClause` is an import as it is written: it begins at the start of a line, perhaps with blanks
that go on over line ends, and ends with the next semicolon.  What is imported by a finished statement
is what the first such clause in it says (`statementPath?_spec`).

The clauses of a file are found one behind the other: each is the first one behind the semicolon of
the one before it, so that a line that starts inside a clause starts no other one (`AreFoundFrom`).
Which clauses these are is settled by the file (`AreFoundFrom.unique`), and the import table is told by
what they import (`table_of_clauses`).
-/

namespace RelationAtlas

open Text

/-- An import as it is written: the blanks in front of the word that introduces it and those behind
it, and what is imported, perhaps with blanks around it, up to the first semicolon. -/
structure ImportClause where
  margin : Blanks
  gap : Gap
  body : Text
  ne_nil : body ≠ []
  semicolon_notMem : ';' ∉ body

namespace ImportClause

/-- The text of an import in front of its semicolon. -/
def front (d : ImportClause) : Text := d.margin.text ++ ("use".toList ++ (d.gap.text ++ d.body))

/-- The text of an import, its semicolon included. -/
def text (d : ImportClause) : Text := d.front ++ [';']

lemma semicolon_notMem_front (d : ImportClause) : ';' ∉ d.front := by
  have hblanks : ∀ s : Blanks, ';' ∉ s.text := fun s hmem =>
    absurd (s.isBlank _ hmem) (by decide)
  simp only [front, List.mem_append, not_or]
  exact ⟨hblanks _, by decide, hblanks _, d.semicolon_notMem⟩

end ImportClause

namespace Import

/-! ## Reading a clause -/

/-- A finished statement imports something at its front if it is the text of a clause. -/
lemma path?_eq_some_iff {s path : Text} (hs : ';' ∉ s) :
    path? s = some path ↔ ∃ d : ImportClause, s = d.front ∧ path = trim d.body := by
  constructor
  · intro h
    rw [path?] at h
    split at h
    · next b c cs hafter =>
      split at h
      · next hb =>
        obtain ⟨margin, hmargin⟩ := exists_blanks s
        rw [after?_eq_some_iff.mp hafter] at hmargin
        have hbody : ';' ∉ c :: cs := fun hmem => hs (by rw [hmargin]; simp [hmem])
        exact ⟨⟨margin, ⟨⟨[b], by simpa using hb⟩, by simp⟩, c :: cs, by simp, hbody⟩, hmargin,
          (Option.some.inj h).symm⟩
      · cases h
    · cases h
  · rintro ⟨d, rfl, rfl⟩
    obtain ⟨b, bs, hgap⟩ := List.exists_cons_of_ne_nil d.gap.ne_nil
    obtain ⟨c, cs, hbody⟩ : ∃ c cs, bs ++ d.body = c :: cs :=
      List.exists_cons_of_ne_nil (by simp [d.ne_nil])
    have hbs : ∀ a ∈ bs, isBlank a = true := fun a ha => d.gap.isBlank a (by simp [hgap, ha])
    have htrim : trim (bs ++ d.body) = trim d.body := Blanks.trim_append ⟨bs, hbs⟩ d.body
    rw [path?, ImportClause.front,
      d.margin.dropBlanks_append (isBlank_of_head_append rfl (by decide) _), after?_append, hgap,
      List.cons_append, hbody]
    dsimp only
    rw [if_pos (d.gap.isBlank b (by simp [hgap])), ← hbody, htrim]

/-! ## Places of clauses -/

/-- Does a line start behind this text? -/
def StartsLine (before : Text) : Prop := before = [] ∨ ['\n'] <:+ before

lemma startsLine_concat (before : Text) (c : Char) : StartsLine (before ++ [c]) ↔ c = '\n' := by
  have hsuffix : ['\n'] <:+ before ++ [c] ↔ c = '\n' := by
    rw [← List.reverse_prefix]
    simp [eq_comm]
  rw [StartsLine, hsuffix]
  simp

/-- There is an import at the place. -/
def IsImportAt (t : Text) (p : Reader.Place Text) : Prop :=
  ∃ (d : ImportClause) (before rest : Text), t = before ++ (d.text ++ rest) ∧
    StartsLine before ∧ p.Spans before d.text ∧ p.value = trim d.body

/-- An import takes up what stands in front of a semicolon, from some line start on. -/
lemma isImportAt_iff {t : Text} {p : Reader.Place Text} :
    IsImportAt t p ↔ ∃ before s rest, t = before ++ (s ++ ';' :: rest) ∧ ';' ∉ s ∧
      StartsLine before ∧ path? s = some p.value ∧ p.Spans before (s ++ [';']) := by
  constructor
  · rintro ⟨d, before, rest, rfl, hline, hspans, hvalue⟩
    refine ⟨before, d.front, rest, by simp [ImportClause.text], d.semicolon_notMem_front, hline, ?_,
      hspans⟩
    exact (path?_eq_some_iff d.semicolon_notMem_front).mpr ⟨d, rfl, hvalue⟩
  · rintro ⟨before, s, rest, rfl, hs, hline, hpath, hspans⟩
    obtain ⟨d, rfl, hvalue⟩ := (path?_eq_some_iff hs).mp hpath
    exact ⟨d, before, rest, by simp [ImportClause.text], hline, hspans, hvalue⟩

/-- An import behind a text takes up the statement there. -/
lemma IsImportAt.path?_eq {front s rest : Text} (hs : ';' ∉ s) {p : Reader.Place Text}
    (hp : IsImportAt (front ++ (s ++ ';' :: rest)) p) (hstart : p.start = front.length) :
    StartsLine front ∧ path? s = some p.value ∧ p.Spans front (s ++ [';']) := by
  obtain ⟨before, s', rest', htext, hs', hline, hpath, hspans⟩ := isImportAt_iff.mp hp
  obtain ⟨rfl, hbehind⟩ := List.append_inj htext (by rw [← hstart, hspans.1])
  have hpieces := congrArg (split ';') hbehind
  rw [split_append hs, split_append hs'] at hpieces
  obtain ⟨rfl, -⟩ := List.cons.inj hpieces
  exact ⟨hline, hpath, hspans⟩

/-- An import is determined by where it starts. -/
lemma IsImportAt.unique {t : Text} {p q : Reader.Place Text} (hp : IsImportAt t p)
    (hq : IsImportAt t q) (hstart : p.start = q.start) : p = q := by
  obtain ⟨before, s, rest, rfl, hs, -, hpath, hspans⟩ := isImportAt_iff.mp hq
  obtain ⟨-, hpath', hspans'⟩ := hp.path?_eq hs (hstart.trans hspans.1)
  obtain ⟨start, stop, value⟩ := p
  obtain ⟨start', stop', value'⟩ := q
  simp only [Reader.Place.Spans] at hspans hspans' hstart
  obtain rfl := Option.some.inj (hpath'.symm.trans hpath)
  rw [hspans.2, hspans'.2, hstart]

/-! ## Clauses one behind the other -/

/-- The places are those that are found from `pos` on: each is the first one behind the place before
it, and there is none behind the last one. -/
def AreFoundFrom (asked : Reader.Place Text → Prop) : Nat → List (Reader.Place Text) → Prop
  | pos, [] => ∀ p, asked p → p.start < pos
  | pos, p :: ps => Declaration.IsFirstFrom pos asked p ∧ AreFoundFrom asked p.stop ps

variable {asked : Reader.Place Text → Prop}

/-- What is found was asked for. -/
lemma AreFoundFrom.forall_mem {pos : Nat} {ps : List (Reader.Place Text)}
    (h : AreFoundFrom asked pos ps) : ∀ p ∈ ps, asked p := by
  induction ps generalizing pos with
  | nil => simp
  | cons p ps ih =>
    intro q hq
    rcases List.mem_cons.mp hq with rfl | hq
    · exact h.1.1
    · exact ih h.2 q hq

/-- What is found is settled, if a place is determined by where it starts. -/
lemma AreFoundFrom.unique (hasked : ∀ p q, asked p → asked q → p.start = q.start → p = q)
    {pos : Nat} {ps qs : List (Reader.Place Text)} (hp : AreFoundFrom asked pos ps)
    (hq : AreFoundFrom asked pos qs) : ps = qs := by
  induction ps generalizing pos qs with
  | nil =>
    cases qs with
    | nil => rfl
    | cons q qs => exact absurd hq.1 (Declaration.not_isFirstFrom_of_lt hp)
  | cons p ps ih =>
    cases qs with
    | nil => exact absurd hp.1 (Declaration.not_isFirstFrom_of_lt hq)
    | cons q qs =>
      obtain ⟨⟨hpasked, hppos, hpfirst⟩, hps⟩ := hp
      obtain ⟨⟨hqasked, hqpos, hqfirst⟩, hqs⟩ := hq
      have hstart := Nat.le_antisymm (hpfirst q hqasked hqpos) (hqfirst p hpasked hppos)
      obtain rfl := hasked p q hpasked hqasked hstart
      rw [ih hps hqs]

/-- Where nothing starts, the search may begin earlier. -/
lemma AreFoundFrom.of_none {pos pos' : Nat} {ps : List (Reader.Place Text)} (hle : pos ≤ pos')
    (hnone : ∀ p, asked p → pos ≤ p.start → pos' ≤ p.start) (h : AreFoundFrom asked pos' ps) :
    AreFoundFrom asked pos ps := by
  cases ps with
  | nil =>
    intro p hp
    have hlt := h p hp
    refine Nat.lt_of_not_le fun hpos => ?_
    have := hnone p hp hpos
    omega
  | cons p ps =>
    obtain ⟨⟨hasked, hpos, hfirst⟩, hps⟩ := h
    exact ⟨⟨hasked, Nat.le_trans hle hpos, fun q hq hqpos => hfirst q hq (hnone q hq hqpos)⟩, hps⟩

/-- A finished statement imports what the first clause in it says, and if it imports nothing then no
clause starts in it. -/
lemma statementPath?_spec {s : Text} (hs : ';' ∉ s) (front rest : Text) {lineStart : Bool}
    (hline : lineStart = true ↔ StartsLine front) :
    match statementPath? lineStart s with
    | none => ∀ p, IsImportAt (front ++ (s ++ ';' :: rest)) p → front.length ≤ p.start →
        (front ++ (s ++ [';'])).length ≤ p.start
    | some path => ∃ p, Declaration.IsFirstFrom front.length
        (IsImportAt (front ++ (s ++ ';' :: rest))) p ∧ p.value = path ∧
          p.stop = (front ++ (s ++ [';'])).length := by
  induction s generalizing front lineStart with
  | nil =>
    rw [statementPath?]
    intro p hp hpos
    have hne : p.start ≠ front.length := fun hstart => by
      have hpath := (hp.path?_eq hs hstart).2.1
      simp [path?, after?] at hpath
    simp only [List.length_append, List.nil_append, List.length_singleton]
    omega
  | cons c cs ih =>
    rw [statementPath?]
    cases hhere : (if lineStart then path? (c :: cs) else none) with
    | some path =>
      obtain ⟨hstart, hpath⟩ : lineStart = true ∧ path? (c :: cs) = some path := by
        simpa using hhere
      refine ⟨⟨front.length, (front ++ (c :: cs ++ [';'])).length, path⟩,
        ⟨isImportAt_iff.mpr ⟨front, c :: cs, rest, rfl, hs, hline.mp hstart, hpath, rfl,
          List.length_append⟩, Nat.le_refl _, fun q _ hq => hq⟩, rfl, rfl⟩
    | none =>
      -- No clause starts here, so the search goes on with one character more in front of it.
      have hlater : ∀ p, IsImportAt (front ++ (c :: cs ++ ';' :: rest)) p →
          p.start ≠ front.length := by
        intro p hp hstart
        obtain ⟨hfront, hpath, -⟩ := hp.path?_eq hs hstart
        rw [if_pos (hline.mpr hfront), hpath] at hhere
        cases hhere
      have hnext : decide (c = '\n') = true ↔ StartsLine (front ++ [c]) := by
        rw [startsLine_concat, decide_eq_true_iff]
      have hrest := ih (fun hmem => hs (List.mem_cons_of_mem c hmem)) (front ++ [c]) hnext
      simp only [List.append_assoc, List.singleton_append] at hrest
      have hlength : (front ++ [c]).length = front.length + 1 := List.length_append
      rw [hlength] at hrest
      dsimp only
      cases hsearch : statementPath? (decide (c = '\n')) cs with
      | none =>
        rw [hsearch] at hrest
        intro p hp hpos
        exact hrest p hp (Nat.lt_of_le_of_ne hpos (hlater p hp).symm)
      | some path =>
        rw [hsearch] at hrest
        obtain ⟨p, ⟨hp, hpos, hfirst⟩, hp'⟩ := hrest
        refine ⟨p, ⟨hp, by omega, fun q hq hle => ?_⟩, hp'⟩
        exact hfirst q hq (Nat.lt_of_le_of_ne hle (hlater q hq).symm)

/-- What a text imports is what the clauses in it say, one behind the other. -/
lemma exists_areFoundFrom (front t : Text) {lineStart : Bool}
    (hline : lineStart = true ↔ StartsLine front) :
    ∃ ps, AreFoundFrom (IsImportAt (front ++ t)) front.length ps ∧
      ps.map Reader.Place.value = pathsFrom lineStart t := by
  induction hn : t.length using Nat.strongRecOn generalizing front t lineStart with
  | _ n ih =>
    subst hn
    by_cases hmem : ';' ∈ t
    · obtain ⟨s, rest, rfl, hs⟩ := List.eq_append_cons_of_mem hmem
      -- No line starts right behind the semicolon at which the first statement ends.
      have hclosed : false = true ↔ StartsLine (front ++ (s ++ [';'])) := by
        rw [← List.append_assoc, startsLine_concat]
        simp
      obtain ⟨ps, hps, hvalues⟩ := ih rest.length (by simp; omega) (front ++ (s ++ [';'])) rest
        hclosed rfl
      have htext : front ++ (s ++ [';']) ++ rest = front ++ (s ++ ';' :: rest) := by simp
      rw [htext] at hps
      have hfirst := statementPath?_spec hs front rest hline
      rw [paths_statement hs]
      cases hpath : statementPath? lineStart s with
      | none =>
        rw [hpath] at hfirst
        exact ⟨ps, hps.of_none (by simp) hfirst, hvalues⟩
      | some path =>
        rw [hpath] at hfirst
        obtain ⟨p, hp, rfl, hstop⟩ := hfirst
        refine ⟨p :: ps, ⟨hp, by rwa [hstop]⟩, ?_⟩
        rw [List.map_cons, hvalues]
        rfl
    · refine ⟨[], fun p hp => ?_, (paths_unfinished hmem lineStart).symm⟩
      obtain ⟨before, s, rest, htext, -, -, -, hspans⟩ := isImportAt_iff.mp hp
      refine Nat.lt_of_not_le fun hle => hmem ?_
      obtain ⟨between, -, rfl⟩ := exists_append_of_length_le htext (by rwa [← hspans.1])
      simp

/-! ## The table -/

/-- The table of a list of paths is made of the pairs of their aliases and themselves, those without
an alias left out. -/
lemma foldl_add_eq_ofPairs (paths : List Text) : paths.foldl add [] =
    Assoc.ofPairs ((paths.filter fun path => Name.lastSegment path ≠ []).map fun path =>
      (Name.lastSegment path, path)) := by
  rw [Assoc.ofPairs, List.foldl_map, List.foldl_filter]
  congr 1
  funext table path
  rw [add_eq]
  by_cases h : Name.lastSegment path = [] <;> simp [h]

/-- A table is that of a list of imported texts. -/
structure IsTableOf (imported : List Text) (table : ImportTable) : Prop where
  nodup_keys : table.keys.Nodup
  alias_spelled : ∀ shortName ∈ table.keys,
    shortName ≠ [] ∧ Name.separator ∉ shortName ∧ ';' ∉ shortName
  path_spelled : ∀ shortName path, (shortName, path) ∈ table → ';' ∉ path ∧
    (∀ c ∈ path.head?, isBlank c = false) ∧ (∀ c ∈ path.getLast?, isBlank c = false) ∧
      Name.lastSegment path = shortName
  keys_eq : table.keys = ((imported.map Name.lastSegment).filter (· ≠ [])).eraseDups
  mem_iff : ∀ shortName path, (shortName, path) ∈ table ↔ IsLastWith imported shortName path

/-- The table of what clauses import. -/
lemma isTableOf_foldl_add {imported : List Text}
    (himported : ∀ path ∈ imported, ∃ d : ImportClause, path = trim d.body) :
    IsTableOf imported (imported.foldl add []) := by
  have hnodup := nodup_keys_ofPaths imported
  have hmem : ∀ shortName path, (shortName, path) ∈ imported.foldl add [] ↔
      IsLastWith imported shortName path := fun shortName path =>
    (Assoc.mem_iff_get? hnodup).trans get?_foldl_add_eq_some_iff
  have hsemicolon : ∀ path ∈ imported, ';' ∉ path := by
    intro path hpath hin
    obtain ⟨d, rfl⟩ := himported path hpath
    exact d.semicolon_notMem (mem_of_mem_trim hin)
  refine ⟨hnodup, fun shortName hkey => ?_, fun shortName path hentry => ?_, ?_, hmem⟩
  · obtain ⟨⟨_, path⟩, hentry, rfl⟩ := List.mem_map.mp hkey
    obtain ⟨hne, rfl, front, back, rfl, -⟩ := (hmem _ path).mp hentry
    refine ⟨hne, Name.separator_notMem_lastSegment path, fun hin => ?_⟩
    exact hsemicolon path (by simp) (Name.mem_of_mem_lastSegment hin)
  · obtain ⟨-, hsegment, front, back, rfl, -⟩ := (hmem shortName path).mp hentry
    obtain ⟨d, rfl⟩ := himported path (by simp)
    exact ⟨hsemicolon _ (by simp), isBlank_of_head_trim d.body, isBlank_of_getLast_trim d.body,
      hsegment⟩
  · rw [foldl_add_eq_ofPairs, Assoc.keys_ofPairs, List.map_map, List.filter_map]
    rfl

/-- The import table of a file.  The clauses of the file are found one behind the other, and the table
is that of what they import: of the texts of the clauses without the blanks around them, each is listed
by its last segment, at the place of the first one with that segment and with the text of the last
one. -/
theorem table_of_clauses (t : Text) : ∃ ps,
    (∀ qs, AreFoundFrom (IsImportAt t) 0 qs ↔ qs = ps) ∧
      IsTableOf (ps.map Reader.Place.value) (table t) := by
  have hline : true = true ↔ StartsLine [] := by simp [StartsLine]
  obtain ⟨ps, hps, hvalues⟩ := exists_areFoundFrom [] t hline
  refine ⟨ps, fun qs => ⟨fun hqs => ?_, fun hqs => hqs ▸ hps⟩, ?_⟩
  · exact hqs.unique (fun _ _ hp hq => hp.unique hq) hps
  · rw [table, paths_eq, ← hvalues]
    refine isTableOf_foldl_add fun path hpath => ?_
    obtain ⟨p, hp, rfl⟩ := List.mem_map.mp hpath
    obtain ⟨d, -, -, -, -, -, hvalue⟩ := hps.forall_mem p hp
    exact ⟨d, hvalue⟩

-- Blanks alone import nothing, and a line that starts inside an import starts no other one.
example : table "use Blog\\Post;\nuse  ;\n\n use Shop\\Cart,\nuse Tag;\nuse News\\Post;".toList =
    [("Post".toList, "News\\Post".toList),
      ("Cart,\nuse Tag".toList, "Shop\\Cart,\nuse Tag".toList)] := by
  decide +kernel

end Import

end RelationAtlas
