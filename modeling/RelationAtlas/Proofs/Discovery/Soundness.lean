import RelationAtlas.Proofs.Discovery.Matching
import RelationAtlas.Proofs.Discovery.Outcomes
import RelationAtlas.Proofs.Tree.AbsolutePaths
import RelationAtlas.Proofs.Tree.Listings

/-!
# What a search finds on any disk

On a disk with links a search may find a file in many ways.  Still, whatever it finds is covered by
one of the patterns, and below a directory it fails only because a pattern makes no sense or because
a path, a part of a pattern or a name that a link holds is too long (`yields_modelFiles`).  What is
found is a path in absolute form, so that everyone who follows it later comes to the same file
(`IsFound.isPathToFile`).

The expansion of a pattern is followed component by component (`FindsCovered`).
-/

namespace RelationAtlas.Search

open FileTree Pattern

variable {d : Disk} {base : Text} {excluded parts : List Text}

/-! ## Single looks -/

/-- The search is stopped because something is too long: a path, or one of the given parts of a
pattern, or a name that a link holds. -/
def IsLengthFault (d : Disk) (parts : List Text) (f : SearchFault) : Prop :=
  ∃ path, f = .blocked .nameTooLong path ∧
    (Path.pathLimit < Utf8.size path ∨ d.tree.MeetsLongName parts)

lemma IsLengthFault.of_subset {parts' : List Text} {f : SearchFault} (h : IsLengthFault d parts f)
    (hparts : ∀ c ∈ parts, c ∈ parts') : IsLengthFault d parts' f := by
  obtain ⟨path, hf, hpath | ⟨name, hlong, hmem | hlink⟩⟩ := h
  · exact ⟨path, hf, Or.inl hpath⟩
  · exact ⟨path, hf, Or.inr ⟨name, hlong, Or.inl (hparts name hmem)⟩⟩
  · exact ⟨path, hf, Or.inr ⟨name, hlong, Or.inr hlink⟩⟩

/-- A step that is too long for a name is a part of a pattern. -/
def HasLongParts (parts names : List Text) : Prop :=
  ∀ name ∈ names, Path.nameLimit < Utf8.size name → name ∈ parts

lemma hasLongParts_append {names more : List Text} (h : HasLongParts parts names)
    (hmore : HasLongParts parts more) : HasLongParts parts (names ++ more) := by
  intro name hname
  rcases List.mem_append.mp hname with hname | hname
  · exact h name hname
  · exact hmore name hname

/-- No name is too long. -/
lemma hasLongParts_of_isName {names : List Text} (h : ∀ name ∈ names, Path.IsName name) :
    HasLongParts parts names :=
  fun name hname hlong => absurd (h name hname).size_le (Nat.not_le.mpr hlong)

/-- What is too long on the way from the root is a part of a pattern or is held by a link. -/
lemma meetsLongName_of_hasLongParts (hbase : ∀ name ∈ Path.names base, Path.IsName name)
    {names : List Text} (hnames : HasLongParts parts names)
    (h : d.tree.MeetsLongName (Path.names base ++ names)) : d.tree.MeetsLongName parts := by
  obtain ⟨name, hlong, hmem | hlink⟩ := h
  · have hparts := hasLongParts_append (hasLongParts_of_isName hbase) hnames
    exact ⟨name, hlong, Or.inl (hparts name hmem hlong)⟩
  · exact ⟨name, hlong, Or.inr hlink⟩

/-- No step is a turn, and one that is too long for a name is a part of a pattern. -/
def GoesStraight (parts names : List Text) : Prop :=
  ∀ name ∈ names, ¬ IsTurn name ∧ (Path.nameLimit < Utf8.size name → name ∈ parts)

lemma GoesStraight.hasLongParts {names : List Text} (h : GoesStraight parts names) :
    HasLongParts parts names := fun name hname => (h name hname).2

lemma goesStraight_append {names more : List Text} (h : GoesStraight parts names)
    (hmore : GoesStraight parts more) : GoesStraight parts (names ++ more) := by
  intro name hname
  rcases List.mem_append.mp hname with hname | hname
  · exact h name hname
  · exact hmore name hname

lemma not_isTurn_of_isName {name : Text} (h : Path.IsName name) : ¬ IsTurn name := by
  rintro (hslash | hhere | hup)
  · exact h.ne_afterSlash hslash
  · exact h.ne_here hhere
  · exact h.ne_up hup

/-- Whoever passes by names goes straight. -/
lemma goesStraight_of_isName {names : List Text} (h : ∀ name ∈ names, Path.IsName name) :
    GoesStraight parts names := by
  intro name hname
  have hisName := h name hname
  exact ⟨not_isTurn_of_isName hisName, fun hlong => absurd hisName.size_le (Nat.not_le.mpr hlong)⟩

/-- Something is found at the given names below the base. -/
structure Shows (d : Disk) (base : Text) (names : List Text) (e : Entry) : Prop where
  size_le : Utf8.size (Path.below base names) ≤ Path.pathLimit
  reach : ∃ l, d.tree.reach [] (Path.names base ++ names) = .ok (l, e)

/-- Only one thing is found in one place. -/
lemma Shows.unique {names : List Text} {e e' : Entry} (h : Shows d base names e)
    (h' : Shows d base names e') : e = e' := by
  obtain ⟨l, hl⟩ := h.reach
  obtain ⟨l', hl'⟩ := h'.reach
  rw [hl] at hl'
  cases hl'
  rfl

/-- Looking at a place. -/
lemma yields_look (hbase : ∀ name ∈ Path.names base, Path.IsName name) {names : List Text}
    (hnames : HasLongParts parts names) :
    Yields (probe d base names) (fun found => ∀ e, found = some e → Shows d base names e)
      (IsLengthFault d parts) := by
  unfold probe
  split
  · rintro e ⟨⟩
  split
  · next hlong => exact ⟨_, rfl, Or.inl (by simpa [isTooLong] using hlong)⟩
  · next hlong =>
    have hsize : Utf8.size (Path.below base names) ≤ Path.pathLimit := by
      simpa [isTooLong] using hlong
    cases hreach : d.tree.reach [] (Path.names base ++ names) with
    | ok r =>
      rintro e ⟨⟩
      exact ⟨hsize, r.1, hreach⟩
    | error f =>
      rcases reach_fault hreach with habsent | ⟨rfl, hmeets⟩
      · simp [Yields, habsent]
      · exact ⟨_, rfl, Or.inr (meetsLongName_of_hasLongParts hbase hnames hmeets)⟩

/-- Whatever is listed in a directory has a name. -/
lemma yields_list (names : List Text) :
    Yields (listing d base names) (fun items => ∀ item ∈ items, Path.IsName item.1)
      (IsLengthFault d parts) := by
  unfold listing
  split
  · next hlong => exact ⟨_, rfl, Or.inl (by simpa [isTooLong] using hlong)⟩
  split
  · next l hreach =>
    rintro ⟨n, e⟩ hitem
    obtain ⟨n', hn', hget⟩ := List.mem_filterMap.mp hitem
    obtain ⟨e', -, heq⟩ := Option.map_eq_some_iff.mp hget
    cases heq
    exact d.tree.named l n (mem_namesIn.mp hn')
  · intro item hitem
    cases hitem

lemma yields_leadsToDirectory (hbase : ∀ name ∈ Path.names base, Path.IsName name)
    {names : List Text} (hnames : HasLongParts parts names) {item : Text × Entry}
    (hitem : Path.IsName item.1) :
    Yields (leadsToDirectory d base names item) (fun _ => True) (IsLengthFault d parts) := by
  obtain ⟨n, e⟩ := item
  cases e with
  | file bytes => trivial
  | directory => trivial
  | link target =>
    have hparts : HasLongParts parts (names ++ [n]) :=
      hasLongParts_append hnames (hasLongParts_of_isName (by simpa using hitem))
    have hlook : Yields (probe d base (names ++ [n])) _ _ := yields_look hbase hparts
    change Yields ((probe d base (names ++ [n])).map _) _ _
    cases hprobe : probe d base (names ++ [n]) with
    | ok found => trivial
    | error f =>
      rw [hprobe] at hlook
      exact hlook

lemma yields_lookAround (hbase : ∀ name ∈ Path.names base, Path.IsName name) {names : List Text}
    (hnames : HasLongParts parts names) :
    Yields (survey d base names) (fun _ => True) (IsLengthFault d parts) :=
  yields_survey_of_listing (yields_list names) fun _ => yields_leadsToDirectory hbase hnames

/-- The ways down from a directory lead by names. -/
lemma isName_of_mem_descents {names down : List Text} (h : down ∈ descents d base names) :
    ∀ name ∈ down, Path.IsName name := by
  unfold descents at h
  split at h
  · next l hreach =>
    obtain ⟨_, hdir⟩ := walk_of_reach hreach
    have hget := (mem_directoriesBelow hdir).mp h
    exact fun name hname => isName_of_mem (by rw [hget]; rfl) name (List.mem_append_right l hname)
  · obtain rfl := List.mem_singleton.mp h
    simp

/-! ## Files -/

/-- The names lead from the base to a file that is not below a directory with an excluded name. -/
structure LeadsToFile (d : Disk) (base : Text) (excluded names : List Text) : Prop where
  isName : ∀ name ∈ names, Path.IsName name
  file : ∃ bytes, Shows d base names (.file bytes)
  notExcluded : ∀ name ∈ names.dropLast, name ∉ excluded

/-- What is found below the base. -/
def IsFound (d : Disk) (base : Text) (excluded names : List Text) (x : Text) : Prop :=
  x = Path.below base names ∧ LeadsToFile d base excluded names

lemma yields_take (hbase : ∀ name ∈ Path.names base, Path.IsName name) {names : List Text}
    (hnames : GoesStraight parts names) :
    Yields (pickFile d base excluded names) (fun ys => ∀ x ∈ ys, IsFound d base excluded names x)
      (IsLengthFault d parts) := by
  refine (yields_look hbase hnames.hasLongParts).bind fun found hfound => ?_
  cases found with
  | none => rintro x ⟨⟩
  | some e =>
    cases e with
    | directory => rintro x ⟨⟩
    | link target => rintro x ⟨⟩
    | file bytes =>
      intro x hx
      have hshows := hfound _ rfl
      obtain ⟨l, hreach⟩ := hshows.reach
      have hisName := isName_of_walk (walk_of_reach hreach).1
      by_cases hexcluded : isExcluded excluded names = true
      · rw [if_pos hexcluded] at hx
        cases hx
      · rw [if_neg hexcluded] at hx
        refine ⟨List.mem_singleton.mp hx, ?_, ⟨bytes, hshows⟩, ?_⟩
        · intro name hname
          exact hisName name (List.mem_append_right _ hname) (hnames name hname).1
        · simpa [isExcluded] using hexcluded

/-! ## Patterns -/

/-- What a pattern finds from any names on is covered by the given components. -/
def FindsCovered (d : Disk) (base : Text) (excluded parts cs : List Text) (p : Pattern) : Prop :=
  ∀ names, GoesStraight parts names → Yields (expand d base (pickFile d base excluded) p names)
    (fun ys => ∀ x ∈ ys, ∃ down, Covers cs down ∧ IsFound d base excluded (names ++ down) x)
    (IsLengthFault d parts)

variable {cs : List Text} {p : Pattern}

lemma findsCovered_nil (hbase : ∀ name ∈ Path.names base, Path.IsName name) {tail : Pattern}
    (htail : tail = [] ∨ tail = [.self]) : FindsCovered d base excluded parts [] tail := by
  intro names hnames
  have htake : expand d base (pickFile d base excluded) tail names =
      pickFile d base excluded names := by
    rcases htail with rfl | rfl <;> rfl
  rw [htake]
  refine (yields_take hbase hnames).mono fun ys hys x hx => ⟨[], .nil, ?_⟩
  rw [List.append_nil]
  exact hys x hx

lemma FindsCovered.anyDepth (h : FindsCovered d base excluded parts cs p)
    (hbase : ∀ name ∈ Path.names base, Path.IsName name) :
    FindsCovered d base excluded parts (doubleStar :: cs) (.anyDepth :: p) := by
  intro names hnames
  rw [expand]
  refine yields_collect_forall fun front hfront => ?_
  have hstraight : GoesStraight parts (names ++ front) :=
    goesStraight_append hnames (goesStraight_of_isName (isName_of_mem_descents hfront))
  refine (h _ hstraight).bind fun taken htaken => ?_
  refine (yields_lookAround hbase hstraight.hasLongParts).bind fun _ _ x hx => ?_
  obtain ⟨down, hcovers, hfound⟩ := htaken x hx
  refine ⟨front ++ down, .anyDepth front hcovers, ?_⟩
  rwa [List.append_assoc] at hfound

/-- The search goes on by a name that a component describes, or it does not. -/
lemma FindsCovered.goOn (h : FindsCovered d base excluded parts cs p) {c : Text}
    (hstar : c ≠ doubleStar) {names : List Text} {name : Text}
    (hnames : GoesStraight parts (names ++ [name])) {goesOn : Bool}
    (hdescribes : goesOn = true → Describes c name) :
    Yields (if goesOn then expand d base (pickFile d base excluded) p (names ++ [name]) else .ok [])
      (fun ys => ∀ x ∈ ys, ∃ down, Covers (c :: cs) down ∧
        IsFound d base excluded (names ++ down) x) (IsLengthFault d parts) := by
  cases goesOn with
  | false =>
    intro x hx
    cases hx
  | true =>
    refine (h _ hnames).mono fun ys hys x hx => ?_
    obtain ⟨down, hcovers, hfound⟩ := hys x hx
    refine ⟨name :: down, .one hstar (hdescribes rfl) hcovers, ?_⟩
    rwa [List.append_assoc, List.singleton_append] at hfound

lemma FindsCovered.wild (h : FindsCovered d base excluded parts cs p)
    (hbase : ∀ name ∈ Path.names base, Path.IsName name) {c : Text} (hstar : c ≠ doubleStar)
    (hspecial : c.any isSpecial = true) :
    FindsCovered d base excluded parts (c :: cs) (.wild (Wildcard.pieces c) :: p) := by
  intro names hnames
  rw [expand]
  refine (yields_list names).bind fun items hitems => ?_
  refine yields_collect_forall fun item hitem => ?_
  have hisName : Path.IsName item.1 := hitems item hitem
  have hstraight : GoesStraight parts (names ++ [item.1]) :=
    goesStraight_append hnames (goesStraight_of_isName (by simpa using hisName))
  have hdescribes : ∀ goesOn : Bool,
      (goesOn && Wildcard.describes (Wildcard.pieces c) item.1) = true → Describes c item.1 := by
    intro goesOn hboth
    rw [Describes, if_pos hspecial]
    exact (Bool.and_eq_true _ _ ▸ hboth).2
  refine yields_ite (h.goOn hstar hstraight (hdescribes true)) ?_
  refine (yields_leadsToDirectory hbase hnames.hasLongParts hisName).bind fun goesOn _ => ?_
  exact h.goOn hstar hstraight (hdescribes goesOn)

lemma FindsCovered.name (h : FindsCovered d base excluded parts cs p)
    (hbase : ∀ name ∈ Path.names base, Path.IsName name) {c : Text} (hstar : c ≠ doubleStar)
    (hplain : c.any isSpecial = false) (hpart : GoesStraight parts [c]) :
    FindsCovered d base excluded parts (c :: cs) (.name c :: p) := by
  intro names hnames
  have hdescribes : Describes c c := by
    rw [Describes, if_neg (by simp [hplain])]
  have hstraight : GoesStraight parts (names ++ [c]) := goesStraight_append hnames hpart
  rw [expand]
  exact (yields_look hbase hstraight.hasLongParts).bind fun found _ =>
    h.goOn hstar hstraight fun _ => hdescribes

/-- What the components of a pattern find is covered by them. -/
lemma findsCovered_of_goesStraight (hbase : ∀ name ∈ Path.names base, Path.IsName name)
    {tail : Pattern} (htail : tail = [] ∨ tail = [.self]) (hcs : GoesStraight parts cs) :
    FindsCovered d base excluded parts cs (cs.map meaning ++ tail) := by
  induction cs with
  | nil => exact findsCovered_nil hbase htail
  | cons c cs ih =>
    have hrest := ih fun b hb => hcs b (by simp [hb])
    rw [List.map_cons, List.cons_append]
    by_cases hstar : c = doubleStar
    · subst hstar
      exact hrest.anyDepth hbase
    · cases hspecial : c.any isSpecial with
      | true =>
        rw [meaning, if_neg hstar, if_pos hspecial]
        exact hrest.wild hbase hstar hspecial
      | false =>
        have hpart : GoesStraight parts [c] := by
          intro name hname
          obtain rfl := List.mem_singleton.mp hname
          exact hcs name (by simp)
        rw [meaning, if_neg hstar, if_neg (by simp [hspecial])]
        exact hrest.name hbase hstar hspecial hpart

/-- A pattern that is read is made of its components, and of a last one for a final slash. -/
lemma ofText_eq_components {pattern : Text} {p : Pattern} (h : ofText pattern = .ok p) :
    ∃ tail, (tail = [] ∨ tail = [.self]) ∧ p = (components pattern).map meaning ++ tail := by
  unfold ofText at h
  split at h
  · cases h
  split at h
  · cases h
  rw [← components] at h
  cases hmap : (components pattern).mapM component with
  | error f =>
    rw [hmap] at h
    cases h
  | ok cs =>
    obtain rfl := eq_map_of_mapM hmap
    rw [hmap] at h
    simp only [bind, Except.bind] at h
    split at h
    · split at h
      · cases h
      · cases h
        exact ⟨[.self], Or.inr rfl, rfl⟩
    · split at h
      · cases h
      · cases h
        exact ⟨[], Or.inl rfl, by simp⟩

/-- The components of a pattern that does not go up are no turns. -/
lemma goesStraight_components {pattern : Text} (h : Path.up ∉ Path.names pattern)
    (hparts : ∀ c ∈ components pattern, c ∈ parts) : GoesStraight parts (components pattern) := by
  intro c hc
  obtain ⟨hname, hhere⟩ := List.mem_filter.mp hc
  refine ⟨?_, fun _ => hparts c hc⟩
  rintro (hslash | rfl | rfl)
  · exact Path.ne_nil_of_mem_names hname hslash
  · simp at hhere
  · exact h hname

/-- What a pattern finds is covered by its components and is not the base itself. -/
lemma yields_files (hbase : ∀ name ∈ Path.names base, Path.IsName name) {pattern : Text}
    (hup : Path.up ∉ Path.names pattern) (hparts : ∀ c ∈ components pattern, c ∈ parts) :
    Yields (filesOf d base excluded pattern)
      (fun ys => ∀ x ∈ ys, ∃ names, names ≠ [] ∧ Covers (components pattern) names ∧
        IsFound d base excluded names x)
      (fun f => IsLengthFault d parts f ∨ ∃ g, ofText pattern = .error g ∧ f = .badPattern g) := by
  unfold filesOf
  cases htext : ofText pattern with
  | error g => exact Or.inr ⟨g, rfl, rfl⟩
  | ok p =>
    obtain ⟨tail, htail, rfl⟩ := ofText_eq_components htext
    have hstraight : GoesStraight parts [] := fun _ h => absurd h (by simp)
    have hexpand : Yields (do
        if (← probe d base []) ≠ some .directory then .ok []
        else expand d base (pickFile d base excluded) ((components pattern).map meaning ++ tail) [])
        (fun ys => ∀ x ∈ ys, ∃ names, names ≠ [] ∧ Covers (components pattern) names ∧
          IsFound d base excluded names x) (IsLengthFault d parts) := by
      refine (yields_look hbase hstraight.hasLongParts).bind fun found hfound => ?_
      split
      · intro x hx
        cases hx
      · next hdir =>
        have hshows : Shows d base [] .directory := hfound _ (by simpa using hdir)
        have hcovered : FindsCovered d base excluded parts (components pattern) _ :=
          findsCovered_of_goesStraight hbase htail (goesStraight_components hup hparts)
        refine (hcovered [] hstraight).mono ?_
        intro ys hys x hx
        obtain ⟨down, hcovers, hx, hleads⟩ := hys x hx
        rw [List.nil_append] at hx hleads
        refine ⟨down, ?_, hcovers, hx, hleads⟩
        rintro rfl
        obtain ⟨bytes, hfile⟩ := hleads.file
        cases hshows.unique hfile
    exact hexpand.mono_fault fun f => Or.inl

/-! ## The search as a whole -/

/-- The absolute form of the path of a directory leads by names. -/
lemma isName_of_mem_names_absolute {root : Text} (hroot : d.isDirectory root = true) :
    ∀ name ∈ Path.names (d.absolute root), Path.IsName name := by
  have hlocate := Disk.isName_of_mem_locate hroot
  have hnames : Path.names (d.absolute root) = Path.locate d.cwd root :=
    Path.names_render (Path.isRootText_rootText root) hlocate
  rw [hnames]
  exact hlocate

/-- What a search below a directory finds, and how it may fail. -/
lemma yields_modelFiles {root : Text} (hroot : d.isDirectory root = true) {patterns : List Text}
    (hup : ∀ pattern ∈ patterns, Path.up ∉ Path.names pattern) (excluded : List Text) :
    Yields (modelFiles d root patterns excluded)
      (fun found => ∀ x ∈ found, ∃ pattern ∈ patterns, ∃ names, names ≠ [] ∧
        Covers (components pattern) names ∧ IsFound d (d.absolute root) excluded names x)
      (fun f => IsLengthFault d (patterns.flatMap components) f ∨
        ∃ pattern ∈ patterns, ∃ g, ofText pattern = .error g ∧ f = .badPattern g) := by
  have hcollect : Yields (collect patterns (filesOf d (d.absolute root) excluded))
      (fun ys => ∀ x ∈ ys, ∃ pattern ∈ patterns, ∃ names, names ≠ [] ∧
        Covers (components pattern) names ∧ IsFound d (d.absolute root) excluded names x)
      (fun f => IsLengthFault d (patterns.flatMap components) f ∨
        ∃ pattern ∈ patterns, ∃ g, ofText pattern = .error g ∧ f = .badPattern g) := by
    refine yields_collect_forall fun pattern hmem => ?_
    have hparts : ∀ c ∈ components pattern, c ∈ patterns.flatMap components :=
      fun c hc => List.mem_flatMap.mpr ⟨pattern, hmem, hc⟩
    have hfiles : Yields (filesOf d (d.absolute root) excluded pattern) _ _ :=
      yields_files (isName_of_mem_names_absolute hroot) (hup pattern hmem) hparts
    refine (hfiles.mono fun ys hys x hx => ?_).mono_fault ?_
    · exact ⟨pattern, hmem, hys x hx⟩
    · rintro f (hlong | ⟨g, hg, rfl⟩)
      · exact Or.inl hlong
      · exact Or.inr ⟨pattern, hmem, g, hg, rfl⟩
  rw [modelFiles, if_pos hroot]
  cases hresult : collect patterns (filesOf d (d.absolute root) excluded) with
  | error f =>
    rw [hresult] at hcollect
    exact hcollect
  | ok ys =>
    rw [hresult] at hcollect
    intro x hx
    exact hcollect x (Text.mem_sorted.mp hx)

/-- A path in absolute form that leads to a file. -/
structure IsPathToFile (d : Disk) (x : Text) : Prop where
  absolute_eq : d.absolute x = x
  noNul : Disk.hasNul x = false
  reach : ∃ l bytes, d.reach x = .ok (l, .file bytes)

/-- What is found below a directory is a path in absolute form that leads to a file. -/
lemma IsFound.isPathToFile {root : Text} (hroot : d.isDirectory root = true) {names : List Text}
    (hnames : names ≠ []) {x : Text} (h : IsFound d (d.absolute root) excluded names x) :
    IsPathToFile d x := by
  obtain ⟨rfl, hleads⟩ := h
  have hlocate := Disk.isName_of_mem_locate hroot
  have htext : Path.IsRootText (Path.rootText root) := Path.isRootText_rootText root
  have hall : ∀ name ∈ Path.locate d.cwd root ++ names, Path.IsName name := by
    intro name hname
    rcases List.mem_append.mp hname with hname | hname
    · exact hlocate name hname
    · exact hleads.isName name hname
  have hbelow : Path.below (d.absolute root) names =
      Path.render (Path.rootText root) (Path.locate d.cwd root ++ names) :=
    Path.below_render htext hlocate hnames
  obtain ⟨bytes, hsize, l, hreach⟩ := hleads.file
  have hbase : Path.names (d.absolute root) = Path.locate d.cwd root :=
    Path.names_render htext hlocate
  rw [hbase] at hreach
  rw [hbelow] at hsize ⊢
  have hnul : Disk.hasNul
      (Path.render (Path.rootText root) (Path.locate d.cwd root ++ names)) = false :=
    Disk.hasNul_render htext fun n hn => (hall n hn).nul_notMem
  refine ⟨Path.absolute_render htext d.cwd hall, hnul, l, bytes, ?_⟩
  rw [Disk.reach_render htext (by simp [hnames]) hall, if_neg (Nat.not_lt.mpr hsize), hreach]

end RelationAtlas.Search
