import RelationAtlas.Proofs.Discovery.Steps

/-!
# Exactness of the search for model files

On a disk without links, the search for model files finds exactly the files whose path is covered by
one of the patterns and has no excluded name in front of its last one (`modelFiles_exact`).  A pattern
that ends with a double star finds nothing, because what a double star stands for are directories.

A pattern is expanded component by component, and so is the description of what it finds: the two
equations `finds_doubleStar_iff` and `finds_cons_iff` are those of the expansion.
-/

namespace RelationAtlas.Search

open FileTree Pattern

variable {d : Disk} {base : Text} {l : Location} {excluded : List Text}

/-! ## What components find -/

/-- The path of a file below the given names that the components lead to.  The last of them is no
double star. -/
def Finds (d : Disk) (base : Text) (l : Location) (excluded cs names : List Text) (x : Text) :
    Prop :=
  cs.getLast? ≠ some doubleStar ∧
    ∃ down, Covers cs down ∧ IsTaken d base l excluded (names ++ down) x

/-- What is in front of the names that components cover is a directory, unless the last of them is a
double star. -/
lemma directory_of_covers {cs names down : List Text} (hcs : cs ≠ [])
    (hlast : cs.getLast? ≠ some doubleStar) (hcovers : Covers cs down)
    (h : (d.tree.get? (l ++ (names ++ down))).isSome) :
    d.tree.get? (l ++ names) = some .directory := by
  refine directory_of_append (m := down) (by rwa [List.append_assoc]) ?_
  rintro rfl
  exact hlast (hcovers.getLast?_of_nil hcs)

lemma finds_nil_iff {names : List Text} {x : Text} :
    Finds d base l excluded [] names x ↔ IsTaken d base l excluded names x := by
  simp [Finds, covers_nil_iff]

/-- A double star finds what the other components find below the directories it stands for. -/
lemma finds_doubleStar_iff {cs names : List Text} {x : Text} :
    Finds d base l excluded (doubleStar :: cs) names x ↔
      ∃ down, d.tree.get? (l ++ (names ++ down)) = some .directory ∧
        Finds d base l excluded cs (names ++ down) x := by
  constructor
  · rintro ⟨hlast, down, hcovers, htaken⟩
    obtain ⟨front, rest, rfl, hrest⟩ := covers_doubleStar_iff.mp hcovers
    cases cs with
    | nil => exact absurd rfl hlast
    | cons c cs =>
      rw [List.getLast?_cons_cons] at hlast
      rw [← List.append_assoc] at htaken
      obtain ⟨bytes, hfile⟩ := htaken.2.1
      have hdir := directory_of_covers (by simp) hlast hrest (by rw [hfile]; rfl)
      exact ⟨front, hdir, hlast, rest, hrest, htaken⟩
  · rintro ⟨front, hdir, hlast, rest, hrest, htaken⟩
    cases cs with
    | nil =>
      obtain rfl := covers_nil_iff.mp hrest
      obtain ⟨bytes, hfile⟩ := htaken.2.1
      rw [List.append_nil, hdir] at hfile
      cases hfile
    | cons c cs =>
      refine ⟨by rwa [List.getLast?_cons_cons], front ++ rest, .anyDepth front hrest, ?_⟩
      rwa [← List.append_assoc]

/-- Each other component finds what the components behind it find below what it describes. -/
lemma finds_cons_iff {c : Text} (hc : c ≠ doubleStar) {cs names : List Text} {x : Text} :
    Finds d base l excluded (c :: cs) names x ↔
      ∃ name e, d.tree.get? (l ++ (names ++ [name])) = some e ∧ (cs ≠ [] → e = .directory) ∧
        Describes c name ∧ Finds d base l excluded cs (names ++ [name]) x := by
  constructor
  · rintro ⟨hlast, down, hcovers, htaken⟩
    obtain ⟨name, rest, rfl, hname, hrest⟩ := (covers_cons_iff hc).mp hcovers
    have happ : names ++ name :: rest = (names ++ [name]) ++ rest := by simp
    rw [happ] at htaken
    obtain ⟨bytes, hfile⟩ := htaken.2.1
    cases cs with
    | nil =>
      obtain rfl := covers_nil_iff.mp hrest
      rw [List.append_nil] at hfile
      exact ⟨name, .file bytes, hfile, fun h => absurd rfl h, hname, by simp, [], hrest, htaken⟩
    | cons b cs =>
      rw [List.getLast?_cons_cons] at hlast
      have hdir := directory_of_covers (by simp) hlast hrest (by rw [hfile]; rfl)
      exact ⟨name, .directory, hdir, fun _ => rfl, hname, hlast, rest, hrest, htaken⟩
  · rintro ⟨name, e, -, -, hname, hlast, rest, hrest, htaken⟩
    refine ⟨?_, name :: rest, .one hc hname hrest, by simpa using htaken⟩
    cases cs with
    | nil => simpa using hc
    | cons b cs => rwa [List.getLast?_cons_cons]

/-! ## Expanding a pattern -/

/-- A component of an ordinary pattern: a text that neither is empty nor stands for a directory by
itself. -/
structure IsComponent (c : Text) : Prop where
  ne_afterSlash : c ≠ Path.afterSlash
  ne_here : c ≠ Path.here
  ne_up : c ≠ Path.up

/-- Components that are expanded anywhere below the base find what they describe. -/
def ExpandsWell (d : Disk) (base : Text) (l : Location) (excluded all cs : List Text) : Prop :=
  ∀ names e, d.tree.get? (l ++ names) = some e → (cs ≠ [] → e = .directory) →
    Yields (expand d base (pickFile d base excluded) (cs.map meaning) names)
      (fun ys => ∀ x, x ∈ ys ↔ Finds d base l excluded cs names x)
      (ReportsTooLong d base l all)

variable {all cs : List Text}

lemma expandsWell_nil (hd : Ground d base l) : ExpandsWell d base l excluded all [] := by
  intro names e he _
  exact (yields_pickFile hd he excluded).mono fun ys hys x => (hys x).trans finds_nil_iff.symm

lemma expandsWell_doubleStar (hd : Ground d base l)
    (hcs : ExpandsWell d base l excluded all cs) :
    ExpandsWell d base l excluded all (doubleStar :: cs) := by
  intro names e he hdir
  obtain rfl := hdir (by simp)
  have hmeaning : meaning doubleStar = .anyDepth := rfl
  rw [List.map_cons, hmeaning, expand]
  -- What is found below a directory is taken before the directory is looked through.
  have hdown : ∀ down ∈ descents d base names, Yields (do
      let taken ← expand d base (pickFile d base excluded) (cs.map meaning) (names ++ down)
      survey d base (names ++ down)
      return taken)
      (fun ys => ∀ x, x ∈ ys ↔ Finds d base l excluded cs (names ++ down) x)
      (ReportsTooLong d base l all) := by
    intro down hmem
    have hdir := (mem_descents hd he).mp hmem
    refine (hcs _ _ hdir fun _ => rfl).bind fun taken htaken => ?_
    exact (yields_survey hd hdir).bind fun _ _ => htaken
  refine (yields_collect _ hdown).mono fun ys hys x => ?_
  rw [hys, finds_doubleStar_iff]
  simp only [mem_descents hd he]

/-- The search goes on from what is there, and in front of further components from a directory. -/
lemma goesOn_iff (o : Option Entry) :
    (if decide (cs = []) then o.isSome else decide (o = some .directory)) = true ↔
      ∃ e, o = some e ∧ (cs ≠ [] → e = .directory) := by
  by_cases hcs : cs = []
  · simp [hcs, Option.isSome_iff_exists]
  · cases o <;> simp [hcs]

lemma isEmpty_map_meaning (cs : List Text) : (cs.map meaning).isEmpty = decide (cs = []) := by
  cases cs <;> rfl

lemma expandsWell_name (hd : Ground d base l) {c : Text} (hmem : c ∈ all) (hc : IsComponent c)
    (hstar : c ≠ doubleStar) (hplain : c.any isSpecial = false)
    (hcs : ExpandsWell d base l excluded all cs) :
    ExpandsWell d base l excluded all (c :: cs) := by
  intro names e he hdir
  obtain rfl := hdir (by simp)
  have hmeaning : meaning c = .name c := by
    simp [meaning, hstar, hplain]
  have hdescribes : ∀ name, Describes c name ↔ name = c := by
    simp [Describes, hplain]
  rw [List.map_cons, hmeaning, expand, isEmpty_map_meaning]
  refine (yields_probe_component hd hmem he hc.ne_afterSlash hc.ne_here hc.ne_up).bind ?_
  rintro _ rfl
  by_cases hgoes : ∃ e, d.tree.get? (l ++ (names ++ [c])) = some e ∧ (cs ≠ [] → e = .directory)
  · obtain ⟨e, hget, hdir⟩ := hgoes
    rw [if_pos ((goesOn_iff _).mpr ⟨e, hget, hdir⟩)]
    refine (hcs _ _ hget hdir).mono fun ys hys => ?_
    intro x
    rw [hys, finds_cons_iff hstar]
    constructor
    · intro hfinds
      exact ⟨c, e, hget, hdir, (hdescribes c).mpr rfl, hfinds⟩
    · rintro ⟨name, _, -, -, hname, hfinds⟩
      rwa [← (hdescribes name).mp hname]
  · rw [if_neg fun h => hgoes ((goesOn_iff _).mp h)]
    intro x
    refine ⟨fun hx => absurd hx (by simp), fun hx => ?_⟩
    obtain ⟨name, e, hget, hlast, hname, -⟩ := (finds_cons_iff hstar).mp hx
    obtain rfl := (hdescribes name).mp hname
    exact absurd ⟨e, hget, hlast⟩ hgoes

/-- A listed name is gone on from, if it is described and need not or does lead to a directory. -/
lemma yields_tried (hcs : ExpandsWell d base l excluded all cs) {c : Text} {names : List Text}
    {item : Text × Entry} (hget : d.tree.get? (l ++ (names ++ [item.1])) = some item.2)
    {tried : Bool} (htried : tried = true ↔ (cs ≠ [] → item.2 = .directory) ∧ Describes c item.1) :
    Yields (if tried then
        expand d base (pickFile d base excluded) (cs.map meaning) (names ++ [item.1])
      else .ok [])
      (fun ys => ∀ x, x ∈ ys ↔ (cs ≠ [] → item.2 = .directory) ∧ Describes c item.1 ∧
        Finds d base l excluded cs (names ++ [item.1]) x)
      (ReportsTooLong d base l all) := by
  by_cases hboth : (cs ≠ [] → item.2 = .directory) ∧ Describes c item.1
  · rw [if_pos (htried.mpr hboth)]
    refine (hcs _ _ hget hboth.1).mono fun ys hys => ?_
    intro x
    rw [hys]
    exact ⟨fun hfinds => ⟨hboth.1, hboth.2, hfinds⟩, fun hand => hand.2.2⟩
  · rw [if_neg fun h => hboth (htried.mp h)]
    intro x
    exact ⟨fun hx => absurd hx (by simp), fun hand => absurd ⟨hand.1, hand.2.1⟩ hboth⟩

lemma expandsWell_wild (hd : Ground d base l) {c : Text} (hstar : c ≠ doubleStar)
    (hspecial : c.any isSpecial = true) (hcs : ExpandsWell d base l excluded all cs) :
    ExpandsWell d base l excluded all (c :: cs) := by
  intro names e he hdir
  obtain rfl := hdir (by simp)
  have hmeaning : meaning c = .wild (Wildcard.pieces c) := by
    simp [meaning, hstar, hspecial]
  have hdescribes : ∀ name, Describes c name ↔
      Wildcard.describes (Wildcard.pieces c) name = true := by
    simp [Describes, hspecial]
  rw [List.map_cons, hmeaning, expand, isEmpty_map_meaning]
  refine (yields_listing hd he).bind fun items hitems => ?_
  refine (yields_collect (fun item x => (cs ≠ [] → item.2 = .directory) ∧
    Describes c item.1 ∧ Finds d base l excluded cs (names ++ [item.1]) x) ?_).mono ?_
  · intro item hitem
    have hget := (hitems item).mp hitem
    by_cases hnil : cs = []
    · rw [if_pos (decide_eq_true hnil)]
      exact yields_tried hcs hget (by simp [hnil, hdescribes])
    · rw [if_neg (by simpa using hnil), leadsToDirectory_eq hd hget]
      exact yields_tried hcs hget (by simp [hnil, hdescribes])
  · intro ys hys x
    rw [hys, finds_cons_iff hstar]
    constructor
    · rintro ⟨⟨name, e⟩, hitem, hrest⟩
      exact ⟨name, e, (hitems _).mp hitem, hrest⟩
    · rintro ⟨name, e, hget, hrest⟩
      exact ⟨(name, e), (hitems _).mpr hget, hrest⟩

/-- The components of an ordinary pattern find what they describe. -/
lemma expandsWell_of_forall (hd : Ground d base l) (h : ∀ c ∈ cs, c ∈ all ∧ IsComponent c) :
    ExpandsWell d base l excluded all cs := by
  induction cs with
  | nil => exact expandsWell_nil hd
  | cons c cs ih =>
    have hcs := ih fun b hb => h b (by simp [hb])
    obtain ⟨hmem, hc⟩ := h c (by simp)
    by_cases hstar : c = doubleStar
    · rw [hstar]
      exact expandsWell_doubleStar hd hcs
    · cases hspecial : c.any isSpecial with
      | true => exact expandsWell_wild hd hstar hspecial hcs
      | false => exact expandsWell_name hd hmem hc hstar hspecial hcs

/-! ## The search as a whole -/

/-- The components of an ordinary pattern can be looked for. -/
lemma isComponent_of_mem {pattern c : Text} (h : IsOrdinary pattern) (hc : c ∈ components pattern) :
    IsComponent c := by
  obtain ⟨hname, hhere⟩ := List.mem_filter.mp hc
  refine ⟨Path.ne_nil_of_mem_names hname, by simpa using hhere, ?_⟩
  rintro rfl
  exact h.up_notMem hc

/-- The files of an ordinary pattern are those that its components find. -/
lemma yields_filesOf (hd : Ground d base l) {pattern : Text} (h : IsOrdinary pattern)
    (hall : ∀ c ∈ components pattern, c ∈ all) :
    Yields (filesOf d base excluded pattern)
      (fun ys => ∀ x, x ∈ ys ↔ Finds d base l excluded (components pattern) [] x)
      (ReportsTooLong d base l all) := by
  have hbase : d.tree.get? (l ++ []) = some .directory := by
    rw [List.append_nil]
    exact hd.directory
  have hexpands : ExpandsWell d base l excluded all (components pattern) :=
    expandsWell_of_forall hd fun c hc => ⟨hall c hc, isComponent_of_mem h hc⟩
  rw [filesOf, ofText_eq h]
  refine (yields_probe hd hbase).bind ?_
  rintro _ rfl
  rw [if_neg (by simp)]
  exact hexpands [] .directory hbase fun _ => rfl

/-- The search for model files on a disk without links, by ordinary patterns.  Its result is strictly
increasing and holds exactly the paths of the files that are covered by a pattern whose last component
is no double star and that have no excluded name in front of their last one.  The search fails only
where a path or a name is too long. -/
theorem modelFiles_exact {d : Disk} (hlinks : d.tree.HasNoLinks) {root : Text}
    (hroot : d.isDirectory root = true) {patterns : List Text}
    (hpatterns : ∀ pattern ∈ patterns, IsOrdinary pattern) (excluded : List Text) :
    (∀ found, modelFiles d root patterns excluded = .ok found →
      found.Pairwise (· < ·) ∧ ∀ x, x ∈ found ↔
        ∃ names, x = Path.below (d.absolute root) names ∧
          (∃ bytes, d.tree.get? (Path.locate d.cwd root ++ names) = some (.file bytes)) ∧
          (∀ name ∈ names.dropLast, name ∉ excluded) ∧
          ∃ pattern ∈ patterns, Covers (components pattern) names ∧
            (components pattern).getLast? ≠ some doubleStar) ∧
    (∀ f, modelFiles d root patterns excluded = .error f →
      ∃ names, f = .blocked .nameTooLong (Path.below (d.absolute root) names) ∧
        (Path.pathLimit < Utf8.size (Path.below (d.absolute root) names) ∨
          ∃ name ∈ names.getLast?, Path.nameLimit < Utf8.size name) ∧
        ((d.tree.get? (Path.locate d.cwd root ++ names)).isSome ∨
          ∃ c ∈ patterns.flatMap components, names.getLast? = some c ∧
            d.tree.get? (Path.locate d.cwd root ++ names.dropLast) = some .directory)) := by
  have hd : Ground d (d.absolute root) (Path.locate d.cwd root) :=
    ⟨hlinks, Disk.names_absolute hlinks hroot, Disk.get?_locate_of_isDirectory hlinks hroot⟩
  have hcollect := yields_collect
    (fun pattern x => Finds d (d.absolute root) (Path.locate d.cwd root) excluded
      (components pattern) [] x) fun pattern hmem => yields_filesOf hd (hpatterns pattern hmem)
        fun c hc => List.mem_flatMap.mpr ⟨pattern, hmem, hc⟩
  rw [modelFiles, if_pos hroot]
  cases hresult : collect patterns (filesOf d (d.absolute root) excluded) with
  | error f =>
    rw [hresult] at hcollect
    refine ⟨fun found hfound => (by cases hfound), fun g hg => ?_⟩
    cases hg
    exact hcollect
  | ok ys =>
    rw [hresult] at hcollect
    refine ⟨fun found hfound => ?_, fun g hg => (by cases hg)⟩
    cases hfound
    refine ⟨Text.pairwise_sorted ys, fun x => ?_⟩
    rw [Text.mem_sorted, hcollect x]
    constructor
    · rintro ⟨pattern, hmem, hlast, names, hcovers, hx, hfile, hexcluded⟩
      exact ⟨names, hx, hfile, hexcluded, pattern, hmem, hcovers, hlast⟩
    · rintro ⟨names, hx, hfile, hexcluded, pattern, hmem, hcovers, hlast⟩
      exact ⟨pattern, hmem, hlast, names, hcovers, hx, hfile, hexcluded⟩

/-- A tree with two files, one of them in a directory. -/
def smallTree : FileTree :=
  ((FileTree.empty.put ["m.php".toList] (.file []) (by decide +kernel)).put
    ["a".toList] .directory (by decide +kernel)).put
      ["a".toList, "m.php".toList] (.file []) (by decide +kernel)

lemma hasNoLinks_smallTree : smallTree.HasNoLinks := by
  unfold smallTree
  exact ((hasNoLinks_empty.put (by simp)).put (by simp)).put (by simp)

/-- A double star in front finds the files at every depth. -/
theorem modelFiles_smallTree :
    (smallTree.HasNoLinks ∧ Disk.isDirectory ⟨smallTree, [], false⟩ "/".toList = true ∧
      ∀ pattern ∈ ["**/m.php".toList], IsOrdinary pattern) ∧
    modelFiles ⟨smallTree, [], false⟩ "/".toList ["**/m.php".toList] [] =
      .ok ["/a/m.php".toList, "/m.php".toList] ∧
    ∀ x, x ∈ ["/a/m.php".toList, "/m.php".toList] ↔
      ∃ names, x = Path.below (Disk.absolute ⟨smallTree, [], false⟩ "/".toList) names ∧
        (∃ bytes, smallTree.get? (Path.locate [] "/".toList ++ names) = some (.file bytes)) ∧
        (∀ name ∈ names.dropLast, name ∉ []) ∧
        ∃ pattern ∈ ["**/m.php".toList], Covers (components pattern) names ∧
          (components pattern).getLast? ≠ some doubleStar := by
  have hroot : Disk.isDirectory ⟨smallTree, [], false⟩ "/".toList = true := by decide +kernel
  have hordinary : ∀ pattern ∈ ["**/m.php".toList], IsOrdinary pattern := by
    intro pattern hpattern
    obtain rfl := List.mem_singleton.mp hpattern
    exact ⟨by decide +kernel, by decide +kernel, by decide +kernel, by decide +kernel,
      by decide +kernel⟩
  have hfound : modelFiles ⟨smallTree, [], false⟩ "/".toList ["**/m.php".toList] [] =
      .ok ["/a/m.php".toList, "/m.php".toList] := by
    decide +kernel
  have hexact := modelFiles_exact (d := ⟨smallTree, [], false⟩) hasNoLinks_smallTree hroot hordinary []
  exact ⟨⟨hasNoLinks_smallTree, hroot, hordinary⟩, hfound, (hexact.1 _ hfound).2⟩

/-! ## What double stars at the end do not find -/

/-- Components that cover names when the last name is left to the last component that is no double
star; the double stars behind it stand for nothing. -/
def CoversBeforeStars (cs names : List Text) : Prop :=
  ∃ front c back before name, cs = front ++ c :: back ∧ names = before ++ [name] ∧
    c ≠ doubleStar ∧ Covers front before ∧ Describes c name ∧ Covers back []

/-- The search finds every file that is covered by a pattern in this way. -/
def FindsBeforeStars (d : Disk) (root : Text) (patterns excluded : List Text) : Prop :=
  ∃ found, modelFiles d root patterns excluded = .ok found ∧ found.Pairwise (· < ·) ∧
    ∀ x, x ∈ found ↔ ∃ names, x = Path.below (d.absolute root) names ∧
      (∃ bytes, d.tree.get? (Path.locate d.cwd root ++ names) = some (.file bytes)) ∧
      (∀ name ∈ names.dropLast, name ∉ excluded) ∧
      ∃ pattern ∈ patterns, CoversBeforeStars (components pattern) names

/-- A double star behind the name of a file finds nothing, although it may stand for no directory at
all, and a name that is too long is a fault. -/
theorem not_findsBeforeStars :
    (smallTree.HasNoLinks ∧ Disk.isDirectory ⟨smallTree, [], false⟩ "/".toList = true ∧
      ∀ pattern ∈ ["m.php/**".toList, List.replicate 256 'a'], IsOrdinary pattern) ∧
    ¬ FindsBeforeStars ⟨smallTree, [], false⟩ "/".toList ["m.php/**".toList] [] ∧
    ¬ FindsBeforeStars ⟨smallTree, [], false⟩ "/".toList [List.replicate 256 'a'] [] := by
  have hordinary : ∀ pattern ∈ ["m.php/**".toList, List.replicate 256 'a'], IsOrdinary pattern := by
    intro pattern hpattern
    rcases List.mem_cons.mp hpattern with rfl | hpattern
    · exact ⟨by decide +kernel, by decide +kernel, by decide +kernel, by decide +kernel,
        by decide +kernel⟩
    · rw [List.mem_singleton.mp hpattern]
      exact ⟨by decide +kernel, by decide +kernel, by decide +kernel, by decide +kernel,
        by decide +kernel⟩
  refine ⟨⟨hasNoLinks_smallTree, by decide +kernel, hordinary⟩, ?_, ?_⟩
  · rintro ⟨found, hfound, -, hexact⟩
    have hnone : modelFiles ⟨smallTree, [], false⟩ "/".toList ["m.php/**".toList] [] = .ok [] := by
      decide +kernel
    obtain rfl : [] = found := Except.ok.inj (hnone.symm.trans hfound)
    refine absurd ((hexact "/m.php".toList).mpr ⟨["m.php".toList], by decide +kernel, ⟨[], ?_⟩,
      by simp, "m.php/**".toList, by simp, [], "m.php".toList, ["**".toList], [], "m.php".toList,
      by decide +kernel, rfl, by decide +kernel, .nil, ?_, .anyDepth [] .nil⟩) (by simp)
    · decide +kernel
    · rw [Describes, if_neg (by decide +kernel)]
  · rintro ⟨found, hfound, -⟩
    have hfault : (modelFiles ⟨smallTree, [], false⟩ "/".toList [List.replicate 256 'a'] []).isOk =
        false := by
      decide +kernel
    rw [hfound] at hfault
    cases hfault

end RelationAtlas.Search
