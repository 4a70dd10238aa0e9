import RelationAtlas.Proofs.Discovery.Soundness

/-!
# How a search ends, whatever its patterns are

A pattern may go up, and then what it finds need not be covered by its components.  Still, a
search below a directory fails only because a pattern makes no sense or because something is too
long, and whatever it finds is an absolute path that can be followed
(`yields_modelFiles_of_isDirectory`).  One pattern that makes no sense is enough to stop it
(`not_modelFiles_of_badPattern`).

The expansion of a pattern is followed component by component (`EndsWell`): what is said about a
component holds from all names on that are too long only where a part of the pattern is.
-/

namespace RelationAtlas.Search

open FileTree Pattern

variable {d : Disk} {base : Text} {excluded parts : List Text}

/-- A path below the base by names that a path may hold. -/
def IsBelow (base : Text) (x : Text) : Prop :=
  ∃ names, x = Path.below base names ∧ ∀ name ∈ names, '\x00' ∉ name

/-- Whatever is found at some names, a path may hold them. -/
lemma yields_nul_notMem (hbase : ∀ name ∈ Path.names base, Path.IsName name) {names : List Text}
    (hnames : HasLongParts parts names) :
    Yields (probe d base names) (fun found => found.isSome → ∀ name ∈ names, '\x00' ∉ name)
      (IsLengthFault d parts) := by
  have hlook : Yields (probe d base names) _ (IsLengthFault d parts) := yields_look hbase hnames
  cases hprobe : probe d base names with
  | error f =>
    rw [hprobe] at hlook
    exact hlook
  | ok found =>
    intro hsome
    unfold probe at hprobe
    split at hprobe
    · cases hprobe
      cases hsome
    · next hnul => simpa [Disk.hasNul] using hnul

/-! ## Expanding a pattern -/

/-- From any names on, a pattern leads to paths below the base, or something is too long. -/
def EndsWell (d : Disk) (base : Text) (excluded parts : List Text) (p : Pattern) : Prop :=
  ∀ names, HasLongParts parts names → Yields (expand d base (pickFile d base excluded) p names)
    (fun ys => ∀ x ∈ ys, IsBelow base x) (IsLengthFault d parts)

lemma yields_pick (hbase : ∀ name ∈ Path.names base, Path.IsName name) {names : List Text}
    (hnames : HasLongParts parts names) : Yields (pickFile d base excluded names)
      (fun ys => ∀ x ∈ ys, IsBelow base x) (IsLengthFault d parts) := by
  refine (yields_nul_notMem hbase hnames).bind fun found hnul => ?_
  split
  · intro x hx
    split at hx
    · cases hx
    · exact ⟨names, List.mem_singleton.mp hx, hnul rfl⟩
  · intro x hx
    cases hx

variable {p : Pattern}

/-- The search goes on, or it does not. -/
lemma EndsWell.goOn (h : EndsWell d base excluded parts p) {names : List Text}
    (hnames : HasLongParts parts names) (goesOn : Bool) :
    Yields (if goesOn then expand d base (pickFile d base excluded) p names else .ok [])
      (fun ys => ∀ x ∈ ys, IsBelow base x) (IsLengthFault d parts) := by
  cases goesOn with
  | false =>
    intro x hx
    cases hx
  | true => exact h names hnames

lemma EndsWell.anyDepth (h : EndsWell d base excluded parts p)
    (hbase : ∀ name ∈ Path.names base, Path.IsName name) :
    EndsWell d base excluded parts (.anyDepth :: p) := by
  intro names hnames
  rw [expand]
  refine yields_collect_forall fun down hdown => ?_
  have hparts : HasLongParts parts (names ++ down) :=
    hasLongParts_append hnames (hasLongParts_of_isName (isName_of_mem_descents hdown))
  refine (h _ hparts).bind fun taken htaken => ?_
  exact (yields_lookAround hbase hparts).bind fun _ _ => htaken

lemma EndsWell.wild (h : EndsWell d base excluded parts p)
    (hbase : ∀ name ∈ Path.names base, Path.IsName name) (pieces : List Wildcard.Piece) :
    EndsWell d base excluded parts (.wild pieces :: p) := by
  intro names hnames
  rw [expand]
  refine (yields_list names).bind fun items hitems => ?_
  refine yields_collect_forall fun item hitem => ?_
  have hisName : Path.IsName item.1 := hitems item hitem
  have hparts : HasLongParts parts (names ++ [item.1]) :=
    hasLongParts_append hnames (hasLongParts_of_isName (by simpa using hisName))
  refine yields_ite (h.goOn hparts _) ?_
  exact (yields_leadsToDirectory hbase hnames hisName).bind fun _ _ => h.goOn hparts _

lemma EndsWell.name (h : EndsWell d base excluded parts p)
    (hbase : ∀ name ∈ Path.names base, Path.IsName name) {n : Text} (hn : HasLongParts parts [n]) :
    EndsWell d base excluded parts (.name n :: p) := by
  intro names hnames
  have hparts := hasLongParts_append hnames hn
  rw [expand]
  exact (yields_look hbase hparts).bind fun _ _ => h.goOn hparts _

/-- Every pattern whose names are among the parts ends well. -/
lemma endsWell_of_hasLongParts (hbase : ∀ name ∈ Path.names base, Path.IsName name)
    (hp : ∀ n, Component.name n ∈ p → HasLongParts parts [n]) :
    EndsWell d base excluded parts p := by
  induction p with
  | nil => exact fun names hnames => yields_pick hbase hnames
  | cons c p ih =>
    have hrest := ih fun n hn => hp n (by simp [hn])
    cases c with
    | self => exact fun names hnames => yields_pick hbase hnames
    | anyDepth => exact hrest.anyDepth hbase
    | wild pieces => exact hrest.wild hbase pieces
    | name n => exact hrest.name hbase (hp n (by simp))

/-- The names in a pattern are components of its text. -/
lemma mem_components_of_name_mem {pattern n : Text} (h : ofText pattern = .ok p)
    (hn : Component.name n ∈ p) : n ∈ components pattern := by
  obtain ⟨tail, htail, rfl⟩ := ofText_eq_components h
  rcases List.mem_append.mp hn with hmem | hmem
  · obtain ⟨c, hc, hmeaning⟩ := List.mem_map.mp hmem
    rwa [← eq_of_meaning_eq_name hmeaning]
  · rcases htail with rfl | rfl <;> simp at hmem

/-! ## The search as a whole -/

/-- What a search by one pattern comes to. -/
lemma yields_filesOf_of_isName (hbase : ∀ name ∈ Path.names base, Path.IsName name) {pattern : Text}
    (hparts : ∀ c ∈ components pattern, c ∈ parts) :
    Yields (filesOf d base excluded pattern) (fun ys => ∀ x ∈ ys, IsBelow base x)
      (fun f => IsLengthFault d parts f ∨ ∃ g, ofText pattern = .error g ∧ f = .badPattern g) := by
  unfold filesOf
  cases htext : ofText pattern with
  | error g => exact Or.inr ⟨g, rfl, rfl⟩
  | ok p =>
    have hnil : HasLongParts parts [] := by simp [HasLongParts]
    have hnames : ∀ n, Component.name n ∈ p → HasLongParts parts [n] := by
      intro n hn m hm _
      obtain rfl := List.mem_singleton.mp hm
      exact hparts m (mem_components_of_name_mem htext hn)
    have hexpand : Yields (do
        if (← probe d base []) ≠ some .directory then .ok []
        else expand d base (pickFile d base excluded) p [])
        (fun ys => ∀ x ∈ ys, IsBelow base x) (IsLengthFault d parts) := by
      refine (yields_look hbase hnil).bind fun found _ => ?_
      split
      · intro x hx
        cases hx
      · exact endsWell_of_hasLongParts hbase hnames [] hnil
    exact hexpand.mono_fault fun f => Or.inl

/-- A path below a directory is absolute, and a path may hold it. -/
lemma IsBelow.isAbsolute {root x : Text} (hroot : d.isDirectory root = true)
    (h : IsBelow (d.absolute root) x) : Path.isAbsolute x = true ∧ Disk.hasNul x = false := by
  obtain ⟨names, rfl, hnames⟩ := h
  have htext := Path.isRootText_rootText root
  have habsolute : Path.isAbsolute (d.absolute root) = true := Path.isAbsolute_render htext _
  have hnul : Disk.hasNul (d.absolute root) = false :=
    Disk.hasNul_render htext fun n hn => (Disk.isName_of_mem_locate hroot n hn).nul_notMem
  have hjoin : '\x00' ∉ Text.join ['/'] names := Disk.nul_notMem_join hnames
  obtain ⟨rest, hrest⟩ : ∃ rest, d.absolute root = '/' :: rest := by
    cases hbase : d.absolute root with
    | nil =>
      rw [hbase] at habsolute
      cases habsolute
    | cons c rest =>
      rw [hbase] at habsolute
      exact ⟨rest, by simpa [Path.isAbsolute] using habsolute⟩
  unfold Path.below
  split
  · exact ⟨habsolute, hnul⟩
  split
  · rw [hrest] at hnul ⊢
    exact ⟨rfl, by simpa [Disk.hasNul, hjoin] using hnul⟩
  · rw [hrest] at hnul ⊢
    exact ⟨rfl, by simpa [Disk.hasNul, hjoin] using hnul⟩

/-- What a search below a directory comes to, whatever the patterns are: absolute paths that can be
followed, or a fault of one of the patterns, or something that is too long. -/
lemma yields_modelFiles_of_isDirectory {root : Text} (hroot : d.isDirectory root = true)
    (patterns excluded : List Text) : Yields (modelFiles d root patterns excluded)
      (fun found => ∀ x ∈ found, Path.isAbsolute x = true ∧ Disk.hasNul x = false)
      (fun f => IsLengthFault d (patterns.flatMap components) f ∨
        ∃ pattern ∈ patterns, ∃ g, ofText pattern = .error g ∧ f = .badPattern g) := by
  have hcollect : Yields (collect patterns (filesOf d (d.absolute root) excluded))
      (fun ys => ∀ x ∈ ys, IsBelow (d.absolute root) x)
      (fun f => IsLengthFault d (patterns.flatMap components) f ∨
        ∃ pattern ∈ patterns, ∃ g, ofText pattern = .error g ∧ f = .badPattern g) := by
    refine yields_collect_forall fun pattern hmem => ?_
    have hparts : ∀ c ∈ components pattern, c ∈ patterns.flatMap components :=
      fun c hc => List.mem_flatMap.mpr ⟨pattern, hmem, hc⟩
    refine (yields_filesOf_of_isName (isName_of_mem_names_absolute hroot) hparts).mono_fault ?_
    rintro f (hlong | ⟨g, hg, rfl⟩)
    · exact Or.inl hlong
    · exact Or.inr ⟨pattern, hmem, g, hg, rfl⟩
  rw [modelFiles, if_pos hroot]
  cases hresult : collect patterns (filesOf d (d.absolute root) excluded) with
  | error f =>
    rw [hresult] at hcollect
    exact hcollect
  | ok ys =>
    rw [hresult] at hcollect
    intro x hx
    exact (hcollect x (Text.mem_sorted.mp hx)).isAbsolute hroot

/-- A pattern that makes no sense stops every search. -/
lemma not_modelFiles_of_badPattern {root pattern : Text} {patterns : List Text} {g : PatternFault}
    (hmem : pattern ∈ patterns) (hbad : ofText pattern = .error g) (excluded found : List Text) :
    modelFiles d root patterns excluded ≠ .ok found := by
  intro h
  unfold modelFiles at h
  split at h
  · cases hcollect : collect patterns (filesOf d (d.absolute root) excluded) with
    | error f =>
      rw [hcollect] at h
      cases h
    | ok ys =>
      obtain ⟨zs, hzs⟩ := exists_of_collect_eq_ok hcollect pattern hmem
      rw [filesOf, hbad] at hzs
      cases hzs
  · cases h

end RelationAtlas.Search
