import RelationAtlas.Proofs.Discovery.Matching
import RelationAtlas.Proofs.Discovery.Outcomes
import RelationAtlas.Proofs.Tree.Listings
import RelationAtlas.Proofs.Tree.NoLinks

/-!
# The steps of a search without links

Each look of a search at the disk is told by what is at a location: looking at a place
(`yields_probe`, `yields_probe_component`), listing a directory (`yields_listing`), finding the ways
down from it, and taking a file (`yields_pickFile`).

Without links, the only thing that can go wrong is that a path or a name is too long
(`ReportsTooLong`).
-/

namespace RelationAtlas.Search

open FileTree

/-- Where a search takes place: below a directory, whose path is given by its names, on a disk without
links. -/
structure Ground (d : Disk) (base : Text) (l : Location) : Prop where
  noLinks : d.tree.HasNoLinks
  names_base : Path.names base = l
  directory : d.tree.get? l = some .directory

/-- Is something at the given names below the base too long: the path, or the last name? -/
def IsOverlong (base : Text) (names : List Text) : Prop :=
  Path.pathLimit < Utf8.size (Path.below base names) ∨
    ∃ name ∈ names.getLast?, Path.nameLimit < Utf8.size name

/-- Does the fault report something too long?  It is found where something is, or where a component of
a pattern is looked for in a directory. -/
def ReportsTooLong (d : Disk) (base : Text) (l : Location) (cs : List Text) (f : SearchFault) :
    Prop :=
  ∃ names, f = .blocked .nameTooLong (Path.below base names) ∧ IsOverlong base names ∧
    ((d.tree.get? (l ++ names)).isSome ∨ ∃ c ∈ cs, names.getLast? = some c ∧
      d.tree.get? (l ++ names.dropLast) = some .directory)

variable {d : Disk} {base : Text} {l : Location} {cs : List Text}

/-! ## Looking at a place -/

/-- No path to something holds the character that no path may hold. -/
lemma any_hasNul_eq_false {names : List Text} (h : (d.tree.get? (l ++ names)).isSome) :
    names.any Disk.hasNul = false := by
  refine List.any_eq_false.mpr fun name hname => ?_
  have hisName := isName_of_mem h name (List.mem_append_right l hname)
  simpa [Disk.hasNul] using hisName.nul_notMem

/-- What is there is found, unless its path is too long. -/
lemma yields_probe (hd : Ground d base l) {names : List Text} {e : Entry}
    (h : d.tree.get? (l ++ names) = some e) :
    Yields (probe d base names) (· = some e) (ReportsTooLong d base l cs) := by
  have hsome : (d.tree.get? (l ++ names)).isSome := by rw [h]; rfl
  have hreach : d.tree.reach [] (l ++ names) = .ok (l ++ names, e) :=
    reach_of_get? (l := []) h fun target htarget => hd.noLinks _ target (htarget ▸ h)
  rw [probe, any_hasNul_eq_false hsome, if_neg (by simp), hd.names_base]
  split
  · next hlong => exact ⟨names, rfl, Or.inl (by simpa [isTooLong] using hlong), Or.inl hsome⟩
  · rw [hreach]
    rfl

/-- In a directory a walk takes its last step to what is there, or finds nothing. -/
lemma reach_concat_of_none {t : FileTree} {names : Location} {name : Text}
    (hdir : t.get? names = some .directory) (hslash : name ≠ Path.afterSlash)
    (hhere : name ≠ Path.here) (hup : name ≠ Path.up) (hnone : t.get? (names ++ [name]) = none) :
    t.reach [] (names ++ [name]) =
      .error (if Path.nameLimit < Utf8.size name then .nameTooLong else .notFound) := by
  have hwalk := walk_append_of_get? (l := []) hdir (by simp) linkLimit [name]
  rw [List.nil_append] at hwalk
  have hlast : t.walk .look linkLimit names [name] =
      if Path.nameLimit < Utf8.size name then .error .nameTooLong
      else .ok (.vacant (names ++ [name])) := by
    rw [linkLimit, walk, walkWith, if_neg (by simp [hdir]), if_neg (by simp),
      if_neg (by simp [hslash, hhere]), if_neg hup]
    simp [hnone]
  rw [reach, hwalk, hlast]
  split <;> rfl

/-- What a plain component names in a directory is looked for, unless something is too long. -/
lemma yields_probe_component (hd : Ground d base l) {names : List Text} {c : Text} (hc : c ∈ cs)
    (hdir : d.tree.get? (l ++ names) = some .directory) (hslash : c ≠ Path.afterSlash)
    (hhere : c ≠ Path.here) (hup : c ≠ Path.up) :
    Yields (probe d base (names ++ [c])) (· = d.tree.get? (l ++ (names ++ [c])))
      (ReportsTooLong d base l cs) := by
  cases hget : d.tree.get? (l ++ (names ++ [c])) with
  | some e => exact yields_probe hd hget
  | none =>
    have hblocked : IsOverlong base (names ++ [c]) → ReportsTooLong d base l cs
        (.blocked .nameTooLong (Path.below base (names ++ [c]))) := fun hlong =>
      ⟨names ++ [c], rfl, hlong, Or.inr ⟨c, hc, by simp, by simpa using hdir⟩⟩
    rw [probe, hd.names_base]
    split
    · rfl
    · split
      · next hlong => exact hblocked (Or.inl (by simpa [isTooLong] using hlong))
      · rw [← List.append_assoc] at hget ⊢
        rw [reach_concat_of_none hdir hslash hhere hup hget]
        by_cases hsize : Path.nameLimit < Utf8.size c
        · rw [if_pos hsize]
          exact hblocked (Or.inr ⟨c, by simp, hsize⟩)
        · rw [if_neg hsize]
          rfl

/-! ## Looking around -/

/-- What is listed in a directory is what is there. -/
lemma yields_listing (hd : Ground d base l) {names : List Text}
    (hdir : d.tree.get? (l ++ names) = some .directory) :
    Yields (listing d base names)
      (fun items => ∀ item, item ∈ items ↔
        d.tree.get? (l ++ (names ++ [item.1])) = some item.2)
      (ReportsTooLong d base l cs) := by
  have hreach : d.tree.reach [] (l ++ names) = .ok (l ++ names, .directory) :=
    reach_of_get? (l := []) hdir (by simp)
  rw [listing, hd.names_base]
  split
  · next hlong =>
    exact ⟨names, rfl, Or.inl (by simpa [isTooLong] using hlong), Or.inl (by rw [hdir]; rfl)⟩
  · rw [hreach]
    rintro ⟨name, e⟩
    simp only [List.mem_filterMap, Option.map_eq_some_iff, Prod.mk.injEq, List.append_assoc,
      mem_namesIn]
    constructor
    · rintro ⟨name', -, e', hget, rfl, rfl⟩
      exact hget
    · intro hget
      exact ⟨name, by rw [hget]; rfl, e, hget, rfl, rfl⟩

/-- Without links a name leads to a directory when it is one. -/
lemma leadsToDirectory_eq (hd : Ground d base l) {names : List Text} {item : Text × Entry}
    (h : d.tree.get? (l ++ (names ++ [item.1])) = some item.2) :
    leadsToDirectory d base names item = .ok (decide (item.2 = .directory)) := by
  obtain ⟨name, e⟩ := item
  cases e with
  | link target => exact absurd h (hd.noLinks _ target)
  | file bytes => rfl
  | directory => rfl

/-- Looking through a directory finds no other faults. -/
lemma yields_survey (hd : Ground d base l) {names : List Text}
    (hdir : d.tree.get? (l ++ names) = some .directory) :
    Yields (survey d base names) (fun _ => True) (ReportsTooLong d base l cs) := by
  refine yields_survey_of_listing
    ((yields_listing hd hdir).mono fun items hitems item => (hitems item).mp) fun item hitem => ?_
  rw [leadsToDirectory_eq hd hitem]
  trivial

/-- The ways down from a directory are the directories below it. -/
lemma mem_descents (hd : Ground d base l) {names down : List Text}
    (hdir : d.tree.get? (l ++ names) = some .directory) :
    down ∈ descents d base names ↔ d.tree.get? (l ++ (names ++ down)) = some .directory := by
  have hreach : d.tree.reach [] (l ++ names) = .ok (l ++ names, .directory) :=
    reach_of_get? (l := []) hdir (by simp)
  rw [descents, hd.names_base, hreach, ← List.append_assoc]
  exact mem_directoriesBelow hdir

/-! ## Taking a file -/

/-- The path of a file that is not below a directory with an excluded name. -/
def IsTaken (d : Disk) (base : Text) (l : Location) (excluded names : List Text) (x : Text) : Prop :=
  x = Path.below base names ∧ (∃ bytes, d.tree.get? (l ++ names) = some (.file bytes)) ∧
    ∀ name ∈ names.dropLast, name ∉ excluded

/-- What is taken of something that is there. -/
lemma yields_pickFile (hd : Ground d base l) {names : List Text} {e : Entry}
    (h : d.tree.get? (l ++ names) = some e) (excluded : List Text) :
    Yields (pickFile d base excluded names)
      (fun ys => ∀ x, x ∈ ys ↔ IsTaken d base l excluded names x)
      (ReportsTooLong d base l cs) := by
  refine (yields_probe hd h).bind ?_
  rintro _ rfl
  cases e with
  | directory => exact fun x => by simp [IsTaken, h]
  | link target => exact fun x => by simp [IsTaken, h]
  | file bytes =>
    intro x
    by_cases hexcluded : isExcluded excluded names = true
    · have hname : ∃ name ∈ names.dropLast, name ∈ excluded := by
        simpa [isExcluded] using hexcluded
      obtain ⟨name, hname, hmem⟩ := hname
      rw [if_pos hexcluded]
      refine ⟨fun hx => absurd hx (by simp), fun hx => ?_⟩
      exact absurd hmem (hx.2.2 name hname)
    · have hnone : ∀ name ∈ names.dropLast, name ∉ excluded := by
        simpa [isExcluded] using hexcluded
      rw [if_neg hexcluded, List.mem_singleton]
      exact ⟨fun hx => ⟨hx, ⟨bytes, h⟩, hnone⟩, fun hx => hx.1⟩

end RelationAtlas.Search
