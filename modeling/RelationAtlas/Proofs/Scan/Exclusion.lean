import RelationAtlas.Proofs.Discovery.Exclusion
import RelationAtlas.Proofs.Scan.Reading

/-!
# Excluded directories and the graph

What lies inside excluded directories has no influence on the graph of a project: on two disks without
links that are the same elsewhere, the scan makes the same remarks and comes to the same graph or the
same fault (`project_agreeOutside`).

There are exceptions, because the search looks into excluded directories before it leaves them out.  A
scan may be stopped by something too long in there, and where two scans are stopped by something too
long elsewhere, they may report different paths, since directories are listed in no particular order.  A
root whose path goes through an excluded directory and up again has to be a
directory on both disks (`not_ignoresExcluded`).
-/

namespace RelationAtlas.Scan

variable {codecs : Codecs} {cwd : Location} {looks : Bool} {root : Text} {s : Settings}

/-- Two trees are the same except inside directories with excluded names below a location. -/
def AgreeOutside (excluded : List Text) (l : Location) (t t' : FileTree) : Prop :=
  ∀ m, t.get? m = t'.get? m ∨ ∃ names, m = l ++ names ∧ Search.isExcluded excluded names = true

/-- The scan is stopped by something too long. -/
def StopsTooLong (codecs : Codecs) (d : Disk) (root : Text) (s : Settings) : Prop :=
  ∃ path, (project codecs d root s).result = .error (.search (.blocked .nameTooLong path))

/-- The scan is stopped by something too long inside an excluded directory. -/
def StopsInside (codecs : Codecs) (d : Disk) (root : Text) (s : Settings) : Prop :=
  ∃ names, Search.isExcluded s.excludeDirs names = true ∧ (project codecs d root s).result =
    .error (.search (.blocked .nameTooLong (Path.below (d.absolute root) names)))

/-- Scans of two disks on which the same files are found and read are the same. -/
lemma project_congr {d d' : Disk}
    (hfound : Search.modelFiles d root s.candidateGlobs s.excludeDirs =
      Search.modelFiles d' root s.candidateGlobs s.excludeDirs)
    (hgraph : ∀ found, Search.modelFiles d root s.candidateGlobs s.excludeDirs = .ok found →
      graphOfPaths codecs d found s.maxWorkers s.encoding =
        graphOfPaths codecs d' found s.maxWorkers s.encoding) :
    project codecs d root s = project codecs d' root s := by
  rw [project, project, ← hfound]
  cases hsearch : Search.modelFiles d root s.candidateGlobs s.excludeDirs with
  | error f => rfl
  | ok found =>
    have hsame := hgraph found hsearch
    simp only [bind, Report.bind, Report.ofExcept, Report.mapError, Except.mapError, hsame]

section Twins

variable {t t' : FileTree}

/-- Disks that are the same outside excluded directories are twins for a search. -/
lemma twins_of_agreeOutside (ht : t.HasNoLinks) (ht' : t'.HasNoLinks)
    (hagree : AgreeOutside s.excludeDirs (Path.locate cwd root) t t')
    (hroot : Disk.isDirectory ⟨t, cwd, looks⟩ root = true)
    (hroot' : Disk.isDirectory ⟨t', cwd, looks⟩ root = true) :
    Search.Twins ⟨t, cwd, looks⟩ ⟨t', cwd, looks⟩ (Path.absolute cwd root) (Path.locate cwd root)
      s.excludeDirs where
  left := ⟨ht, Disk.names_absolute ht hroot, Disk.get?_locate_of_isDirectory ht hroot⟩
  right := ⟨ht', Disk.names_absolute ht' hroot', Disk.get?_locate_of_isDirectory ht' hroot'⟩
  agree := hagree

/-- The path of a file that is found leads to the same on both disks. -/
lemma reach_eq_of_isFound (hroot : Disk.isDirectory ⟨t, cwd, looks⟩ root = true)
    (htwins : Search.Twins ⟨t, cwd, looks⟩ ⟨t', cwd, looks⟩ (Path.absolute cwd root)
      (Path.locate cwd root) s.excludeDirs) {names : List Text} (hnames : names ≠ []) {x : Text}
    (h : Search.IsFound ⟨t, cwd, looks⟩ (Path.absolute cwd root) s.excludeDirs names x) :
    Disk.reach ⟨t, cwd, looks⟩ x = Disk.reach ⟨t', cwd, looks⟩ x := by
  obtain ⟨rfl, hleads⟩ := h
  have hlocate := Disk.isName_of_mem_locate hroot
  have htext : Path.IsRootText (Path.rootText root) := Path.isRootText_rootText root
  have hall : ∀ name ∈ Path.locate cwd root ++ names, Path.IsName name := by
    intro name hname
    rcases List.mem_append.mp hname with hname | hname
    · exact hlocate name hname
    · exact hleads.isName name hname
  have hout : Search.isExcluded s.excludeDirs names = false := by
    simpa [Search.isExcluded] using hleads.notExcluded
  have hsame := htwins.reach_eq (Search.takesNoTurn_of_isName hleads.isName) hout
  rw [htwins.left.names_base] at hsame
  have hne : Path.locate cwd root ++ names ≠ [] := by simp [hnames]
  have hbelow : Path.below (Path.absolute cwd root) names =
      Path.render (Path.rootText root) (Path.locate cwd root ++ names) :=
    Path.below_render htext hlocate hnames
  rw [hbelow, Disk.reach_render htext hne hall, Disk.reach_render htext hne hall]
  simp only at hsame ⊢
  rw [hsame]

/-- The files that are found on both disks have the same graph on both. -/
lemma graphOfPaths_eq_of_twins (hroot : Disk.isDirectory ⟨t, cwd, looks⟩ root = true)
    (htwins : Search.Twins ⟨t, cwd, looks⟩ ⟨t', cwd, looks⟩ (Path.absolute cwd root)
      (Path.locate cwd root) s.excludeDirs)
    (hup : ∀ pattern ∈ s.candidateGlobs, Path.up ∉ Path.names pattern) {found : List Text}
    (hfound : Search.modelFiles ⟨t, cwd, looks⟩ root s.candidateGlobs s.excludeDirs = .ok found) :
    graphOfPaths codecs ⟨t, cwd, looks⟩ found s.maxWorkers s.encoding =
      graphOfPaths codecs ⟨t', cwd, looks⟩ found s.maxWorkers s.encoding := by
  have hyields := Search.yields_modelFiles hroot hup s.excludeDirs
  rw [hfound] at hyields
  have hpaths : ∀ x ∈ found, Search.IsPathToFile ⟨t, cwd, looks⟩ x ∧
      Disk.reach ⟨t, cwd, looks⟩ x = Disk.reach ⟨t', cwd, looks⟩ x := by
    intro x hx
    obtain ⟨-, -, names, hnames, -, hisFound⟩ := hyields x hx
    exact ⟨hisFound.isPathToFile hroot hnames, reach_eq_of_isFound hroot htwins hnames hisFound⟩
  refine graphOfPaths_congr (fun x hx => ?_) fun x hx => Disk.read_congr (hpaths x hx).2 _ _
  have habsolute := (hpaths x hx).1.absolute_eq
  exact ⟨habsolute, habsolute⟩

/-- What lies inside excluded directories does not influence a scan: without links, the scans of two
disks that are the same elsewhere make the same remarks and come to the same result, unless both are
stopped by something too long or one of them is stopped inside an excluded directory. -/
theorem project_agreeOutside (codecs : Codecs) (ht : t.HasNoLinks) (ht' : t'.HasNoLinks)
    (hagree : AgreeOutside s.excludeDirs (Path.locate cwd root) t t')
    (hroot : Disk.isDirectory ⟨t, cwd, looks⟩ root = Disk.isDirectory ⟨t', cwd, looks⟩ root)
    (hup : ∀ pattern ∈ s.candidateGlobs, Path.up ∉ Path.names pattern) :
    project codecs ⟨t, cwd, looks⟩ root s = project codecs ⟨t', cwd, looks⟩ root s ∨
      (StopsTooLong codecs ⟨t, cwd, looks⟩ root s ∧ StopsTooLong codecs ⟨t', cwd, looks⟩ root s) ∨
      StopsInside codecs ⟨t, cwd, looks⟩ root s ∨ StopsInside codecs ⟨t', cwd, looks⟩ root s := by
  by_cases hdir : Disk.isDirectory ⟨t, cwd, looks⟩ root = true
  · have hdir' : Disk.isDirectory ⟨t', cwd, looks⟩ root = true := hroot.symm.trans hdir
    have htwins := twins_of_agreeOutside ht ht' hagree hdir hdir'
    rcases htwins.modelFiles_alike rfl hdir hdir' hup with hsame | ⟨htoo, htoo'⟩ | hin | hin'
    · refine Or.inl (project_congr hsame fun found hfound => ?_)
      exact graphOfPaths_eq_of_twins hdir htwins hup hfound
    · obtain ⟨_, hfault, path, rfl⟩ := htoo
      obtain ⟨_, hfault', path', rfl⟩ := htoo'
      exact Or.inr (Or.inl ⟨⟨path, result_project_of_error hfault⟩,
        ⟨path', result_project_of_error hfault'⟩⟩)
    · obtain ⟨_, hfault, names, hexcluded, rfl⟩ := hin
      exact Or.inr (Or.inr (Or.inl ⟨names, hexcluded, result_project_of_error hfault⟩))
    · obtain ⟨_, hfault, names, hexcluded, rfl⟩ := hin'
      exact Or.inr (Or.inr (Or.inr ⟨names, hexcluded, result_project_of_error hfault⟩))
  · -- Without a directory at the root, both scans say so.
    have hdir' : ¬ Disk.isDirectory ⟨t', cwd, looks⟩ root = true := fun h => hdir (hroot.trans h)
    refine Or.inl (project_congr ?_ fun found hfound => ?_)
    · rw [Search.modelFiles, if_neg hdir, Search.modelFiles, if_neg hdir']
    · rw [Search.modelFiles, if_neg hdir] at hfound
      cases hfound

/-- Setting something inside an excluded directory changes nothing outside of it. -/
lemma agreeOutside_put {excluded : List Text} {l m : Location} {e : Entry} (h : t.Accepts m e)
    (names : List Text) (hm : m = l ++ names)
    (hin : Search.isExcluded excluded names = true) : AgreeOutside excluded l (t.put m e h) t := by
  intro m'
  rw [FileTree.get?_put]
  split
  · next heq => exact Or.inr ⟨names, heq.symm.trans hm, hin⟩
  · exact Or.inl rfl

end Twins

/-! ## Two projects -/

/-- A project with a directory of an excluded name. -/
def plainProject : FileTree :=
  ((FileTree.empty.put ["p".toList] .directory (by decide +kernel)).put
    ["p".toList, "vendor".toList] .directory (by decide +kernel)).put
      ["p".toList, "m.php".toList] (.file (Utf8.encode "<?php\nnamespace A;\nclass U".toList))
        (by decide +kernel)

/-- The same project with a file in that directory that declares the same class. -/
def vendoredProject : FileTree :=
  plainProject.put ["p".toList, "vendor".toList, "a.php".toList]
    (.file (Utf8.encode "<?php\nnamespace A;\nclass U".toList)) (by decide +kernel)

/-- The same project with another directory in that directory. -/
def nestedProject : FileTree :=
  plainProject.put ["p".toList, "vendor".toList, "x".toList] .directory (by decide +kernel)

lemma hasNoLinks_plainProject : plainProject.HasNoLinks :=
  ((FileTree.hasNoLinks_empty.put (by simp)).put (by simp)).put (by simp)

/-- Settings that look for files everywhere. -/
def everywhere : Settings := { Settings.default with candidateGlobs := ["**/*.php".toList] }

/-- A file in an excluded directory changes nothing, although the pattern leads to it first. -/
theorem project_vendored :
    (vendoredProject.HasNoLinks ∧ plainProject.HasNoLinks ∧
      AgreeOutside everywhere.excludeDirs (Path.locate [] "/p".toList) vendoredProject
        plainProject ∧
      Disk.isDirectory ⟨vendoredProject, [], false⟩ "/p".toList =
        Disk.isDirectory ⟨plainProject, [], false⟩ "/p".toList ∧
      ∀ pattern ∈ everywhere.candidateGlobs, Path.up ∉ Path.names pattern) ∧
    project Codecs.standard ⟨vendoredProject, [], false⟩ "/p".toList everywhere =
      project Codecs.standard ⟨plainProject, [], false⟩ "/p".toList everywhere ∧
    (project Codecs.standard ⟨plainProject, [], false⟩ "/p".toList everywhere).result =
      .ok ⟨[⟨"A\\U".toList, "U".toList, "/p/m.php".toList⟩], []⟩ := by
  have hlinks : vendoredProject.HasNoLinks := hasNoLinks_plainProject.put (by simp)
  have hagree : AgreeOutside everywhere.excludeDirs (Path.locate [] "/p".toList) vendoredProject
      plainProject :=
    agreeOutside_put _ ["vendor".toList, "a.php".toList] (by decide +kernel) (by decide +kernel)
  have hroot : Disk.isDirectory ⟨vendoredProject, [], false⟩ "/p".toList =
      Disk.isDirectory ⟨plainProject, [], false⟩ "/p".toList := by
    decide +kernel
  have hup : ∀ pattern ∈ everywhere.candidateGlobs, Path.up ∉ Path.names pattern := by
    decide +kernel
  have hresult : (project Codecs.standard ⟨plainProject, [], false⟩ "/p".toList everywhere).result =
      .ok ⟨[⟨"A\\U".toList, "U".toList, "/p/m.php".toList⟩], []⟩ := by
    decide +kernel
  have hresult' : (project Codecs.standard ⟨vendoredProject, [], false⟩ "/p".toList
      everywhere).result.isOk = true := by
    decide +kernel
  refine ⟨⟨hlinks, hasNoLinks_plainProject, hagree, hroot, hup⟩, ?_, hresult⟩
  rcases project_agreeOutside Codecs.standard hlinks hasNoLinks_plainProject hagree hroot hup with
    hsame | ⟨⟨_, hstop⟩, -⟩ | ⟨_, -, hstop⟩ | ⟨_, -, hstop⟩
  · exact hsame
  · rw [hstop] at hresult'
    cases hresult'
  · rw [hstop] at hresult'
    cases hresult'
  · rw [hresult] at hstop
    cases hstop

/-! ## Exceptions -/

/-- Settings whose pattern leads through an excluded directory to a name that is too long. -/
def overlongInside : Settings :=
  { Settings.default with
    candidateGlobs := ["vendor/x/".toList ++ List.replicate 256 'a'] }

/-- Settings whose pattern leads through every directory to a name that is too long. -/
def overlongAnywhere : Settings :=
  { Settings.default with candidateGlobs := ["*/".toList ++ List.replicate 256 'a'] }

/-- Two directories that are listed in one order. -/
def oneOrder : FileTree :=
  (FileTree.empty.put ["a".toList] .directory (by decide +kernel)).put ["b".toList] .directory
    (by decide +kernel)

/-- The same directories listed in the other order. -/
def otherOrder : FileTree :=
  (FileTree.empty.put ["b".toList] .directory (by decide +kernel)).put ["a".toList] .directory
    (by decide +kernel)

lemma get?_oneOrder (m : Location) : oneOrder.get? m = otherOrder.get? m := by
  rw [oneOrder, otherOrder, FileTree.get?_put, FileTree.get?_put, FileTree.get?_put,
    FileTree.get?_put]
  split
  · next hb =>
    subst hb
    rfl
  · rfl

/-- Without any exception, the scans of two disks that are the same outside excluded directories come
to the same result. -/
def IgnoresExcluded (codecs : Codecs) (t t' : FileTree) (root : Text) (s : Settings) : Prop :=
  t.HasNoLinks → t'.HasNoLinks → AgreeOutside s.excludeDirs (Path.locate [] root) t t' →
    (∀ pattern ∈ s.candidateGlobs, Path.up ∉ Path.names pattern) →
    (project codecs ⟨t, [], false⟩ root s).result = (project codecs ⟨t', [], false⟩ root s).result

/-- There are exceptions: a name that is too long is only noticed in a directory that is there, a root
may be given by a path through an excluded directory, and directories may be listed in another
order. -/
theorem not_ignoresExcluded :
    ¬ IgnoresExcluded Codecs.standard nestedProject plainProject "/p".toList overlongInside ∧
    ¬ IgnoresExcluded Codecs.standard nestedProject plainProject "/p/vendor/x/../..".toList
      Settings.default ∧
    ¬ IgnoresExcluded Codecs.standard oneOrder otherOrder "/".toList overlongAnywhere := by
  have hnested : nestedProject.HasNoLinks := hasNoLinks_plainProject.put (by simp)
  have hone : oneOrder.HasNoLinks := (FileTree.hasNoLinks_empty.put (by simp)).put (by simp)
  have hother : otherOrder.HasNoLinks := (FileTree.hasNoLinks_empty.put (by simp)).put (by simp)
  refine ⟨fun h => ?_, fun h => ?_, fun h => ?_⟩
  · have hagree : AgreeOutside overlongInside.excludeDirs (Path.locate [] "/p".toList)
        nestedProject plainProject :=
      agreeOutside_put _ ["vendor".toList, "x".toList] (by decide +kernel) (by decide +kernel)
    exact absurd (h hnested hasNoLinks_plainProject hagree (by decide +kernel)) (by decide +kernel)
  · have hagree : AgreeOutside Settings.default.excludeDirs
        (Path.locate [] "/p/vendor/x/../..".toList) nestedProject plainProject :=
      agreeOutside_put _ ["vendor".toList, "x".toList] (by decide +kernel) (by decide +kernel)
    exact absurd (h hnested hasNoLinks_plainProject hagree (by decide +kernel)) (by decide +kernel)
  · have hagree : AgreeOutside overlongAnywhere.excludeDirs (Path.locate [] "/".toList)
        oneOrder otherOrder := fun m => Or.inl (get?_oneOrder m)
    exact absurd (h hone hother hagree (by decide +kernel)) (by decide +kernel)

end RelationAtlas.Scan
