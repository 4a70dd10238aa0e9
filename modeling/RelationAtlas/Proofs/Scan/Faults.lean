import RelationAtlas.Proofs.Discovery.Faults
import RelationAtlas.Proofs.Scan.Candidates
import RelationAtlas.Proofs.Scan.Pool

/-!
# How a scan of a project fails

The root is not the only reason for which a project has no graph.  Below a directory a scan also
fails when a pattern makes no sense, when something is too long, and when a file that can be opened is
asked for in an encoding that there is not, or whose codec fails in a way of its own
(`not_project_unknownEncoding`).  These are all the reasons (`IsReasonFor`), and they tell exactly when
there is a graph (`project_outcome`).

The paths that are found hold no NUL, so a file that is asked for in vain has to do with the
encoding (`read_fault`).
-/

namespace RelationAtlas.Scan

variable {codecs : Codecs} {d : Disk}

/-! ## Projects -/

/-- A reason for which the project below a root has no graph. -/
def IsReasonFor (codecs : Codecs) (d : Disk) (root : Text) (s : Settings) : ScanFault → Prop
  | .search (.noRoot r) => d.isDirectory root = false ∧ r = root
  | .search (.badPattern f) => ∃ pattern ∈ s.candidateGlobs, Pattern.ofText pattern = .error f
  | .search (.blocked f path) =>
    Search.IsLengthFault d (s.candidateGlobs.flatMap Pattern.components) (.blocked f path)
  | .read .nulInEncoding => '\x00' ∈ s.encoding
  | .read (.unknownEncoding name) => codecs.codec? s.encoding = none ∧ name = s.encoding
  | .read (.codecFailed f) => ∃ codec path bytes, codecs.codec? s.encoding = some codec ∧
    d.bytes path = .ok bytes ∧ codec bytes = .error (.failed f)
  | .read _ => False

variable {root : Text} {s : Settings} {found : List Text}

/-- The graph of a project is that of the texts that are read in turn at the paths found. -/
lemma result_project_of_ok
    (h : Search.modelFiles d root s.candidateGlobs s.excludeDirs = .ok found) :
    (project codecs d root s).result =
      ((loadInTurn codecs d s.encoding (found.map d.absolute)).result.map fun texts =>
        Graph.ofFiles (readable (found.map d.absolute) texts)).mapError .read := by
  rw [result_project, h]
  change (graphOfPaths codecs d found s.maxWorkers s.encoding).result.mapError _ = _
  rw [graphOfPaths_eq, loadAll_eq, result_graphOfReading]

/-- What stops a search is a reason for which there is no graph. -/
lemma isReasonFor_of_modelFiles {f : SearchFault}
    (h : Search.modelFiles d root s.candidateGlobs s.excludeDirs = .error f) :
    IsReasonFor codecs d root s (.search f) := by
  by_cases hroot : d.isDirectory root = true
  · have hends := Search.yields_modelFiles_of_isDirectory hroot s.candidateGlobs s.excludeDirs
    rw [h] at hends
    rcases hends with ⟨path, rfl, hlong⟩ | ⟨pattern, hmem, g, hg, rfl⟩
    · exact ⟨path, rfl, hlong⟩
    · exact ⟨pattern, hmem, hg⟩
  · rw [Search.modelFiles, if_neg hroot] at h
    cases h
    exact ⟨by simpa using hroot, rfl⟩

/-- The paths that are found hold no NUL. -/
lemma hasNul_absolute_of_modelFiles {patterns excluded : List Text}
    (h : Search.modelFiles d root patterns excluded = .ok found) :
    ∀ path ∈ found.map d.absolute, Disk.hasNul path = false := by
  have hroot : d.isDirectory root = true := by
    by_contra hroot
    rw [Search.modelFiles, if_neg hroot] at h
    cases h
  have hends := Search.yields_modelFiles_of_isDirectory hroot patterns excluded
  rw [h] at hends
  intro path hpath
  obtain ⟨p, hp, rfl⟩ := List.mem_map.mp hpath
  obtain ⟨habsolute, hnul⟩ := hends p hp
  exact Disk.hasNul_absolute habsolute hnul

/-- Every fault of a scan has one of the reasons. -/
lemma isReasonFor_of_project {f : ScanFault} (h : (project codecs d root s).result = .error f) :
    IsReasonFor codecs d root s f := by
  cases hfound : Search.modelFiles d root s.candidateGlobs s.excludeDirs with
  | error g =>
    rw [result_project_of_error hfound] at h
    cases h
    exact isReasonFor_of_modelFiles hfound
  | ok found =>
    rw [result_project_of_ok hfound] at h
    cases hload : (loadInTurn codecs d s.encoding (found.map d.absolute)).result with
    | ok texts =>
      rw [hload] at h
      cases h
    | error g =>
      rw [hload] at h
      cases h
      obtain ⟨before, path, after, hpaths, -, hread, hother⟩ :=
        result_loadInTurn_eq_error_iff.mp hload
      have hnul := hasNul_absolute_of_modelFiles hfound path (by simp [hpaths])
      rcases read_fault hnul hread with ⟨p, why, rfl⟩ | ⟨hencoding, rfl⟩ |
        ⟨bytes, hbytes, ⟨hnone, rfl⟩ | ⟨codec, f, hcodec, hfailed, rfl⟩⟩
      · exact absurd rfl (hother p why)
      · exact hencoding
      · exact ⟨hnone, rfl⟩
      · exact ⟨codec, path, bytes, hcodec, hbytes, hfailed⟩

/-- There is a graph of the files that are found when each of them can be asked for. -/
lemma exists_project_iff
    (h : Search.modelFiles d root s.candidateGlobs s.excludeDirs = .ok found) :
    (∃ g, (project codecs d root s).result = .ok g) ↔
      ∀ path ∈ found, CanBeAskedFor codecs d s.encoding (d.absolute path) := by
  have hasked : IsAskedFor codecs d s.encoding (found.map d.absolute) ↔ _ :=
    isAskedFor_iff (hasNul_absolute_of_modelFiles h)
  rw [List.forall_mem_map] at hasked
  rw [result_project_of_ok h, ← hasked]
  constructor
  · rintro ⟨g, hg⟩
    cases hload : (loadInTurn codecs d s.encoding (found.map d.absolute)).result with
    | error f =>
      rw [hload] at hg
      cases hg
    | ok texts => exact isAskedFor_of_result_loadInTurn hload
  · intro hall
    rw [result_loadInTurn hall]
    exact ⟨_, rfl⟩

/-- How a scan ends: every fault has one of the reasons, a missing root is told as such, and there
is a graph when the search comes to an end and each file that is found can be asked for.  A single
pattern that makes no sense is enough for there to be none. -/
theorem project_outcome (codecs : Codecs) (d : Disk) (root : Text) (s : Settings) :
    let result := (project codecs d root s).result
    (∀ f, result = .error f → IsReasonFor codecs d root s f) ∧
    (result = .error (.search (.noRoot root)) ↔ d.isDirectory root = false) ∧
    ((∃ g, result = .ok g) ↔
      ∃ found, Search.modelFiles d root s.candidateGlobs s.excludeDirs = .ok found ∧
        ∀ path ∈ found, CanBeAskedFor codecs d s.encoding (d.absolute path)) ∧
    ∀ pattern ∈ s.candidateGlobs, ∀ f, Pattern.ofText pattern = .error f →
      ∀ g, result ≠ .ok g := by
  intro result
  have hgraph : (∃ g, result = .ok g) ↔
      ∃ found, Search.modelFiles d root s.candidateGlobs s.excludeDirs = .ok found ∧
        ∀ path ∈ found, CanBeAskedFor codecs d s.encoding (d.absolute path) := by
    cases hfound : Search.modelFiles d root s.candidateGlobs s.excludeDirs with
    | error f => simp [result, result_project_of_error hfound]
    | ok found => simpa using exists_project_iff hfound
  refine ⟨fun f => isReasonFor_of_project, ⟨fun h => (isReasonFor_of_project h).1, fun hroot => ?_⟩,
    hgraph, ?_⟩
  · exact result_project_of_error (by rw [Search.modelFiles, if_neg (by simp [hroot])])
  · intro pattern hmem f hbad g hg
    obtain ⟨found, hfound, -⟩ := hgraph.mp ⟨g, hg⟩
    exact Search.not_modelFiles_of_badPattern hmem hbad _ _ hfound

/-- Not every project below a directory has a graph: the encoding of its files may be one that there
is not, and its pattern may be empty. -/
theorem not_project_unknownEncoding :
    twiceDeclared.isDirectory "/".toList = true ∧
    (project Codecs.standard twiceDeclared "/".toList
      { rootFilesOnly with encoding := "no-such-codec".toList }).result =
        .error (.read (.unknownEncoding "no-such-codec".toList)) ∧
    (project Codecs.standard twiceDeclared "/".toList
      { rootFilesOnly with candidateGlobs := [[]] }).result =
        .error (.search (.badPattern .empty)) := by
  refine ⟨by decide +kernel, by decide +kernel, by decide +kernel⟩

end RelationAtlas.Scan
