import Mathlib.Logic.Basic
import Mathlib.Tactic.Lemma
import RelationAtlas.Scan

/-!
# Reading the files of a scan

Reading many files comes to the files that can be read, in the order of their paths (`filesAt`), or
stops at a request that makes no sense.  How many files are read at a time makes no difference
(`loadAll_eq`), and neither does the disk as long as the files are the same (`graphOfPaths_congr`).
-/

namespace RelationAtlas.Scan

variable {codecs : Codecs} {d : Disk} {encoding : Text} {paths : List Text}

/-- The files at the given paths that can be read, with their texts. -/
def filesAt (codecs : Codecs) (d : Disk) (encoding : Text) (paths : List Text) : List SourceFile :=
  paths.filterMap fun path => (d.read codecs path encoding).toOption.map fun t => ⟨path, t⟩

/-- Each of the files can be read or is passed over. -/
def IsAskedFor (codecs : Codecs) (d : Disk) (encoding : Text) (paths : List Text) : Prop :=
  ∀ path ∈ paths, ∀ f, d.read codecs path encoding = .error f → ∃ p why, f = .unreadable p why

/-- A result that is kept was there. -/
lemma eq_ok_of_toOption {ε α : Type} {r : Except ε α} {a : α} (h : r.toOption = some a) :
    r = .ok a := by
  cases r with
  | error e => cases h
  | ok b =>
    obtain rfl := Option.some.inj h
    rfl

/-- Why a file whose path holds no NUL is not read. -/
lemma read_fault {path : Text} {f : ReadFault} (hpath : Disk.hasNul path = false)
    (h : d.read codecs path encoding = .error f) :
    (∃ p why, f = .unreadable p why) ∨ ('\x00' ∈ encoding ∧ f = .nulInEncoding) ∨
      ∃ bytes, d.bytes path = .ok bytes ∧
        ((codecs.codec? encoding = none ∧ f = .unknownEncoding encoding) ∨
          ∃ codec g, codecs.codec? encoding = some codec ∧ codec bytes = .error (.failed g) ∧
            f = .codecFailed g) := by
  unfold Disk.read at h
  split at h
  · next hnul =>
    cases h
    exact Or.inr (Or.inl ⟨by simpa using hnul, rfl⟩)
  rw [if_neg (by simp [hpath])] at h
  cases hbytes : d.bytes path with
  | error g =>
    rw [hbytes] at h
    cases h
    exact Or.inl ⟨_, _, rfl⟩
  | ok bytes =>
    cases hcodec : codecs.codec? encoding with
    | none =>
      simp only [hbytes, hcodec] at h
      cases h
      exact Or.inr (Or.inr ⟨bytes, rfl, Or.inl ⟨rfl, rfl⟩⟩)
    | some codec =>
      simp only [hbytes, hcodec] at h
      split at h
      · cases h
        exact Or.inl ⟨_, _, rfl⟩
      · next g hfailed =>
        cases h
        exact Or.inr (Or.inr ⟨bytes, rfl, Or.inr ⟨codec, g, rfl, hfailed, rfl⟩⟩)
      · cases h

/-- A file can be asked for in an encoding: if the file can be opened, then the encoding is known and
its codec does not fail in a way of its own. -/
def CanBeAskedFor (codecs : Codecs) (d : Disk) (encoding path : Text) : Prop :=
  '\x00' ∉ encoding ∧ ∀ bytes, d.bytes path = .ok bytes →
    ∃ codec, codecs.codec? encoding = some codec ∧ ∀ f, codec bytes ≠ .error (.failed f)

/-- UTF-8 is known everywhere, and it fails only over the bytes. -/
lemma canBeAskedFor_utf8 (codecs : Codecs) (d : Disk) (path : Text) :
    CanBeAskedFor codecs d "utf-8".toList path := by
  refine ⟨by decide, fun bytes _ => ⟨_, codecs.knowsUtf8, fun f hfailed => ?_⟩⟩
  rw [Codec.utf8, Codec.ofDecoder] at hfailed
  cases hdecode : Utf8.decode bytes with
  | ok t =>
    rw [hdecode] at hfailed
    cases hfailed
  | error g =>
    rw [hdecode] at hfailed
    cases hfailed

/-- When files whose paths hold no NUL are asked for in a way that makes sense. -/
lemma isAskedFor_iff (hpaths : ∀ path ∈ paths, Disk.hasNul path = false) :
    IsAskedFor codecs d encoding paths ↔ ∀ path ∈ paths, CanBeAskedFor codecs d encoding path := by
  constructor
  · intro h path hmem
    have hread := h path hmem
    unfold Disk.read at hread
    by_cases hnul : '\x00' ∈ encoding
    · rw [if_pos (by simpa using hnul)] at hread
      obtain ⟨p, why, hf⟩ := hread _ rfl
      cases hf
    refine ⟨hnul, fun bytes hbytes => ?_⟩
    rw [if_neg (by simpa using hnul), if_neg (by simp [hpaths path hmem])] at hread
    cases hcodec : codecs.codec? encoding with
    | none =>
      simp only [hbytes, hcodec] at hread
      obtain ⟨p, why, hf⟩ := hread _ rfl
      cases hf
    | some codec =>
      refine ⟨codec, rfl, fun f hfailed => ?_⟩
      simp only [hbytes, hcodec, hfailed] at hread
      obtain ⟨p, why, hf⟩ := hread _ rfl
      cases hf
  · intro h path hmem f hread
    obtain ⟨hnul, hopen⟩ := h path hmem
    rcases read_fault (hpaths path hmem) hread with hunreadable | ⟨hnul', -⟩ | ⟨bytes, hbytes, hfault⟩
    · exact hunreadable
    · exact absurd hnul' hnul
    obtain ⟨codec, hcodec, hsound⟩ := hopen bytes hbytes
    rcases hfault with ⟨hnone, -⟩ | ⟨codec', g, hcodec', hfailed, -⟩
    · rw [hcodec] at hnone
      cases hnone
    · obtain rfl := Option.some.inj (hcodec.symm.trans hcodec')
      exact absurd hfailed (hsound g)

lemma mem_filesAt {file : SourceFile} :
    file ∈ filesAt codecs d encoding paths ↔
      file.path ∈ paths ∧ d.read codecs file.path encoding = .ok file.text := by
  rw [filesAt, List.mem_filterMap]
  constructor
  · rintro ⟨path, hpath, hfile⟩
    obtain ⟨t, ht, rfl⟩ := Option.map_eq_some_iff.mp hfile
    exact ⟨hpath, eq_ok_of_toOption ht⟩
  · rintro ⟨hpath, hread⟩
    refine ⟨file.path, hpath, ?_⟩
    rw [hread]
    rfl

/-! ## Reading -/

/-- How many files are read at a time makes no difference. -/
lemma loadAll_eq (d : Disk) (workers : Option Int) (encoding : Text) (paths : List Text) :
    loadAll codecs d workers encoding paths = loadInTurn codecs d encoding paths := by
  rw [loadAll, loadTogether_eq]
  split <;> rfl

/-- What one file contributes to the texts that are read. -/
lemma result_load (codecs : Codecs) (d : Disk) (encoding path : Text) :
    (load codecs d encoding path).result = .ok (d.read codecs path encoding).toOption ∨
      ∃ f, (load codecs d encoding path).result = .error f ∧ d.read codecs path encoding = .error f ∧
        ∀ p why, f ≠ .unreadable p why := by
  unfold load
  cases hread : d.read codecs path encoding with
  | ok t => exact Or.inl rfl
  | error f =>
    cases f with
    | unreadable p why => exact Or.inl rfl
    | nulInPath => exact Or.inr ⟨_, rfl, rfl, by simp⟩
    | nulInEncoding => exact Or.inr ⟨_, rfl, rfl, by simp⟩
    | unknownEncoding name => exact Or.inr ⟨_, rfl, rfl, by simp⟩
    | codecFailed f => exact Or.inr ⟨_, rfl, rfl, by simp⟩

/-- Reading stops at a file that cannot be asked for. -/
lemma result_load_eq_error_iff {path : Text} {f : ReadFault} :
    (load codecs d encoding path).result = .error f ↔
      d.read codecs path encoding = .error f ∧ ∀ p why, f ≠ .unreadable p why := by
  unfold load
  cases hread : d.read codecs path encoding with
  | ok t => simp
  | error g => cases g <;> simp <;> rintro rfl <;> simp

/-- Files are asked for in a way that makes sense when the first one is, and the others are. -/
lemma isAskedFor_cons_iff {path : Text} : IsAskedFor codecs d encoding (path :: paths) ↔
    (∀ f, (load codecs d encoding path).result ≠ .error f) ∧ IsAskedFor codecs d encoding paths := by
  rw [IsAskedFor, List.forall_mem_cons]
  refine and_congr_left fun _ => forall_congr' fun f => ?_
  rw [Ne, result_load_eq_error_iff, not_and]
  refine imp_congr_right fun _ => ?_
  simp only [ne_eq, not_forall, not_not]

/-- What is read of the first file and of the others. -/
lemma result_loadInTurn_cons (path : Text) (paths : List Text) :
    (loadInTurn codecs d encoding (path :: paths)).result =
      (load codecs d encoding path).result.bind fun t =>
        (loadInTurn codecs d encoding paths).result.map (t :: ·) := by
  rw [loadInTurn, Report.result_bind]
  cases (load codecs d encoding path).result with
  | error f => rfl
  | ok t =>
    change (loadInTurn codecs d encoding paths >>= fun ts => pure (t :: ts)).result = _
    rw [Report.result_bind]
    cases (loadInTurn codecs d encoding paths).result <;> rfl

/-- What is read of some files and of others after them. -/
lemma result_loadInTurn_append (front rest : List Text) :
    (loadInTurn codecs d encoding (front ++ rest)).result =
      (loadInTurn codecs d encoding front).result.bind fun ts =>
        (loadInTurn codecs d encoding rest).result.map (ts ++ ·) := by
  induction front with
  | nil =>
    rw [List.nil_append]
    cases (loadInTurn codecs d encoding rest).result <;> rfl
  | cons path front ih =>
    rw [List.cons_append, result_loadInTurn_cons, result_loadInTurn_cons, ih]
    cases (load codecs d encoding path).result with
    | error f => rfl
    | ok t =>
      cases (loadInTurn codecs d encoding front).result with
      | error f => rfl
      | ok ts => cases (loadInTurn codecs d encoding rest).result <;> rfl

/-- The remarks made while files are read are those made for each of them. -/
lemma remarks_loadInTurn {texts : List (Option Text)}
    (h : (loadInTurn codecs d encoding paths).result = .ok texts) :
    (loadInTurn codecs d encoding paths).remarks = paths.flatMap fun path => (load codecs d encoding path).remarks := by
  induction paths generalizing texts with
  | nil => rfl
  | cons path paths ih =>
    rw [result_loadInTurn_cons] at h
    cases hload : (load codecs d encoding path).result with
    | error f =>
      rw [hload] at h
      cases h
    | ok t =>
      cases hrest : (loadInTurn codecs d encoding paths).result with
      | error f =>
        rw [hload, hrest] at h
        cases h
      | ok ts =>
        rw [loadInTurn, Report.remarks_bind_of_ok hload, Report.remarks_bind_of_ok hrest, ih hrest,
          List.flatMap_cons]
        exact congrArg _ (List.append_nil _)

/-- The texts that are read are those of the files that can be read. -/
lemma eq_of_result_loadInTurn {texts : List (Option Text)}
    (h : (loadInTurn codecs d encoding paths).result = .ok texts) :
    texts = paths.map fun path => (d.read codecs path encoding).toOption := by
  induction paths generalizing texts with
  | nil => exact (Except.ok.inj h).symm
  | cons path paths ih =>
    rw [result_loadInTurn_cons] at h
    rcases result_load codecs d encoding path with hload | ⟨f, hload, -⟩
    · rw [hload] at h
      cases hrest : (loadInTurn codecs d encoding paths).result with
      | error f =>
        rw [hrest] at h
        cases h
      | ok rest =>
        rw [hrest] at h
        rw [List.map_cons, ← ih hrest]
        exact (Except.ok.inj h).symm
    · rw [hload] at h
      cases h

/-- Files that are asked for in a way that makes sense are all read or passed over. -/
lemma result_loadInTurn (h : IsAskedFor codecs d encoding paths) :
    (loadInTurn codecs d encoding paths).result =
      .ok (paths.map fun path => (d.read codecs path encoding).toOption) := by
  induction paths with
  | nil => rfl
  | cons path paths ih =>
    have hrest := ih fun p hp => h p (by simp [hp])
    rw [result_loadInTurn_cons, hrest]
    rcases result_load codecs d encoding path with hload | ⟨f, -, hread, hne⟩
    · rw [hload]
      rfl
    · obtain ⟨p, why, hf⟩ := h path (by simp) f hread
      exact absurd hf (hne p why)

/-- Files that are all read or passed over are asked for in a way that makes sense. -/
lemma isAskedFor_of_result_loadInTurn {texts : List (Option Text)}
    (h : (loadInTurn codecs d encoding paths).result = .ok texts) :
    IsAskedFor codecs d encoding paths := by
  induction paths generalizing texts with
  | nil => simp [IsAskedFor]
  | cons path paths ih =>
    rw [result_loadInTurn_cons] at h
    cases hload : (load codecs d encoding path).result with
    | error f =>
      rw [hload] at h
      cases h
    | ok t =>
      cases hrest : (loadInTurn codecs d encoding paths).result with
      | error f =>
        rw [hload, hrest] at h
        cases h
      | ok ts => exact isAskedFor_cons_iff.mpr ⟨by simp [hload], ih hrest⟩

lemma readable_map (f : Text → Option Text) (paths : List Text) :
    readable paths (paths.map f) = paths.filterMap fun path => (f path).map fun t => ⟨path, t⟩ := by
  induction paths with
  | nil => rfl
  | cons path paths ih =>
    rw [readable, List.map_cons, List.zip_cons_cons, List.filterMap_cons, List.filterMap_cons,
      ← ih, readable]

/-! ## The graph of files -/

/-- The texts that are read of files that are asked for in a way that makes sense have a graph. -/
lemma map_result_loadInTurn (h : IsAskedFor codecs d encoding paths) :
    (loadInTurn codecs d encoding paths).result.map
        (fun texts => Graph.ofFiles (readable paths texts)) =
      .ok (Graph.ofFiles (filesAt codecs d encoding paths)) := by
  rw [result_loadInTurn h, filesAt, ← readable_map]
  rfl

/-- The graph of some paths is made of the texts that are read, whatever is remarked. -/
lemma result_graphOfPaths_eq (workers : Option Int)
    (habsolute : ∀ path ∈ paths, d.absolute path = path) :
    (graphOfPaths codecs d paths workers encoding).result =
      (loadInTurn codecs d encoding paths).result.map
        fun texts => Graph.ofFiles (readable paths texts) := by
  have hmap : paths.map d.absolute = paths := by simpa using List.map_congr_left habsolute
  rw [graphOfPaths, hmap, loadAll_eq]
  simp only [Report.result_bind]
  cases (loadInTurn codecs d encoding paths).result <;> rfl

/-- The graph of some paths, when one comes out, is that of the files that can be read. -/
lemma eq_of_result_graphOfPaths {workers : Option Int} {g : Graph}
    (habsolute : ∀ path ∈ paths, d.absolute path = path)
    (h : (graphOfPaths codecs d paths workers encoding).result = .ok g) :
    g = Graph.ofFiles (filesAt codecs d encoding paths) := by
  rw [result_graphOfPaths_eq workers habsolute] at h
  cases hload : (loadInTurn codecs d encoding paths).result with
  | error f =>
    rw [hload] at h
    cases h
  | ok texts =>
    have htexts := eq_of_result_loadInTurn hload
    rw [hload, htexts] at h
    rw [filesAt, ← readable_map]
    exact (Except.ok.inj h).symm

/-- Files that are asked for in a way that makes sense have a graph. -/
lemma result_graphOfPaths {workers : Option Int}
    (habsolute : ∀ path ∈ paths, d.absolute path = path) (h : IsAskedFor codecs d encoding paths) :
    (graphOfPaths codecs d paths workers encoding).result =
      .ok (Graph.ofFiles (filesAt codecs d encoding paths)) := by
  rw [result_graphOfPaths_eq workers habsolute, map_result_loadInTurn h]

/-- Files that read alike on two disks have the same graph and the same remarks on both. -/
lemma graphOfPaths_congr {d' : Disk} {workers : Option Int}
    (habsolute : ∀ path ∈ paths, d.absolute path = path ∧ d'.absolute path = path)
    (h : ∀ path ∈ paths, d.read codecs path encoding = d'.read codecs path encoding) :
    graphOfPaths codecs d paths workers encoding = graphOfPaths codecs d' paths workers encoding := by
  have hmap : paths.map d.absolute = paths := by
    simpa using List.map_congr_left fun path hpath => (habsolute path hpath).1
  have hmap' : paths.map d'.absolute = paths := by
    simpa using List.map_congr_left fun path hpath => (habsolute path hpath).2
  have hload : loadInTurn codecs d encoding paths = loadInTurn codecs d' encoding paths := by
    clear hmap hmap' habsolute
    induction paths with
    | nil => rfl
    | cons path paths ih =>
      have hrest := ih fun p hp => h p (by simp [hp])
      rw [loadInTurn, loadInTurn, hrest, load, load, h path (by simp)]
  rw [graphOfPaths, graphOfPaths, hmap, hmap', loadAll_eq, loadAll_eq, hload]

/-! ## Projects -/

/-- The graph of a project is the graph of the files that are found. -/
lemma result_project (d : Disk) (root : Text) (s : Settings) : (project codecs d root s).result =
    match Search.modelFiles d root s.candidateGlobs s.excludeDirs with
    | .error f => .error (.search f)
    | .ok files => (graphOfPaths codecs d files s.maxWorkers s.encoding).result.mapError .read := by
  rw [project, Report.result_bind]
  cases Search.modelFiles d root s.candidateGlobs s.excludeDirs with
  | error f => rfl
  | ok files =>
    change (if files.isEmpty then _ else _ : Report ScanFault Graph).result = _
    split <;> rfl

/-- A search that fails stops the scan. -/
lemma result_project_of_error {root : Text} {s : Settings} {f : SearchFault}
    (h : Search.modelFiles d root s.candidateGlobs s.excludeDirs = .error f) :
    (project codecs d root s).result = .error (.search f) := by
  rw [result_project, h]

end RelationAtlas.Scan
