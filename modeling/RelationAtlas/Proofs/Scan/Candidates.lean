import Mathlib.Algebra.BigOperators.Group.List.Basic
import Mathlib.Algebra.GroupWithZero.Nat
import Mathlib.Control.Monad.Basic
import Mathlib.Data.List.Perm.Basic
import RelationAtlas.Proofs.Discovery.Soundness
import RelationAtlas.Proofs.Graph.Assembly
import RelationAtlas.Proofs.Scan.Reading

/-!
# The graph of the files that are found

The graph of a project is told by the files that the search finds (`IsGraphOf`): it has the classes
that one of them declares, each with the least path among those that declare it, and the relationships
that all of them declare for it.  The files come in the order of their paths, so the first one that
declares a class is the least.

Neither the order of the patterns nor the number of workers makes a difference
(`project_isGraphOf`), and a project whose patterns make sense and whose files can be asked for in its
encoding has a graph as soon as the search comes to an end.  It does not when a name or a path is too
long (`not_project_overlongName`).
-/

namespace RelationAtlas.Scan

open RelationAtlas.Graph

variable {codecs : Codecs} {d : Disk} {encoding : Text} {candidates : List Text}

/-! ## What the file at a path says -/

/-- The class that the file at a path declares, if the file can be read. -/
def classAt? (codecs : Codecs) (d : Disk) (encoding path : Text) : Option Text := do
  let text ← (d.read codecs path encoding).toOption
  let identity ← (Declaration.identity text).toOption
  return identity.qualified

/-- The number of relationships that the file at a path declares, if the file can be read. -/
def relationshipsAt (codecs : Codecs) (d : Disk) (encoding path : Text) : Nat :=
  match d.read codecs path encoding with
  | .ok text => (Relationship.ofText text).length
  | .error _ => 0

/-- A graph tells what the files at the given paths declare. -/
structure IsGraphOf (codecs : Codecs) (d : Disk) (encoding : Text) (candidates : List Text)
    (g : Graph) : Prop where
  nodup_nodeIds : g.nodeIds.Nodup
  mem_nodeIds : ∀ id, id ∈ g.nodeIds ↔ ∃ path ∈ candidates, classAt? codecs d encoding path = some id
  declares_path : ∀ n ∈ g.nodes, n.path ∈ candidates ∧ classAt? codecs d encoding n.path = some n.id
  not_lt_path : ∀ n ∈ g.nodes, ∀ path ∈ candidates, classAt? codecs d encoding path = some n.id →
    ¬ path < n.path
  length_edges : ∀ id, (g.edges.filter fun e => e.source = id).length =
    ((candidates.filter fun path => classAt? codecs d encoding path = some id).map
      (relationshipsAt codecs d encoding)).sum

/-- The class at a path is the class of a file that can be read. -/
lemma classAt?_eq_some_iff {path id : Text} : classAt? codecs d encoding path = some id ↔
    ∃ text, d.read codecs path encoding = .ok text ∧ SourceFile.Declares ⟨path, text⟩ id := by
  unfold classAt? SourceFile.Declares
  cases d.read codecs path encoding with
  | error f => simp [Except.toOption]
  | ok text =>
    simp only [Except.toOption, Contribution.ofFile_eq_ok_iff]
    cases hidentity : Declaration.identity text with
    | error f => simp [hidentity]
    | ok c => simp [hidentity, Contribution.ofClass]

/-- The files that can be read and declare a class are at the paths with a class. -/
lemma exists_declares_iff {id : Text} :
    (∃ file ∈ filesAt codecs d encoding candidates, file.Declares id) ↔
      ∃ path ∈ candidates, classAt? codecs d encoding path = some id := by
  constructor
  · rintro ⟨file, hfile, hdeclares⟩
    obtain ⟨hpath, hread⟩ := mem_filesAt.mp hfile
    exact ⟨file.path, hpath, classAt?_eq_some_iff.mpr ⟨file.text, hread, hdeclares⟩⟩
  · rintro ⟨path, hpath, hclass⟩
    obtain ⟨text, hread, hdeclares⟩ := classAt?_eq_some_iff.mp hclass
    exact ⟨⟨path, text⟩, mem_filesAt.mpr ⟨hpath, hread⟩, hdeclares⟩

/-! ## Nodes -/

/-- Files are read in the order of their paths. -/
lemma pairwise_filesAt (codecs : Codecs) (d : Disk) (encoding : Text)
    (h : candidates.Pairwise (· < ·)) : (filesAt codecs d encoding candidates).Pairwise fun file file' => file.path < file'.path := by
  refine h.filterMap _ fun path path' hlt file hfile file' hfile' => ?_
  obtain ⟨t, -, rfl⟩ := Option.map_eq_some_iff.mp hfile
  obtain ⟨t', -, rfl⟩ := Option.map_eq_some_iff.mp hfile'
  exact hlt

/-- A node has the least path among those whose files declare its class. -/
lemma not_lt_path_of_mem_nodes (hsorted : candidates.Pairwise (· < ·)) {n : ModelNode}
    (hn : n ∈ (ofFiles (filesAt codecs d encoding candidates)).nodes) :
    (n.path ∈ candidates ∧ classAt? codecs d encoding n.path = some n.id) ∧
      ∀ path ∈ candidates, classAt? codecs d encoding path = some n.id → ¬ path < n.path := by
  obtain ⟨before, file, after, hfiles, ⟨c, hc, rfl⟩, hfirst⟩ := node_of_first_of_mem hn
  have hmem : file ∈ filesAt codecs d encoding candidates := by simp [hfiles]
  obtain ⟨hpath, hread⟩ := mem_filesAt.mp hmem
  have hnode : c.node.path = file.path := by
    obtain ⟨identity, -, rfl⟩ := Contribution.ofFile_eq_ok_iff.mp hc
    rfl
  rw [hnode]
  refine ⟨⟨hpath, classAt?_eq_some_iff.mpr ⟨file.text, hread, c, hc, rfl⟩⟩, ?_⟩
  intro path hcandidate hclass
  obtain ⟨text, hread', hdeclares⟩ := classAt?_eq_some_iff.mp hclass
  have hother : (⟨path, text⟩ : SourceFile) ∈ before ++ file :: after :=
    hfiles ▸ mem_filesAt.mpr ⟨hcandidate, hread'⟩
  have hpairwise := pairwise_filesAt codecs d encoding hsorted
  rw [hfiles] at hpairwise
  rcases List.mem_append.mp hother with hbefore | hrest
  · exact absurd hdeclares (hfirst _ hbefore)
  rcases List.mem_cons.mp hrest with heq | hafter
  · rw [← heq]
    exact List.lt_irrefl path
  · have hlt := (List.pairwise_cons.mp (List.pairwise_append.mp hpairwise).2.1).1 _ hafter
    exact List.lt_asymm hlt

/-! ## Edges -/

/-- The edges of a contribution all start at its class, and there is one for each relationship. -/
lemma length_filter_edges {file : SourceFile} {c : Contribution} (h : Contribution.ofFile file = .ok c)
    (id : Text) : (c.edges.filter fun e => e.source = id).length =
      if c.node.id = id then (Relationship.ofText file.text).length else 0 := by
  have hsource : ∀ e ∈ c.edges, e.source = c.node.id :=
    fun e he => Contribution.source_of_mem_edges h he
  split
  · next hid =>
    rw [List.filter_eq_self.mpr (by simpa [hid] using hsource)]
    obtain ⟨identity, -, rfl⟩ := Contribution.ofFile_eq_ok_iff.mp h
    simp [Contribution.ofClass]
  · next hid =>
    have hnone : c.edges.filter (fun e => e.source = id) = [] := by
      refine List.filter_eq_nil_iff.mpr fun e he => ?_
      simpa [hsource e he] using hid
    rw [hnone, List.length_nil]

/-- What the first file adds to the edges that start at a class. -/
lemma length_filter_edges_cons (id path : Text) (candidates : List Text) :
    ((contributions (filesAt codecs d encoding (path :: candidates))).flatMap (·.edges) |>.filter
      fun e => e.source = id).length =
      (if classAt? codecs d encoding path = some id then relationshipsAt codecs d encoding path
        else 0) +
        ((contributions (filesAt codecs d encoding candidates)).flatMap (·.edges) |>.filter
          fun e => e.source = id).length := by
  rw [filesAt, List.filterMap_cons]
  cases hread : d.read codecs path encoding with
  | error f => simp [Except.toOption, classAt?, hread, filesAt]
  | ok text =>
    simp only [Except.toOption, Option.map_some]
    rw [contributions, List.filterMap_cons]
    cases hfile : Contribution.ofFile ⟨path, text⟩ with
    | error f =>
      have hclass : classAt? codecs d encoding path ≠ some id := by
        intro hclass
        obtain ⟨text', hread', c, hc, -⟩ := classAt?_eq_some_iff.mp hclass
        rw [hread] at hread'
        cases hread'
        rw [hfile] at hc
        cases hc
      rw [if_neg hclass]
      simp [Except.toOption, contributions, filesAt]
    | ok c =>
      have hclass : classAt? codecs d encoding path = some id ↔ c.node.id = id := by
        rw [classAt?_eq_some_iff]
        constructor
        · rintro ⟨text', hread', c', hc', rfl⟩
          rw [hread] at hread'
          cases hread'
          rw [hfile] at hc'
          cases hc'
          rfl
        · intro hid
          exact ⟨text, hread, c, hfile, hid⟩
      simp only [Except.toOption, List.flatMap_cons, List.filter_append, List.length_append,
        length_filter_edges hfile, hclass, relationshipsAt, hread]
      rfl

/-- The edges that start at a class are as many as the relationships of the files that declare it. -/
lemma length_filter_edges_ofFiles (id : Text) :
    ((ofFiles (filesAt codecs d encoding candidates)).edges.filter fun e => e.source = id).length =
      ((candidates.filter fun path => classAt? codecs d encoding path = some id).map
        (relationshipsAt codecs d encoding)).sum := by
  rw [(isAssemblyOf_ofFiles _).edges_eq]
  induction candidates with
  | nil => rfl
  | cons path candidates ih =>
    rw [length_filter_edges_cons, ih, List.filter_cons]
    by_cases hclass : classAt? codecs d encoding path = some id
    · simp [hclass]
    · simp [hclass]

/-- The graph of the files at sorted paths tells what they declare. -/
lemma isGraphOf_filesAt (hsorted : candidates.Pairwise (· < ·)) :
    IsGraphOf codecs d encoding candidates (ofFiles (filesAt codecs d encoding candidates)) where
  nodup_nodeIds := (isAssemblyOf_ofFiles _).nodup_nodeIds
  mem_nodeIds := fun _ => mem_nodeIds_ofFiles.trans exists_declares_iff
  declares_path := fun _ hn => (not_lt_path_of_mem_nodes hsorted hn).1
  not_lt_path := fun _ hn => (not_lt_path_of_mem_nodes hsorted hn).2
  length_edges := length_filter_edges_ofFiles

/-! ## Projects -/

/-- A text that a search can use as a pattern, and that does not go up. -/
structure IsSearchable (pattern : Text) : Prop where
  isPattern : ∃ p, Pattern.ofText pattern = .ok p
  up_notMem : Path.up ∉ Path.names pattern

/-- A search by patterns that make sense fails only where something is too long. -/
lemma yields_modelFiles_of_isSearchable {root : Text} (hroot : d.isDirectory root = true)
    {patterns : List Text} (hpatterns : ∀ pattern ∈ patterns, IsSearchable pattern)
    (excluded : List Text) :
    Search.Yields (Search.modelFiles d root patterns excluded)
      (fun found => ∀ x ∈ found, Search.IsPathToFile d x)
      (Search.IsLengthFault d (patterns.flatMap Pattern.components)) := by
  have hup : ∀ pattern ∈ patterns, Path.up ∉ Path.names pattern :=
    fun pattern hmem => (hpatterns pattern hmem).up_notMem
  have hfound := Search.yields_modelFiles hroot hup excluded
  refine (hfound.mono fun found hx x hmem => ?_).mono_fault ?_
  · obtain ⟨-, -, names, hnames, -, hfound⟩ := hx x hmem
    exact hfound.isPathToFile hroot hnames
  · rintro f (hlong | ⟨pattern, hmem, g, hg, -⟩)
    · exact hlong
    · obtain ⟨p, hp⟩ := (hpatterns pattern hmem).isPattern
      rw [hp] at hg
      cases hg

/-- The files that are found come in the order of their paths. -/
lemma pairwise_modelFiles {root : Text} {patterns excluded found : List Text}
    (h : Search.modelFiles d root patterns excluded = .ok found) : found.Pairwise (· < ·) := by
  unfold Search.modelFiles at h
  split at h
  · cases hcollect : Search.collect patterns (Search.filesOf d (d.absolute root) excluded) with
    | error f =>
      rw [hcollect] at h
      cases h
    | ok ys =>
      rw [hcollect] at h
      obtain rfl := Except.ok.inj h
      exact Text.pairwise_sorted ys
  · cases h

/-- The order of the patterns makes no difference for what is found. -/
lemma modelFiles_perm {root : Text} {patterns patterns' excluded found : List Text}
    (hperm : patterns.Perm patterns') (h : Search.modelFiles d root patterns excluded = .ok found) :
    Search.modelFiles d root patterns' excluded = .ok found := by
  unfold Search.modelFiles at h ⊢
  split at h
  · next hroot =>
    rw [if_pos hroot]
    exact Search.map_sorted_collect_perm hperm h
  · cases h

/-- Below a directory, with patterns that make sense, a project has the graph of the files that the
search finds, in whatever order the patterns come and however many files are read at a time, if each of
them can be asked for; and if the search is stopped, because a name or a path is too long, then so is
the project. -/
theorem project_isGraphOf (codecs : Codecs) {root : Text} {s : Settings}
    (hroot : d.isDirectory root = true)
    (hpatterns : ∀ pattern ∈ s.candidateGlobs, IsSearchable pattern) :
    (∀ candidates, Search.modelFiles d root s.candidateGlobs s.excludeDirs = .ok candidates →
      (∀ path ∈ candidates, CanBeAskedFor codecs d s.encoding path) →
      ∃ g, IsGraphOf codecs d s.encoding candidates g ∧
        ∀ patterns workers, patterns.Perm s.candidateGlobs →
          (project codecs d root { s with candidateGlobs := patterns, maxWorkers := workers }).result =
            .ok g) ∧
    (∀ f, Search.modelFiles d root s.candidateGlobs s.excludeDirs = .error f →
      (project codecs d root s).result = .error (.search f) ∧
        ∀ patterns workers, patterns.Perm s.candidateGlobs → ∃ f',
          (project codecs d root { s with candidateGlobs := patterns, maxWorkers := workers }).result =
            .error (.search f') ∧
          Search.IsLengthFault d (s.candidateGlobs.flatMap Pattern.components) f') := by
  have hyields := yields_modelFiles_of_isSearchable hroot hpatterns s.excludeDirs
  constructor
  · intro candidates hcandidates hcan
    rw [hcandidates] at hyields
    have hpaths : ∀ path ∈ candidates, Search.IsPathToFile d path := hyields
    have hasked : IsAskedFor codecs d s.encoding candidates :=
      (isAskedFor_iff fun path hpath => (hpaths path hpath).noNul).mpr hcan
    have habsolute : ∀ path ∈ candidates, d.absolute path = path :=
      fun path hpath => (hpaths path hpath).absolute_eq
    refine ⟨_, isGraphOf_filesAt (pairwise_modelFiles hcandidates), ?_⟩
    intro patterns workers hperm
    have hfound := modelFiles_perm hperm.symm hcandidates
    rw [result_project]
    simp only [hfound]
    rw [result_graphOfPaths habsolute hasked]
    rfl
  · intro f hfault
    refine ⟨by rw [result_project, hfault], ?_⟩
    intro patterns workers hperm
    have hpatterns' : ∀ pattern ∈ patterns, IsSearchable pattern :=
      fun pattern hmem => hpatterns pattern (hperm.mem_iff.mp hmem)
    have hyields' := yields_modelFiles_of_isSearchable hroot hpatterns' s.excludeDirs
    rw [result_project]
    cases hsearch : Search.modelFiles d root patterns s.excludeDirs with
    | ok found =>
      rw [modelFiles_perm hperm hsearch] at hfault
      cases hfault
    | error f' =>
      rw [hsearch] at hyields'
      refine ⟨f', rfl, hyields'.of_subset fun c hc => ?_⟩
      exact (hperm.flatMap_right _).mem_iff.mp hc

/-- A disk with two files in its root that declare the same class, each with one relationship. -/
def twiceDeclared : Disk where
  tree :=
    let text := "<?php\nnamespace App;\nclass User \x7b public function posts() ".toList ++
      "\x7b return $this->hasMany(Post::class); \x7d \x7d".toList
    (FileTree.empty.put ["b.php".toList] (.file (Utf8.encode text)) (by decide +kernel)).put
      ["a.php".toList] (.file (Utf8.encode text)) (by decide +kernel)
  cwd := []
  looksBehindLinks := false

/-- Settings that look for the files in the root. -/
def rootFilesOnly : Settings := { Settings.default with candidateGlobs := ["*.php".toList] }

/-- A class that is declared twice has the node of the first file and the edges of both. -/
theorem project_twiceDeclared :
    (twiceDeclared.isDirectory "/".toList = true ∧
      ∀ pattern ∈ rootFilesOnly.candidateGlobs, IsSearchable pattern) ∧
    (Search.modelFiles twiceDeclared "/".toList rootFilesOnly.candidateGlobs
      rootFilesOnly.excludeDirs = .ok ["/a.php".toList, "/b.php".toList] ∧
      ∀ path ∈ ["/a.php".toList, "/b.php".toList],
        CanBeAskedFor Codecs.standard twiceDeclared rootFilesOnly.encoding path) ∧
    ∃ g, IsGraphOf Codecs.standard twiceDeclared rootFilesOnly.encoding
        ["/a.php".toList, "/b.php".toList] g ∧
      g.nodes = [⟨"App\\User".toList, "User".toList, "/a.php".toList⟩] ∧ g.edges.length = 2 ∧
      (project Codecs.standard twiceDeclared "/".toList
        { rootFilesOnly with maxWorkers := some 4 }).result = .ok g := by
  have hroot : twiceDeclared.isDirectory "/".toList = true := by decide +kernel
  have hpatterns : ∀ pattern ∈ rootFilesOnly.candidateGlobs, IsSearchable pattern := by
    intro pattern hpattern
    obtain rfl := List.mem_singleton.mp hpattern
    exact ⟨⟨[.wild (Wildcard.pieces "*.php".toList)], by decide +kernel⟩, by decide +kernel⟩
  have hcan : ∀ path ∈ ["/a.php".toList, "/b.php".toList],
      CanBeAskedFor Codecs.standard twiceDeclared rootFilesOnly.encoding path :=
    fun path _ => canBeAskedFor_utf8 _ _ path
  have hfound : Search.modelFiles twiceDeclared "/".toList rootFilesOnly.candidateGlobs
      rootFilesOnly.excludeDirs = .ok ["/a.php".toList, "/b.php".toList] := by
    decide +kernel
  obtain ⟨g, hg, hproject⟩ := (project_isGraphOf Codecs.standard hroot hpatterns).1 _ hfound hcan
  have hresult := hproject rootFilesOnly.candidateGlobs (some 4) (List.Perm.refl _)
  have hgraph : ((project Codecs.standard twiceDeclared "/".toList
      { rootFilesOnly with maxWorkers := some 4 }).result.map
        fun g => (g.nodes, g.edges.length)) =
      .ok ([⟨"App\\User".toList, "User".toList, "/a.php".toList⟩], 2) := by
    decide +kernel
  rw [hresult] at hgraph
  obtain ⟨hnodes, hedges⟩ := Prod.mk.inj (Except.ok.inj hgraph)
  exact ⟨⟨hroot, hpatterns⟩, ⟨hfound, hcan⟩, g, hg, hnodes, hedges, hresult⟩

/-- Settings whose pattern is a name that is too long. -/
def overlongName : Settings :=
  { Settings.default with candidateGlobs := [List.replicate 256 'a'] }

/-- Not every project has a graph, although its patterns and its encoding make sense. -/
theorem not_project_overlongName :
    (twiceDeclared.isDirectory "/".toList = true ∧
      (∀ pattern ∈ overlongName.candidateGlobs, IsSearchable pattern) ∧
      overlongName.encoding = "utf-8".toList) ∧
    ¬ ∃ g, (project Codecs.standard twiceDeclared "/".toList overlongName).result = .ok g := by
  have hpatterns : ∀ pattern ∈ overlongName.candidateGlobs, IsSearchable pattern := by
    intro pattern hpattern
    rw [List.mem_singleton.mp hpattern]
    exact ⟨⟨[.name (List.replicate 256 'a')], by decide +kernel⟩, by decide +kernel⟩
  refine ⟨⟨by decide +kernel, hpatterns, rfl⟩, ?_⟩
  rintro ⟨g, hg⟩
  have hfault :
      (project Codecs.standard twiceDeclared "/".toList overlongName).result.isOk = false := by
    decide +kernel
  rw [hg] at hfault
  cases hfault

end RelationAtlas.Scan
