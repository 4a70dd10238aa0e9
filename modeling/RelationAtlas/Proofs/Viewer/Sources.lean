import RelationAtlas.Proofs.Discovery.Soundness
import RelationAtlas.Proofs.Discovery.WildcardEndings
import RelationAtlas.Proofs.Graph.Assembly
import RelationAtlas.Proofs.Scan.Reading
import RelationAtlas.Viewer

/-!
# Opening what is shown

Whoever is shown the graph of a project can open the file of each node and finds in it the class that
the node stands for (`source_of_mem_nodes`), as long as the patterns only lead to names with the ending
that files to be opened have.

The search and the viewer look at a path in different ways.  They agree because what is found is a
path in absolute form that leads to a file (`Search.IsPathToFile`), whose text was read under the same
settings.
-/

namespace RelationAtlas

namespace Path

/-- The path of something below a directory ends with its last name. -/
lemma suffix_below (base : Text) {names : List Text} {name : Text}
    (h : names.getLast? = some name) : name <:+ below base names := by
  obtain ⟨front, rfl⟩ := List.getLast?_eq_some_iff.mp h
  have hjoin : name <:+ Text.join ['/'] (front ++ [name]) := by
    rw [Text.join_concat]
    exact List.suffix_append _ _
  rw [below, if_neg (by simp)]
  split
  · exact hjoin.trans (List.suffix_append _ _)
  · exact (hjoin.trans (List.suffix_cons _ _)).trans (List.suffix_append _ _)

end Path

namespace Viewer

variable {s : Session} {settings : Settings}

/-- Patterns that do not go up and whose last components have the ending of files to be opened. -/
structure LeadsToSources (pattern : Text) : Prop where
  up_notMem : Path.up ∉ Path.names pattern
  endsWith_getLast : ∀ c, (Pattern.components pattern).getLast? = some c →
    Text.endsWith c sourceSuffix = true

lemma isLiteral_sourceSuffix : Wildcard.IsLiteral sourceSuffix := by decide

/-- What such a pattern covers ends as the name of a file that can be opened. -/
lemma LeadsToSources.endsWith_below {pattern : Text} (h : LeadsToSources pattern) (base : Text)
    {names : List Text} (hne : names ≠ [])
    (hcovers : Pattern.Covers (Pattern.components pattern) names) :
    Text.endsWith (Path.below base names) sourceSuffix = true := by
  have hcomponents : Pattern.components pattern ≠ [] := by
    intro hnil
    rw [hnil, Pattern.covers_nil_iff] at hcovers
    exact hne hcovers
  obtain ⟨front, c, hc⟩ := List.eq_nil_or_concat' _ |>.resolve_left hcomponents
  have hlast : (Pattern.components pattern).getLast? = some c := by simp [hc]
  have hending := h.endsWith_getLast c hlast
  have hstar : c ≠ Pattern.doubleStar := by
    rintro rfl
    cases hending
  obtain ⟨name, hname, hdescribes⟩ := hcovers.describes_getLast hlast hstar
  have hsuffix := Pattern.endsWith_of_describes isLiteral_sourceSuffix hending hdescribes
  exact List.isSuffixOf_iff_suffix.mpr
    ((List.isSuffixOf_iff_suffix.mp hsuffix).trans (Path.suffix_below base hname))

/-- A path in absolute form that leads to a file is a file. -/
lemma isFile_of_isPathToFile {d : Disk} {x : Text} (h : Search.IsPathToFile d x) :
    d.isFile x = true := by
  obtain ⟨l, bytes, hreach⟩ := h.reach
  rw [Disk.isFile, h.noNul, hreach]
  rfl

/-- A file that was read under the settings of a session can be opened in it. -/
lemma source_of_read {path text : Text} (hsettings : s.settings = .ok settings)
    (hfile : s.disk.isFile path = true) (hending : Text.endsWith path sourceSuffix = true)
    (hread : s.disk.read s.codecs path settings.encoding = .ok text) :
    source s path = .ok ⟨path, text, Text.lineCount text⟩ := by
  rw [source, if_neg (by simp [hfile]), if_neg (by simp [hending]), hsettings]
  simp only [Except.mapError, bind, Except.bind]
  rw [hread]

/-- What is shown is the graph of the files that the search found and that can be read. -/
lemma nodes_of_analyze {path : Text} {a : Analysis} (hsettings : s.settings = .ok settings)
    (hup : ∀ pattern ∈ settings.candidateGlobs, Path.up ∉ Path.names pattern)
    (h : analyze s path = .ok a) : ∃ found, s.disk.isDirectory (s.disk.absolute path) = true ∧
      Search.modelFiles s.disk (s.disk.absolute path) settings.candidateGlobs settings.excludeDirs =
        .ok found ∧
      a.graph = (Graph.ofFiles (Scan.filesAt s.codecs s.disk settings.encoding found)).payload := by
  rw [analyze, hsettings] at h
  simp only [Except.mapError, bind, Except.bind] at h
  cases hproject : (Scan.project s.codecs s.disk (s.disk.absolute path) settings).result with
  | error f =>
    rw [hproject] at h
    cases f with
    | read f => cases h
    | search f => cases f <;> cases h
  | ok g =>
    rw [hproject] at h
    obtain rfl := Except.ok.inj h
    rw [Scan.result_project] at hproject
    cases hfound : Search.modelFiles s.disk (s.disk.absolute path) settings.candidateGlobs
        settings.excludeDirs with
    | error f =>
      rw [hfound] at hproject
      cases hproject
    | ok found =>
      have hroot : s.disk.isDirectory (s.disk.absolute path) = true := by
        by_contra hno
        rw [Search.modelFiles, if_neg hno] at hfound
        cases hfound
      have hyields := Search.yields_modelFiles hroot hup settings.excludeDirs
      rw [hfound] at hproject hyields
      have habsolute : ∀ x ∈ found, s.disk.absolute x = x := by
        intro x hx
        obtain ⟨-, -, names, hnames, -, hisFound⟩ := hyields x hx
        exact (hisFound.isPathToFile hroot hnames).absolute_eq
      cases hgraph : (Scan.graphOfPaths s.codecs s.disk found settings.maxWorkers
          settings.encoding).result with
      | error f =>
        simp only [hgraph, Except.mapError] at hproject
        cases hproject
      | ok g' =>
        simp only [hgraph, Except.mapError] at hproject
        obtain rfl := Except.ok.inj hproject
        refine ⟨found, hroot, rfl, ?_⟩
        rw [Scan.eq_of_result_graphOfPaths habsolute hgraph]

/-- The file of every node that is shown can be opened, and it declares the class that the node stands
for. -/
theorem source_of_mem_nodes (hsettings : s.settings = .ok settings)
    (hpatterns : ∀ pattern ∈ settings.candidateGlobs, LeadsToSources pattern) {path : Text}
    {a : Analysis} (h : analyze s path = .ok a) :
    ∀ n ∈ a.graph.nodes, ∃ view c, source s.settle n.path = .ok view ∧ view.path = n.path ∧
      Contribution.ofFile ⟨n.path, view.content⟩ = .ok c ∧
      c.node.id = n.id ∧ c.node.label = n.label ∧ c.node.path = n.path := by
  have hup : ∀ pattern ∈ settings.candidateGlobs, Path.up ∉ Path.names pattern :=
    fun pattern hmem => (hpatterns pattern hmem).up_notMem
  obtain ⟨found, hroot, hfound, hgraph⟩ := nodes_of_analyze hsettings hup h
  have hyields := Search.yields_modelFiles hroot hup settings.excludeDirs
  rw [hfound] at hyields
  intro n hn
  rw [hgraph] at hn
  obtain ⟨m, hm, rfl⟩ := List.mem_map.mp hn
  obtain ⟨before, file, after, hfiles, ⟨c, hc, rfl⟩, -⟩ := Graph.node_of_first_of_mem hm
  have hmem : file ∈ Scan.filesAt s.codecs s.disk settings.encoding found := by simp [hfiles]
  obtain ⟨hpath, hread⟩ := Scan.mem_filesAt.mp hmem
  have hnode : c.node.path = file.path := by
    obtain ⟨identity, -, rfl⟩ := Contribution.ofFile_eq_ok_iff.mp hc
    rfl
  obtain ⟨pattern, hpattern, names, hnames, hcovers, hisFound⟩ := hyields file.path hpath
  have hending : Text.endsWith file.path sourceSuffix = true := by
    rw [hisFound.1]
    exact (hpatterns pattern hpattern).endsWith_below _ hnames hcovers
  have hfile := isFile_of_isPathToFile (hisFound.isPathToFile hroot hnames)
  have hopen := source_of_read (s := s.settle) (Session.settings_settle hsettings) hfile hending hread
  have hview : c.node.view.path = file.path := hnode
  rw [hview]
  exact ⟨_, c, hopen, rfl, hc, rfl, rfl, hnode⟩

/-- A disk with a model file that is reached by a link. -/
def linkedModel : Disk where
  tree :=
    (FileTree.empty.put ["t".toList] (.file (Utf8.encode "<?php\nnamespace A;\nclass U".toList))
      (by decide +kernel)).put ["m.php".toList] (.link "t".toList) (by decide +kernel)
  cwd := []
  looksBehindLinks := false

/-- A session with that disk, whose settings look for files in the root. -/
def linkedSession : Session where
  disk := linkedModel
  codecs := Codecs.standard
  environment := []
  now := ⟨0, 0⟩
  loaded := some { Settings.default with candidateGlobs := ["*.php".toList] }

/-- A model that is reached by a link is shown, and it can be opened by the path of the link. -/
theorem source_linkedModel :
    (linkedSession.settings = .ok { Settings.default with candidateGlobs := ["*.php".toList] } ∧
      ∀ pattern ∈ ["*.php".toList], LeadsToSources pattern) ∧
    ∃ a n, analyze linkedSession "/".toList = .ok a ∧ n ∈ a.graph.nodes ∧
      n.path = "/m.php".toList ∧ n.id = "A\\U".toList ∧
      ∃ view c, source linkedSession.settle n.path = .ok view ∧ view.path = n.path ∧
        Contribution.ofFile ⟨n.path, view.content⟩ = .ok c ∧
        c.node.id = n.id ∧ c.node.label = n.label ∧ c.node.path = n.path := by
  have hsettings : linkedSession.settings =
      .ok { Settings.default with candidateGlobs := ["*.php".toList] } := rfl
  have hpatterns : ∀ pattern ∈ ["*.php".toList], LeadsToSources pattern := by
    intro pattern hpattern
    obtain rfl := List.mem_singleton.mp hpattern
    refine ⟨by decide +kernel, fun c hc => ?_⟩
    have hlast : (Pattern.components "*.php".toList).getLast? = some "*.php".toList := by
      decide +kernel
    rw [hlast] at hc
    obtain rfl := Option.some.inj hc
    decide +kernel
  have hshown : (analyze linkedSession "/".toList).toOption.map (fun a => a.graph.nodes) =
      some [⟨"A\\U".toList, "U".toList, "/m.php".toList, "Path: /m.php".toList⟩] := by
    decide +kernel
  obtain ⟨a, hsome, hnodes⟩ := Option.map_eq_some_iff.mp hshown
  have ha : analyze linkedSession "/".toList = .ok a := Scan.eq_ok_of_toOption hsome
  have hmem : (⟨"A\\U".toList, "U".toList, "/m.php".toList, "Path: /m.php".toList⟩ : NodeView) ∈
      a.graph.nodes := by
    rw [hnodes]
    exact List.mem_singleton.mpr rfl
  exact ⟨⟨hsettings, hpatterns⟩, a, _, ha, hmem, rfl, rfl,
    source_of_mem_nodes hsettings hpatterns ha _ hmem⟩

end Viewer

end RelationAtlas
