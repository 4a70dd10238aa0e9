import RelationAtlas.Proofs.Graph.Assembly
import RelationAtlas.Proofs.Scan.Pool
import RelationAtlas.Proofs.Tree.AbsolutePaths

/-!
# Files that a scan passes over

A file that cannot be read, and a file that declares no class, add nothing to the graph of a list of
paths (`IsPassedOver`).  The first is left out of the texts that are read, the second of the graph that
is made of them, so the graph is the same with and without the path, wherever it stands in the list and
however the files are read (`graphOfPaths_insert`).

This is so for files that are refused over their bytes.  A codec may also fail in a way of its own, as
one does that misses the mark of the order of bytes, and then there is no graph at all.

The file in question is the one at the absolute form of the path, which is reached by calculation.  A
path that leads nowhere may have the absolute form of another file, and then this other file counts
(`not_hidesUnreadable`).
-/

namespace RelationAtlas

namespace Scan

variable {codecs : Codecs} {d : Disk} {encoding : Text} {paths : List Text}

/-- Paths that are made absolute in a working directory that is there hold no NUL if they held none
before. -/
lemma hasNul_of_mem_map_absolute (hcwd : d.tree.get? d.cwd = some .directory)
    (hpaths : ∀ path ∈ paths, Disk.hasNul path = false) :
    ∀ path ∈ paths.map d.absolute, Disk.hasNul path = false := by
  have hnames : ∀ name ∈ d.cwd, '\x00' ∉ name := fun name hname =>
    (FileTree.isName_of_mem (by rw [hcwd]; rfl) name hname).nul_notMem
  intro path hpath
  obtain ⟨p, hp, rfl⟩ := List.mem_map.mp hpath
  exact Disk.hasNul_absolute_of_cwd hnames (hpaths p hp)

/-- The file at the path adds nothing to a graph: it cannot be read, or it declares no class. -/
inductive IsPassedOver (codecs : Codecs) (d : Disk) (encoding path : Text) : Prop
  | unreadable {why : Unreadable} (h : d.read codecs path encoding = .error (.unreadable path why))
  | classless {text : Text} {fault : DeclarationFault} (h : d.read codecs path encoding = .ok text)
      (hnone : Declaration.identity text = .error fault)

/-- Whoever asks for a file that is passed over is told at most that it cannot be read. -/
lemma IsPassedOver.eq_unreadable {path : Text} (h : IsPassedOver codecs d encoding path) :
    ∀ f, d.read codecs path encoding = .error f → ∃ p why, f = .unreadable p why := by
  intro f hread
  cases h with
  | unreadable h =>
    rw [h] at hread
    exact ⟨_, _, (Except.error.inj hread).symm⟩
  | classless h _ =>
    rw [h] at hread
    cases hread

/-- The files at some paths and at others behind them. -/
lemma filesAt_append (before after : List Text) : filesAt codecs d encoding (before ++ after) =
    filesAt codecs d encoding before ++ filesAt codecs d encoding after :=
  List.filterMap_append

/-- The files at some paths have the graph of those that do not include a file that is passed over. -/
lemma ofFiles_filesAt_insert {path : Text} (h : IsPassedOver codecs d encoding path)
    (before after : List Text) :
    Graph.ofFiles (filesAt codecs d encoding (before ++ path :: after)) =
      Graph.ofFiles (filesAt codecs d encoding (before ++ after)) := by
  rw [filesAt_append, filesAt_append]
  cases h with
  | @unreadable why h =>
    have hskip : filesAt codecs d encoding (path :: after) = filesAt codecs d encoding after := by
      rw [filesAt, List.filterMap_cons, h]
      rfl
    rw [hskip]
  | @classless text fault h hnone =>
    have hfile : filesAt codecs d encoding (path :: after) =
        ⟨path, text⟩ :: filesAt codecs d encoding after := by
      rw [filesAt, List.filterMap_cons, h]
      rfl
    have hfault : Contribution.ofFile ⟨path, text⟩ = .error fault := by
      rw [Contribution.ofFile, hnone]
      rfl
    rw [hfile, Graph.ofFiles_append_cons_of_error hfault]

/-- Files that are asked for in a way that makes sense have a graph once they are read, however that
is done. -/
lemma result_graphOfReading_of_isAskedFor {reading : Report ReadFault (List (Option Text))}
    (h : IsAskedFor codecs d encoding paths)
    (hreading : reading.result = (loadInTurn codecs d encoding paths).result) :
    (graphOfReading paths reading).result =
      .ok (Graph.ofFiles (filesAt codecs d encoding paths)) := by
  rw [result_graphOfReading, hreading, map_result_loadInTurn h]

/-- A file that cannot be read or declares no class is invisible: there is one graph that comes out
with its path and without, wherever the path stands in the list, however many workers there are and in
whatever order they read. -/
theorem graphOfPaths_insert (hcwd : d.tree.get? d.cwd = some .directory) {before after : List Text}
    {path : Text} (hpaths : ∀ p ∈ before ++ after, Disk.hasNul p = false)
    (hcan : ∀ p ∈ before ++ after, CanBeAskedFor codecs d encoding (d.absolute p))
    (hpassed : IsPassedOver codecs d encoding (d.absolute path)) :
    ∃ g, ∀ paths ∈ [before ++ after, before ++ path :: after], ∀ workers,
      (graphOfPaths codecs d paths workers encoding).result = .ok g ∧
      ∀ reading, Reads codecs d encoding workers (paths.map d.absolute) reading →
        (graphOfReading (paths.map d.absolute) reading).result = .ok g := by
  have hgraph : ∀ paths ∈ [before ++ after, before ++ path :: after],
      Graph.ofFiles (filesAt codecs d encoding (paths.map d.absolute)) =
        Graph.ofFiles (filesAt codecs d encoding ((before ++ after).map d.absolute)) := by
    intro paths hmem
    rcases List.mem_pair.mp hmem with rfl | rfl
    · rfl
    · rw [List.map_append, List.map_cons, ofFiles_filesAt_insert hpassed, List.map_append]
  have hothers : IsAskedFor codecs d encoding ((before ++ after).map d.absolute) :=
    (isAskedFor_iff (hasNul_of_mem_map_absolute hcwd hpaths)).mpr (List.forall_mem_map.mpr hcan)
  have hasked : ∀ paths ∈ [before ++ after, before ++ path :: after],
      IsAskedFor codecs d encoding (paths.map d.absolute) := by
    intro paths hmem
    rcases List.mem_pair.mp hmem with rfl | rfl
    · exact hothers
    · intro p hp
      rw [List.map_append, List.map_cons] at hp
      rcases List.mem_append.mp hp with hp | hp
      · exact hothers p (by simp [hp])
      rcases List.mem_cons.mp hp with rfl | hp
      · exact hpassed.eq_unreadable
      · exact hothers p (by simp [hp])
  refine ⟨Graph.ofFiles (filesAt codecs d encoding ((before ++ after).map d.absolute)),
    fun paths hmem workers => ⟨?_, fun reading hreads => ?_⟩⟩
  · rw [graphOfPaths_eq, loadAll_eq, result_graphOfReading_of_isAskedFor (hasked paths hmem) rfl,
      hgraph paths hmem]
  · rw [result_graphOfReading_of_isAskedFor (hasked paths hmem) hreads.result_eq,
      hgraph paths hmem]

/-- A disk with a model, a file without a class, and a file that is no text. -/
def mixedFiles : Disk where
  tree :=
    ((FileTree.empty.put ["User.php".toList]
      (.file (Utf8.encode "<?php\nnamespace App;\nclass User \x7b \x7d\n".toList))
        (by decide +kernel)).put ["routes.php".toList]
      (.file (Utf8.encode "<?php\nreturn [];\n".toList)) (by decide +kernel)).put
        ["logo.php".toList] (.file [0x3c, 0xff]) (by decide +kernel)
  cwd := []
  looksBehindLinks := false

/-- A file that is no text is invisible beside a model. -/
theorem graphOfPaths_insert_logo :
    (mixedFiles.tree.get? mixedFiles.cwd = some .directory ∧
      (∀ p ∈ ["routes.php".toList] ++ ["User.php".toList], Disk.hasNul p = false) ∧
      (∀ p ∈ ["routes.php".toList] ++ ["User.php".toList],
        CanBeAskedFor Codecs.standard mixedFiles "utf-8".toList (mixedFiles.absolute p)) ∧
      IsPassedOver Codecs.standard mixedFiles "utf-8".toList
        (mixedFiles.absolute "logo.php".toList)) ∧
    ∃ g, g.nodes = [⟨"App\\User".toList, "User".toList, "/User.php".toList⟩] ∧
      ∀ workers, (graphOfPaths Codecs.standard mixedFiles
        ["routes.php".toList, "logo.php".toList, "User.php".toList] workers "utf-8".toList).result =
          .ok g := by
  have hcwd : mixedFiles.tree.get? mixedFiles.cwd = some .directory := rfl
  have hpaths : ∀ p ∈ ["routes.php".toList] ++ ["User.php".toList], Disk.hasNul p = false := by
    decide
  have hcan : ∀ p ∈ ["routes.php".toList] ++ ["User.php".toList],
      CanBeAskedFor Codecs.standard mixedFiles "utf-8".toList (mixedFiles.absolute p) :=
    fun p _ => canBeAskedFor_utf8 _ _ _
  have hread : mixedFiles.read Codecs.standard (mixedFiles.absolute "logo.php".toList)
      "utf-8".toList = .error (.unreadable (mixedFiles.absolute "logo.php".toList)
        (.undecodable ⟨"utf-8".toList, 1, 0xff, 1, .badStart⟩)) := by
    decide +kernel
  have hpassed : IsPassedOver Codecs.standard mixedFiles "utf-8".toList
      (mixedFiles.absolute "logo.php".toList) := .unreadable hread
  obtain ⟨g, hg⟩ := graphOfPaths_insert hcwd hpaths hcan hpassed
  have hresult := fun workers => (hg _ (List.mem_pair.mpr (Or.inr rfl)) workers).1
  have hnodes : (graphOfPaths Codecs.standard mixedFiles
      ["routes.php".toList, "logo.php".toList, "User.php".toList] none "utf-8".toList).result.map
        Graph.nodes = .ok [⟨"App\\User".toList, "User".toList, "/User.php".toList⟩] := by
    decide +kernel
  refine ⟨⟨hcwd, hpaths, hcan, hpassed⟩, g, ?_, hresult⟩
  have hnone := hresult none
  rw [List.singleton_append] at hnone
  rw [hnone] at hnodes
  exact Except.ok.inj hnodes

/-- A disk with a file that is not text in UTF-16: it has an even number of bytes and no mark of their
order. -/
def unmarkedFile : Disk where
  tree := FileTree.empty.put ["Users.php".toList]
    (.file (Utf8.encode "<?php\nnamespace App;\nclass Users \x7b\x7d\n".toList)) (by decide +kernel)
  cwd := []
  looksBehindLinks := false

/-- Is a file invisible when it is passed over at the path as it is given? -/
def HidesUnreadable (codecs : Codecs) (d : Disk) (encoding : Text) : Prop :=
  ∀ before path after workers, (∀ p ∈ before ++ path :: after, Disk.hasNul p = false) →
    IsPassedOver codecs d encoding path →
      (graphOfPaths codecs d (before ++ path :: after) workers encoding).result =
        (graphOfPaths codecs d (before ++ after) workers encoding).result

/-- Not every file that cannot be read is invisible.  Where the codec fails in a way of its own, the whole
list has no graph.  And a path through a directory that is missing leads nowhere, and still its absolute
form may be that of a model. -/
theorem not_hidesUnreadable :
    ((unmarkedFile.bytes "Users.php".toList).map List.length = .ok 36 ∧
      (Codecs.standard.codec? "utf-16".toList).isSome ∧
      ∀ workers, (graphOfPaths Codecs.standard unmarkedFile ["Users.php".toList] workers
        "utf-16".toList).result = .error (.codecFailed ⟨"UnicodeError".toList,
          "UTF-16 stream does not start with BOM".toList⟩)) ∧
    ¬ HidesUnreadable Codecs.standard mixedFiles "utf-8".toList := by
  refine ⟨⟨by decide +kernel, by decide +kernel, fun workers => ?_⟩, fun h => ?_⟩
  · rw [graphOfPaths_eq, loadAll_eq]
    decide +kernel
  · have hread : mixedFiles.read Codecs.standard "missing/../User.php".toList "utf-8".toList =
        .error (.unreadable "missing/../User.php".toList (.unopened .notFound)) := by
      decide +kernel
    have hgraph := h [] "missing/../User.php".toList [] none (by decide) (.unreadable hread)
    have hnodes := congrArg (Except.map Graph.nodes) hgraph
    exact absurd hnodes (by decide +kernel)

end Scan

end RelationAtlas
