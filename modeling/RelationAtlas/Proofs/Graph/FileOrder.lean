import RelationAtlas.Proofs.Graph.Counts

/-!
# The order of the files

The first file that declares a class supplies its node, so the graph of a list of files depends on
the order of the list.  It does so only in the order of its nodes and edges and in the paths of its
nodes (`ofFiles_perm`).

The names of the nodes are those of the declared classes, each once, and the label of a node is the
last segment of its name (`label_of_mem_nodes`), so that the nodes of two orders differ in their
paths at most.  The edges are those of all files that declare a class.  A summary says how many nodes
and edges there are and tallies them, and a tally does not depend on the order of what it counts
(`tally_of_perm`).
-/

namespace RelationAtlas

/-- A tally counts the same in any order. -/
lemma tally_of_perm {ts us : List Text} (h : ts.Perm us) : tally ts = tally us := by
  rw [tally, tally, Text.sorted_congr fun t => h.mem_iff]
  exact List.map_congr_left fun t _ => by rw [h.count_eq]

namespace Graph

variable {files xs ys : List SourceFile} {n : ModelNode}

/-! ## One order -/

/-- A node is that of the class that some file declares. -/
lemma exists_class_of_mem_nodes (hn : n ∈ (ofFiles files).nodes) :
    ∃ file ∈ files, ∃ c, Declaration.identity file.text = .ok c ∧
      n = ⟨c.qualified, c.name, file.path⟩ := by
  obtain ⟨before, file, after, rfl, ⟨c, hfile, rfl⟩, -⟩ := node_of_first_of_mem hn
  obtain ⟨identity, hidentity, rfl⟩ := Contribution.ofFile_eq_ok_iff.mp hfile
  exact ⟨file, by simp, identity, hidentity, rfl⟩

/-- The path of a node is that of a file that declares its class. -/
lemma exists_file_of_mem_nodes (hn : n ∈ (ofFiles files).nodes) :
    ∃ file ∈ files, file.Declares n.id ∧ file.path = n.path := by
  obtain ⟨file, hfile, c, hidentity, rfl⟩ := exists_class_of_mem_nodes hn
  have hcontribution := Contribution.ofFile_eq_ok_iff.mpr ⟨c, hidentity, rfl⟩
  exact ⟨file, hfile, ⟨_, hcontribution, rfl⟩, rfl⟩

/-- The label of a node is the last segment of its name. -/
lemma label_of_mem_nodes (hn : n ∈ (ofFiles files).nodes) : n.label = Name.lastSegment n.id := by
  obtain ⟨file, -, c, hidentity, rfl⟩ := exists_class_of_mem_nodes hn
  exact (Name.lastSegment_qualify (Declaration.separator_notMem_name hidentity)).symm

/-- The names and labels of the nodes are told by the names. -/
lemma map_id_label_nodes (files : List SourceFile) :
    (ofFiles files).nodes.map (fun n => (n.id, n.label)) =
      (ofFiles files).nodeIds.map fun id => (id, Name.lastSegment id) := by
  rw [nodeIds, List.map_map]
  exact List.map_congr_left fun n hn => by rw [label_of_mem_nodes hn, Function.comp_apply]

/-! ## Two orders -/

/-- In another order the same classes are declared. -/
lemma nodeIds_ofFiles_perm (h : xs.Perm ys) : (ofFiles xs).nodeIds.Perm (ofFiles ys).nodeIds := by
  have hnodup : ∀ files, (ofFiles files).nodeIds.Nodup := fun files =>
    (isAssemblyOf_ofFiles files).nodup_nodeIds
  refine (List.perm_ext_iff_of_nodup (hnodup xs) (hnodup ys)).mpr fun id => ?_
  simp only [mem_nodeIds_ofFiles, h.mem_iff]

/-- In another order there are the same edges. -/
lemma edges_ofFiles_perm (h : xs.Perm ys) : (ofFiles xs).edges.Perm (ofFiles ys).edges := by
  rw [(isAssemblyOf_ofFiles xs).edges_eq, (isAssemblyOf_ofFiles ys).edges_eq]
  exact (h.filterMap _).flatMap_right _

/-- What a summary says depends on the names of the nodes and on the edges, but not on their
order. -/
lemma summary_of_perm {g g' : Graph} (hnodes : g.nodeIds.Perm g'.nodeIds)
    (hedges : g.edges.Perm g'.edges) (root : Option Text) : g.summary root = g'.summary root := by
  have hlength : g.nodes.length = g'.nodes.length := by
    simpa [nodeIds] using hnodes.length_eq
  have hempty : g.isEmpty = g'.isEmpty := by
    rw [isEmpty, isEmpty, Bool.eq_iff_iff, List.isEmpty_iff_length_eq_zero,
      List.isEmpty_iff_length_eq_zero, hlength]
  have hscopes : tally (g.nodes.map fun n => Name.scope n.id) =
      tally (g'.nodes.map fun n => Name.scope n.id) := by
    apply tally_of_perm
    have hmap := hnodes.map Name.scope
    rwa [nodeIds, nodeIds, List.map_map, List.map_map] at hmap
  have hkinds : tally (g.edges.map (·.kind.word)) = tally (g'.edges.map (·.kind.word)) :=
    tally_of_perm (hedges.map _)
  rw [summary, summary, overview, overview, hlength, hedges.length_eq, hscopes, hkinds, hempty]

/-- The order of the files matters for the order of nodes and edges and for the paths of nodes, and
for nothing else: in another order the nodes have the same names and labels, the edges are the same,
and every summary says the same.  If the node of a class has another path then, both paths are those
of files that declare this class. -/
theorem ofFiles_perm (h : xs.Perm ys) :
    ((ofFiles xs).nodes.map fun n => (n.id, n.label)).Perm
      ((ofFiles ys).nodes.map fun n => (n.id, n.label)) ∧
    (ofFiles xs).edges.Perm (ofFiles ys).edges ∧
    (∀ root, (ofFiles xs).summary root = (ofFiles ys).summary root) ∧
    ∀ n ∈ (ofFiles xs).nodes, ∃ m ∈ (ofFiles ys).nodes, m.id = n.id ∧ m.label = n.label ∧
      ∀ path ∈ [n.path, m.path], ∃ file ∈ xs, file.Declares n.id ∧ file.path = path := by
  have hids := nodeIds_ofFiles_perm h
  have hedges := edges_ofFiles_perm h
  refine ⟨?_, hedges, summary_of_perm hids hedges, fun n hn => ?_⟩
  · rw [map_id_label_nodes, map_id_label_nodes]
    exact hids.map _
  · obtain ⟨m, hm, hid⟩ := List.mem_map.mp (hids.subset (List.mem_map_of_mem hn))
    refine ⟨m, hm, hid, ?_, ?_⟩
    · rw [label_of_mem_nodes hm, label_of_mem_nodes hn, hid]
    · obtain ⟨file, hfile, hdeclares, hpath⟩ := exists_file_of_mem_nodes hn
      obtain ⟨file', hfile', hdeclares', hpath'⟩ := exists_file_of_mem_nodes hm
      rw [hid] at hdeclares'
      simp only [List.mem_cons, List.not_mem_nil, or_false]
      rintro path (rfl | rfl)
      · exact ⟨file, hfile, hdeclares, hpath⟩
      · exact ⟨file', h.mem_iff.mpr hfile', hdeclares', hpath'⟩

/-- Two files that declare the same class, each with one relationship, and between them a file that
declares another class and one that declares none. -/
def twoUsers : List SourceFile :=
  [⟨"app/User.php".toList, "<?php\nnamespace App;\nclass User \x7b\n".toList ++
      "public function posts() \x7b $this->hasMany(Post::class); \x7d\n\x7d\n".toList⟩,
    ⟨"app/Post.php".toList, "<?php\nnamespace App;\nclass Post \x7b\x7d\n".toList⟩,
    ⟨"app/routes.php".toList, "<?php\nclass User \x7b\x7d\n".toList⟩,
    ⟨"old/User.php".toList, "<?php\nnamespace App;\nclass User \x7b\n".toList ++
      "public function team() \x7b $this->belongsTo(Team::class); \x7d\n\x7d\n".toList⟩]

/-- Taken up in the reverse order, the files give the same classes and edges, and the class that is
declared twice has its other path. -/
theorem ofFiles_perm_twoUsers :
    twoUsers.Perm twoUsers.reverse ∧
    (ofFiles twoUsers).nodes = [⟨"App\\User".toList, "User".toList, "app/User.php".toList⟩,
      ⟨"App\\Post".toList, "Post".toList, "app/Post.php".toList⟩] ∧
    (ofFiles twoUsers.reverse).nodes =
      [⟨"App\\User".toList, "User".toList, "old/User.php".toList⟩,
        ⟨"App\\Post".toList, "Post".toList, "app/Post.php".toList⟩] ∧
    ((ofFiles twoUsers).nodes.map fun n => (n.id, n.label)).Perm
      ((ofFiles twoUsers.reverse).nodes.map fun n => (n.id, n.label)) ∧
    (ofFiles twoUsers).edges.Perm (ofFiles twoUsers.reverse).edges ∧
    (∀ root, (ofFiles twoUsers).summary root = (ofFiles twoUsers.reverse).summary root) ∧
    ∃ m ∈ (ofFiles twoUsers.reverse).nodes, m.id = "App\\User".toList ∧
      m.label = "User".toList ∧ ∀ path ∈ ["app/User.php".toList, m.path],
        ∃ file ∈ twoUsers, file.Declares "App\\User".toList ∧ file.path = path := by
  have hperm : twoUsers.Perm twoUsers.reverse := (List.reverse_perm twoUsers).symm
  have hnodes : (ofFiles twoUsers).nodes =
      [⟨"App\\User".toList, "User".toList, "app/User.php".toList⟩,
        ⟨"App\\Post".toList, "Post".toList, "app/Post.php".toList⟩] := by
    decide +kernel
  have hreverse : (ofFiles twoUsers.reverse).nodes =
      [⟨"App\\User".toList, "User".toList, "old/User.php".toList⟩,
        ⟨"App\\Post".toList, "Post".toList, "app/Post.php".toList⟩] := by
    decide +kernel
  obtain ⟨hids, hedges, hsummary, hpaths⟩ := ofFiles_perm hperm
  have hmem : (⟨"App\\User".toList, "User".toList, "app/User.php".toList⟩ : ModelNode) ∈
      (ofFiles twoUsers).nodes := by
    rw [hnodes]
    exact List.mem_cons_self
  exact ⟨hperm, hnodes, hreverse, hids, hedges, hsummary, hpaths _ hmem⟩

end Graph

end RelationAtlas
