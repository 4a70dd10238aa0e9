import Mathlib.Data.List.Induction
import RelationAtlas.Graph.Assembly
import RelationAtlas.Proofs.Assoc

/-!
# What the graph of a list of files is

Files are taken up one after another, and what is taken up depends on what was there before.  Here
the result is described without that order of work.

Only the files that declare a class count (`foldl_addFile`), so the graph is a fold of `Graph.add`
over their contributions.  One step keeps a graph sound: the names of its nodes differ, and every
edge starts at a node (`IsSound.add`).  How a run that starts from some graph relates to the run that
starts from the empty graph is said by `nodes_foldl_add`: of the nodes of the latter, those that are
new are added.  The description of the whole graph (`IsAssemblyOf`) and the law for two lists of files
one after the other follow from these.
-/

namespace RelationAtlas

/-- Does the file declare the class of this name? -/
def SourceFile.Declares (file : SourceFile) (id : Text) : Prop :=
  ∃ c, Contribution.ofFile file = .ok c ∧ c.node.id = id

/-- A file has a contribution when it declares a class. -/
lemma Contribution.ofFile_eq_ok_iff {file : SourceFile} {c : Contribution} :
    ofFile file = .ok c ↔ ∃ identity, Declaration.identity file.text = .ok identity ∧
      c = ofClass identity file := by
  rw [ofFile]
  cases Declaration.identity file.text with
  | error f => simp [Except.map]
  | ok identity => simp [Except.map, eq_comm]

namespace Graph

/-- The contributions of the files that declare a class, in order. -/
def contributions (files : List SourceFile) : List Contribution :=
  files.filterMap fun file => (Contribution.ofFile file).toOption

/-- A graph describes a list of files: it has one node for each class that one of them declares, in
the order of the first declarations and as the first declaration has it, and it has the edges of all
of them. -/
structure IsAssemblyOf (files : List SourceFile) (g : Graph) : Prop where
  nodup_nodeIds : g.nodeIds.Nodup
  source_mem : ∀ e ∈ g.edges, e.source ∈ g.nodeIds
  nodeIds_eq : g.nodeIds = ((contributions files).map (·.node.id)).eraseDups
  node_of_first : ∀ n ∈ g.nodes, ∃ before file after, files = before ++ file :: after ∧
    (∃ c, Contribution.ofFile file = .ok c ∧ c.node = n) ∧ ∀ f ∈ before, ¬ f.Declares n.id
  edges_eq : g.edges = (contributions files).flatMap (·.edges)

/-! ## One step -/

/-- A graph is sound when its nodes have different names and every edge starts at a node. -/
structure IsSound (g : Graph) : Prop where
  nodup : g.nodeIds.Nodup
  source_mem : ∀ e ∈ g.edges, e.source ∈ g.nodeIds

lemma isSound_empty : IsSound empty := ⟨List.nodup_nil, by simp [empty]⟩

lemma declares_iff {g : Graph} {id : Text} : g.declares id = true ↔ id ∈ g.nodeIds := by
  simp [declares]

/-- The names of the nodes after one more contribution. -/
lemma nodeIds_add (g : Graph) (c : Contribution) :
    (g.add c).nodeIds = if c.node.id ∈ g.nodeIds then g.nodeIds else g.nodeIds ++ [c.node.id] := by
  by_cases h : c.node.id ∈ g.nodeIds
  · rw [if_pos h]
    simp [nodeIds, add, declares_iff.mpr h]
  · have hd : g.declares c.node.id = false := by simpa [declares] using h
    simp only [nodeIds, add, hd] at h ⊢
    simp [h]

/-- The class of a contribution is declared afterwards, and what was declared stays so. -/
lemma mem_nodeIds_add {g : Graph} {c : Contribution} {id : Text} :
    id ∈ (g.add c).nodeIds ↔ id ∈ g.nodeIds ∨ id = c.node.id := by
  rw [nodeIds_add]
  split
  · next h =>
    constructor
    · exact Or.inl
    · rintro (h' | rfl)
      · exact h'
      · exact h
  · simp

/-- One more contribution keeps a graph sound, provided that its edges start at its node. -/
lemma IsSound.add {g : Graph} (hg : g.IsSound) {c : Contribution}
    (hc : ∀ e ∈ c.edges, e.source = c.node.id) : (g.add c).IsSound where
  nodup := by
    rw [nodeIds_add]
    split
    · exact hg.nodup
    · next h =>
      refine List.nodup_append.mpr ⟨hg.nodup, by simp, ?_⟩
      intro a ha b hb heq
      obtain rfl : b = c.node.id := by simpa using hb
      exact h (heq ▸ ha)
  source_mem := by
    intro e he
    rw [mem_nodeIds_add]
    rcases List.mem_append.mp he with he | he
    · exact Or.inl (hg.source_mem e he)
    · exact Or.inr (hc e he)

/-! ## A whole run -/

/-- Taking up files is taking up the contributions of those that declare a class. -/
lemma foldl_addFile (g : Graph) (files : List SourceFile) :
    files.foldl addFile g = (contributions files).foldl add g := by
  induction files generalizing g with
  | nil => rfl
  | cons file rest ih =>
    rw [List.foldl_cons, ih]
    cases h : Contribution.ofFile file with
    | error f => simp [contributions, addFile, h, Except.toOption]
    | ok c => simp [contributions, addFile, h, Except.toOption]

lemma ofFiles_eq_foldl (files : List SourceFile) :
    ofFiles files = (contributions files).foldl add empty :=
  foldl_addFile empty files

/-- What is contributed by one of the files is contributed. -/
lemma mem_contributions {files : List SourceFile} {c : Contribution} :
    c ∈ contributions files ↔ ∃ file ∈ files, Contribution.ofFile file = .ok c := by
  simp only [contributions, List.mem_filterMap]
  refine exists_congr fun file => and_congr_right fun _ => ?_
  cases Contribution.ofFile file <;> simp [Except.toOption]

/-- A run keeps a graph sound. -/
lemma IsSound.foldl_add {g : Graph} (hg : g.IsSound) {cs : List Contribution}
    (hcs : ∀ c ∈ cs, ∀ e ∈ c.edges, e.source = c.node.id) : (cs.foldl Graph.add g).IsSound := by
  induction cs generalizing g with
  | nil => exact hg
  | cons c cs ih =>
    rw [List.foldl_cons]
    exact ih (hg.add (hcs c (by simp))) fun c' hc' => hcs c' (by simp [hc'])

lemma edges_foldl_add (g : Graph) (cs : List Contribution) :
    (cs.foldl add g).edges = g.edges ++ cs.flatMap (·.edges) := by
  induction cs generalizing g with
  | nil => simp
  | cons c cs ih => rw [List.foldl_cons, ih]; simp [add]

/-- A run from the empty graph declares the classes in the order of their first declarations. -/
lemma nodeIds_foldl_add (cs : List Contribution) :
    (cs.foldl add empty).nodeIds = (cs.map (·.node.id)).eraseDups := by
  induction cs using List.reverseRecOn with
  | nil => rfl
  | append_singleton cs c ih =>
    rw [List.foldl_append, List.foldl_cons, List.foldl_nil, nodeIds_add, ih, List.map_append,
      List.map_cons, List.map_nil, eraseDups_concat]
    simp only [List.mem_eraseDups]

/-- A run from some graph adds those nodes of the run from the empty graph whose names are new. -/
lemma nodes_foldl_add (g : Graph) (cs : List Contribution) :
    (cs.foldl add g).nodes =
      g.nodes ++ (cs.foldl add empty).nodes.filter fun n => !g.declares n.id := by
  induction cs using List.reverseRecOn with
  | nil => simp [empty]
  | append_singleton cs c ih =>
    rw [List.foldl_append, List.foldl_append, List.foldl_cons, List.foldl_nil, List.foldl_cons,
      List.foldl_nil]
    generalize hfrom : cs.foldl add g = h at ih ⊢
    generalize hempty : cs.foldl add empty = h₀ at ih ⊢
    -- After the run from `g`, a class is declared if `g` or the other run declares it.
    have hdecl : h.declares c.node.id = (g.declares c.node.id || h₀.declares c.node.id) := by
      rw [Bool.eq_iff_iff, Bool.or_eq_true, declares_iff, declares_iff, declares_iff, nodeIds, ih]
      simp only [List.map_append, List.mem_append, List.mem_map, List.mem_filter, nodeIds]
      constructor
      · rintro (hl | ⟨n, ⟨hn, _⟩, hid⟩)
        · exact Or.inl hl
        · exact Or.inr ⟨n, hn, hid⟩
      · rintro (hl | ⟨n, hn, hid⟩)
        · exact Or.inl hl
        · by_cases hg : g.declares n.id = true
          · left
            rw [declares_iff, hid] at hg
            simpa [nodeIds] using hg
          · exact Or.inr ⟨n, ⟨hn, by simpa using hg⟩, hid⟩
    simp only [add, hdecl, ih]
    cases hg : g.declares c.node.id <;> cases h0 : h₀.declares c.node.id <;>
      simp [hg, List.filter_append]

/-- Every edge of a contribution starts at its node. -/
lemma source_of_mem_contributions {files : List SourceFile} {c : Contribution}
    (hc : c ∈ contributions files) : ∀ e ∈ c.edges, e.source = c.node.id := by
  obtain ⟨file, _, hfile⟩ := mem_contributions.mp hc
  exact fun e he => Contribution.source_of_mem_edges hfile he

/-- The nodes of a graph of files are called what the files declare. -/
lemma mem_nodeIds_ofFiles {files : List SourceFile} {id : Text} :
    id ∈ (ofFiles files).nodeIds ↔ ∃ file ∈ files, file.Declares id := by
  rw [ofFiles_eq_foldl, nodeIds_foldl_add, List.mem_eraseDups, List.mem_map]
  constructor
  · rintro ⟨c, hc, rfl⟩
    obtain ⟨file, hmem, hfile⟩ := mem_contributions.mp hc
    exact ⟨file, hmem, c, hfile, rfl⟩
  · rintro ⟨file, hmem, c, hfile, rfl⟩
    exact ⟨c, mem_contributions.mpr ⟨file, hmem, hfile⟩, rfl⟩

/-- Each node of a graph of files is the one of the first file that declares its class. -/
lemma node_of_first_of_mem {files : List SourceFile} {n : ModelNode}
    (hn : n ∈ (ofFiles files).nodes) : ∃ before file after, files = before ++ file :: after ∧
      (∃ c, Contribution.ofFile file = .ok c ∧ c.node = n) ∧ ∀ f ∈ before, ¬ f.Declares n.id := by
  induction files using List.reverseRecOn with
  | nil => simp [ofFiles, empty] at hn
  | append_singleton files file ih =>
    -- A node that was there before the last file keeps its place; a new one comes from that file.
    have hold : n ∈ (ofFiles files).nodes → ∃ before file' after,
        files ++ [file] = before ++ file' :: after ∧
          (∃ c, Contribution.ofFile file' = .ok c ∧ c.node = n) ∧
            ∀ f ∈ before, ¬ f.Declares n.id := by
      intro h
      obtain ⟨before, file', after, rfl, hc, hfirst⟩ := ih h
      exact ⟨before, file', after ++ [file], by simp, hc, hfirst⟩
    rw [ofFiles_append, List.foldl_cons, List.foldl_nil] at hn
    cases hfile : Contribution.ofFile file with
    | error f =>
      rw [addFile, hfile] at hn
      exact hold hn
    | ok c =>
      simp only [addFile, hfile, add] at hn
      split at hn
      · exact hold hn
      · next hnew =>
        rcases List.mem_append.mp hn with hn | hn
        · exact hold hn
        · obtain rfl : n = c.node := by simpa using hn
          refine ⟨files, file, [], rfl, ⟨c, hfile, rfl⟩, ?_⟩
          intro f hf hdecl
          exact hnew (declares_iff.mpr (mem_nodeIds_ofFiles.mpr ⟨f, hf, hdecl⟩))

/-- The graph of a list of files describes it. -/
lemma isAssemblyOf_ofFiles (files : List SourceFile) : IsAssemblyOf files (ofFiles files) := by
  have hsound : (ofFiles files).IsSound := by
    rw [ofFiles_eq_foldl]
    exact isSound_empty.foldl_add fun c hc => source_of_mem_contributions hc
  refine ⟨hsound.nodup, hsound.source_mem, ?_, fun n hn => node_of_first_of_mem hn, ?_⟩
  · rw [ofFiles_eq_foldl, nodeIds_foldl_add]
  · rw [ofFiles_eq_foldl, edges_foldl_add]
    rfl

/-- A file without a contribution changes nothing. -/
lemma ofFiles_append_cons_of_error {file : SourceFile} {fault : DeclarationFault}
    (h : Contribution.ofFile file = .error fault) (xs ys : List SourceFile) :
    ofFiles (xs ++ file :: ys) = ofFiles (xs ++ ys) := by
  rw [ofFiles_append, ofFiles_append, List.foldl_cons, addFile, h]

/-! ## The graph of a list of files -/

/-- The graph of a list of files has one node for each class that is declared, the one of its first
declaration, and all edges of all files that declare a class; a file that declares none changes
nothing.  Two lists one after the other give the nodes of the first and those of the second whose
names are new, and the edges of both. -/
theorem ofFiles_describes (xs ys : List SourceFile) :
    IsAssemblyOf xs (ofFiles xs) ∧
      (∀ file fault, Contribution.ofFile file = .error fault →
        ofFiles (xs ++ file :: ys) = ofFiles (xs ++ ys)) ∧
      (ofFiles (xs ++ ys)).nodes = (ofFiles xs).nodes ++
        (ofFiles ys).nodes.filter (fun n => n.id ∉ (ofFiles xs).nodeIds) ∧
      (ofFiles (xs ++ ys)).edges = (ofFiles xs).edges ++ (ofFiles ys).edges := by
  refine ⟨isAssemblyOf_ofFiles xs, ?_, ?_, ?_⟩
  · intro file fault hfile
    exact ofFiles_append_cons_of_error hfile xs ys
  · rw [ofFiles_append, foldl_addFile, nodes_foldl_add, ← ofFiles_eq_foldl]
    simp [declares]
  · rw [ofFiles_append, foldl_addFile, edges_foldl_add]
    rw [(isAssemblyOf_ofFiles ys).edges_eq]

end Graph

end RelationAtlas
