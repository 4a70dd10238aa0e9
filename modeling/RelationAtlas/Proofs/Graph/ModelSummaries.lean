import Mathlib.Data.List.Nodup
import Mathlib.Data.List.Perm.Basic
import RelationAtlas.Graph.Summary
import RelationAtlas.Proofs.Graph.Assembly
import RelationAtlas.Proofs.Text.Runs

/-!
# What the summaries of all models say together

The summary of a model is a heading and an entry for each edge that starts at the model
(`modelSummary_eq`).  Models with different names share no entries, so a list of such models has,
taken together, the edges that start at one of them (`flatMap_edgesFrom_perm`).

In the graph of a list of files the names of the models differ and every edge starts at a model.
The summaries of all its models therefore say each edge once (`modelSummary_partition`).
-/

namespace RelationAtlas.Graph

variable {g : Graph}

/-! ## The summary of one model -/

/-- The edges that start at a model, in the order of the graph. -/
def edgesFrom (g : Graph) (id : Text) : List Edge := g.edges.filter fun e => e.source = id

lemma mem_edgesFrom {id : Text} {e : Edge} : e ∈ g.edgesFrom id ↔ e ∈ g.edges ∧ e.source = id := by
  simp [edgesFrom]

lemma edgeLines_eq (g : Graph) (id : Text) : g.edgeLines id = (g.edgesFrom id).map edgeLine := rfl

/-- The summary of a model is its heading and the entries of its edges, each after a line feed. -/
lemma modelSummary_eq (g : Graph) (id : Text) : g.modelSummary id =
    "Model ".toList ++ id ++
      ((g.edgesFrom id).map edgeLine).flatMap fun entry => '\n' :: entry := by
  rw [modelSummary, edgeLines_eq, Text.join_cons]
  rfl

/-! ## Several models -/

/-- Models with different names have, taken together, the edges that start at one of them. -/
lemma flatMap_edgesFrom_perm (g : Graph) {ids : List Text} (hids : ids.Nodup) :
    (ids.flatMap g.edgesFrom).Perm (g.edges.filter fun e => e.source ∈ ids) := by
  induction ids with
  | nil => simp
  | cons id ids ih =>
    obtain ⟨hid, hrest⟩ := List.nodup_cons.mp hids
    -- The edges of all these models are those of the first one and the others.
    have hsplit := List.filter_append_perm (fun e : Edge => decide (e.source = id))
      (g.edges.filter fun e => e.source ∈ id :: ids)
    have hfirst : (g.edges.filter fun e => e.source ∈ id :: ids).filter
        (fun e => decide (e.source = id)) = g.edgesFrom id := by
      rw [List.filter_filter, edgesFrom]
      refine List.filter_congr fun e _ => ?_
      by_cases h : e.source = id <;> simp [h]
    have hothers : (g.edges.filter fun e => e.source ∈ id :: ids).filter
        (fun e => !decide (e.source = id)) = g.edges.filter fun e => e.source ∈ ids := by
      rw [List.filter_filter]
      refine List.filter_congr fun e _ => ?_
      by_cases h : e.source = id
      · simp [h, hid]
      · simp [h]
    rw [hfirst, hothers] at hsplit
    rw [List.flatMap_cons]
    exact ((ih hrest).append_left _).trans hsplit

/-- In a sound graph the models have, taken together, each edge once. -/
lemma IsSound.flatMap_edgesFrom_perm (hg : g.IsSound) :
    (g.nodeIds.flatMap g.edgesFrom).Perm g.edges := by
  have hall : (g.edges.filter fun e => e.source ∈ g.nodeIds) = g.edges :=
    List.filter_eq_self.mpr fun e he => by simpa using hg.source_mem e he
  have hperm := g.flatMap_edgesFrom_perm hg.nodup
  rwa [hall] at hperm

/-- The entries of all models are the entries of all edges. -/
lemma IsSound.flatMap_edgeLines_perm (hg : g.IsSound) :
    (g.nodeIds.flatMap g.edgeLines).Perm (g.edges.map edgeLine) := by
  have hlines : g.nodeIds.flatMap g.edgeLines = (g.nodeIds.flatMap g.edgesFrom).map edgeLine := by
    simp only [List.map_flatMap, ← edgeLines_eq]
  rw [hlines]
  exact hg.flatMap_edgesFrom_perm.map edgeLine

lemma isSound_ofFiles (files : List SourceFile) : (ofFiles files).IsSound :=
  ⟨(isAssemblyOf_ofFiles files).nodup_nodeIds, (isAssemblyOf_ofFiles files).source_mem⟩

/-- The summaries of all models of a graph of files say each edge once: the entries behind their
headings, taken together, are the entries of all edges, each as often as it is an edge.  The
entries of one model come in the order of the graph, and every edge is said by exactly one model,
the one it starts at. -/
theorem modelSummary_partition (files : List SourceFile) :
    let g := ofFiles files
    (∀ id, g.modelSummary id = "Model ".toList ++ id ++
      ((g.edgesFrom id).map edgeLine).flatMap fun entry => '\n' :: entry) ∧
    (g.nodeIds.flatMap fun id => (g.edgesFrom id).map edgeLine).Perm (g.edges.map edgeLine) ∧
    (g.nodeIds.flatMap g.edgesFrom).Perm g.edges ∧
    (∀ id, (g.edgesFrom id).Sublist g.edges) ∧
    ∀ e ∈ g.edges, ∃ n ∈ g.nodes, ∀ m ∈ g.nodes, e ∈ g.edgesFrom m.id ↔ m = n := by
  intro g
  have hsound : g.IsSound := isSound_ofFiles files
  refine ⟨g.modelSummary_eq, hsound.flatMap_edgeLines_perm, hsound.flatMap_edgesFrom_perm,
    fun id => List.filter_sublist, ?_⟩
  intro e he
  obtain ⟨n, hn, hid⟩ := List.mem_map.mp (hsound.source_mem e he)
  refine ⟨n, hn, fun m hm => ?_⟩
  rw [mem_edgesFrom]
  constructor
  · rintro ⟨-, hsource⟩
    exact List.inj_on_of_nodup_map hsound.nodup hm hn (hsource.symm.trans hid.symm)
  · rintro rfl
    exact ⟨he, hid.symm⟩

end RelationAtlas.Graph
