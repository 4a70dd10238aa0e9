import Mathlib.Algebra.BigOperators.Group.List.Lemmas
import Mathlib.Algebra.GroupWithZero.Nat
import Mathlib.Data.List.Count
import Mathlib.Data.List.Dedup
import RelationAtlas.Graph.Summary
import RelationAtlas.Proofs.Discovery.Outcomes
import RelationAtlas.Proofs.Graph.Assembly
import RelationAtlas.Proofs.Source.Identity

/-!
# What a summary counts

A summary counts the nodes of a graph by what stands before the last separator of their names, and its
edges by the words of their kinds.  In the graph of a list of files these are the namespaces that the
files declare, each with its classes, and the kinds of the relationships in the files that declare a
class (`summary_ofFiles_counts`).

A class counts once, however many files declare it, and a relationship counts as often as it is
declared.  That the namespace of a class can be read off its qualified name rests on the name of the
class, which holds no separator (`Declaration.separator_notMem_name`).
-/

namespace RelationAtlas

/-! ## Tallies -/

section Tally

variable {ts : List Text}

lemma map_fst_tally (ts : List Text) : (tally ts).map (·.1) = Text.sorted ts := by
  rw [tally, List.map_map]
  exact List.map_id _

/-- A tally says of each text how often it occurs. -/
lemma mem_tally {t : Text} {n : Nat} : (t, n) ∈ tally ts ↔ t ∈ ts ∧ n = ts.count t := by
  rw [tally, List.mem_map]
  constructor
  · rintro ⟨u, hu, heq⟩
    obtain ⟨rfl, rfl⟩ := Prod.mk.inj heq
    exact ⟨Text.mem_sorted.mp hu, rfl⟩
  · rintro ⟨ht, rfl⟩
    exact ⟨t, Text.mem_sorted.mpr ht, rfl⟩

lemma pos_of_mem_tally {p : Text × Nat} (h : p ∈ tally ts) : 0 < p.2 := by
  obtain ⟨hmem, hcount⟩ := mem_tally.mp h
  rw [hcount]
  exact List.count_pos_iff.mpr hmem

/-- The numbers of a tally add up to the number of texts. -/
lemma sum_tally (ts : List Text) : ((tally ts).map (·.2)).sum = ts.length := by
  have hnodup : (Text.sorted ts).Nodup := by
    refine (Text.pairwise_sorted ts).imp ?_
    rintro t _ hlt rfl
    exact List.lt_irrefl t hlt
  have hperm : (Text.sorted ts).Perm ts.dedup :=
    (List.perm_ext_iff_of_nodup hnodup (List.nodup_dedup ts)).mpr fun t => by
      rw [Text.mem_sorted, List.mem_dedup]
  have hsum := List.sum_map_count_dedup_eq_length ts
  rw [lawful_beq_subsingleton instBEqOfDecidableEq (List.instBEq : BEq Text)] at hsum
  rw [tally, List.map_map, ← hsum]
  exact (hperm.map fun t => ts.count t).sum_eq

end Tally

/-! ## Declared classes -/

/-- The name of a declared class holds no separator. -/
lemma Declaration.separator_notMem_name {t : Text} {c : ClassIdentity} (h : identity t = .ok c) :
    Name.separator ∉ c.name := by
  have hanswers := answers_identity t
  rw [h] at hanswers
  obtain ⟨p, q, -, ⟨⟨d, -, -, -, -, -, hvalue, -⟩, -⟩, rfl⟩ := hanswers
  intro hmem
  rw [hvalue] at hmem
  exact absurd (d.name.isWord _ hmem) (by decide)

namespace Graph

variable {files : List SourceFile}

/-- The classes that files declare, one for each file that declares one. -/
def declaredClasses (files : List SourceFile) : List ClassIdentity :=
  files.filterMap fun file => (Declaration.identity file.text).toOption

/-- The names of the classes that files declare in a namespace, each once. -/
def classNames (files : List SourceFile) (scope : Text) : List Text :=
  (((declaredClasses files).filter fun c => c.scope = scope).map (·.name)).dedup

/-- The relationships in the files that declare a class, one file after another. -/
def reported (files : List SourceFile) : List Relationship :=
  (files.filter fun file => (Declaration.identity file.text).isOk).flatMap fun file =>
    Relationship.ofText file.text

lemma mem_declaredClasses {c : ClassIdentity} :
    c ∈ declaredClasses files ↔ ∃ file ∈ files, Declaration.identity file.text = .ok c := by
  rw [declaredClasses, List.mem_filterMap]
  refine exists_congr fun file => and_congr_right fun _ => ?_
  cases Declaration.identity file.text <;> simp [Except.toOption]

lemma mem_classNames {scope name : Text} :
    name ∈ classNames files scope ↔ ⟨scope, name⟩ ∈ declaredClasses files := by
  rw [classNames, List.mem_dedup, List.mem_map]
  constructor
  · rintro ⟨c, hc, rfl⟩
    obtain ⟨hmem, hscope⟩ := List.mem_filter.mp hc
    obtain rfl := of_decide_eq_true hscope
    exact hmem
  · intro hmem
    exact ⟨_, List.mem_filter.mpr ⟨hmem, decide_eq_true rfl⟩, rfl⟩

/-- Each declared class is contributed. -/
lemma map_id_contributions (files : List SourceFile) :
    (contributions files).map (·.node.id) = (declaredClasses files).map (·.qualified) := by
  rw [contributions, declaredClasses, List.map_filterMap, List.map_filterMap]
  refine List.filterMap_congr fun file _ => ?_
  rw [Contribution.ofFile]
  cases Declaration.identity file.text <;> rfl

/-- Each reported relationship is contributed. -/
lemma map_kind_contributions (files : List SourceFile) :
    ((contributions files).flatMap (·.edges)).map (·.kind) = (reported files).map (·.kind) := by
  induction files with
  | nil => rfl
  | cons file files ih =>
    cases hidentity : Declaration.identity file.text with
    | error f =>
      have hcontributions : contributions (file :: files) = contributions files := by
        rw [contributions, List.filterMap_cons, Contribution.ofFile, hidentity]
        rfl
      have hreported : reported (file :: files) = reported files := by
        rw [reported, List.filter_cons, hidentity]
        rfl
      rw [hcontributions, hreported, ih]
    | ok c =>
      have hcontributions : contributions (file :: files) =
          Contribution.ofClass c file :: contributions files := by
        rw [contributions, List.filterMap_cons, Contribution.ofFile, hidentity]
        rfl
      have hreported : reported (file :: files) =
          Relationship.ofText file.text ++ reported files := by
        rw [reported, List.filter_cons, hidentity]
        rfl
      have hedges : (Contribution.ofClass c file).edges.map (·.kind) =
          (Relationship.ofText file.text).map (·.kind) := by
        rw [Contribution.ofClass, List.map_map]
        rfl
      rw [hcontributions, hreported, List.flatMap_cons, List.map_append, hedges, ih,
        List.map_append]

/-- The nodes are called what the declared classes are called. -/
lemma mem_nodeIds_iff_declared {id : Text} :
    id ∈ (ofFiles files).nodeIds ↔ ∃ c ∈ declaredClasses files, c.qualified = id := by
  rw [ofFiles_eq_foldl, nodeIds_foldl_add, List.mem_eraseDups, map_id_contributions, List.mem_map]

/-- The namespace and the name of a declared class are told by its qualified name. -/
lemma cut_qualified {c : ClassIdentity} (h : c ∈ declaredClasses files) :
    Name.scope c.qualified = c.scope ∧ Name.lastSegment c.qualified = c.name := by
  obtain ⟨file, -, hidentity⟩ := mem_declaredClasses.mp h
  have hname := Declaration.separator_notMem_name hidentity
  exact ⟨Name.scope_qualify hname, Name.lastSegment_qualify hname⟩

/-- The nodes of a namespace are as many as the classes that are declared in it. -/
lemma count_scope_nodes (files : List SourceFile) (scope : Text) :
    ((ofFiles files).nodes.map fun n => Name.scope n.id).count scope =
      (classNames files scope).length := by
  have hnodes : ((ofFiles files).nodes.map fun n => Name.scope n.id) =
      (ofFiles files).nodeIds.map Name.scope := by
    rw [nodeIds, List.map_map]
    rfl
  rw [hnodes, List.count, List.countP_map, List.countP_eq_length_filter]
  -- Cutting off the namespace is one to one on these names, and leaves the names of the classes.
  generalize hids : (ofFiles files).nodeIds.filter ((· == scope) ∘ Name.scope) = ids
  have hmem : ∀ id, id ∈ ids ↔ ∃ c ∈ declaredClasses files, c.scope = scope ∧ c.qualified = id := by
    intro id
    rw [← hids, List.mem_filter, mem_nodeIds_iff_declared]
    constructor
    · rintro ⟨⟨c, hc, rfl⟩, hscope⟩
      exact ⟨c, hc, (cut_qualified hc).1.symm.trans (by simpa using hscope), rfl⟩
    · rintro ⟨c, hc, rfl, rfl⟩
      exact ⟨⟨c, hc, rfl⟩, by simp [(cut_qualified hc).1]⟩
  have hnodup : (ids.map Name.lastSegment).Nodup := by
    have hall : ids.Nodup := hids ▸ (isAssemblyOf_ofFiles files).nodup_nodeIds.filter _
    refine hall.map_on fun x hx y hy heq => ?_
    obtain ⟨c, hc, hscope, rfl⟩ := (hmem x).mp hx
    obtain ⟨c', hc', hscope', rfl⟩ := (hmem y).mp hy
    rw [(cut_qualified hc).2, (cut_qualified hc').2] at heq
    rw [ClassIdentity.qualified, ClassIdentity.qualified, hscope, hscope', heq]
  have hnames : ∀ name, name ∈ ids.map Name.lastSegment ↔ name ∈ classNames files scope := by
    intro name
    rw [List.mem_map, mem_classNames]
    constructor
    · rintro ⟨id, hid, rfl⟩
      obtain ⟨c, hc, rfl, rfl⟩ := (hmem id).mp hid
      rw [(cut_qualified hc).2]
      exact hc
    · intro hc
      exact ⟨_, (hmem _).mpr ⟨_, hc, rfl, rfl⟩, (cut_qualified hc).2⟩
  have hperm : (ids.map Name.lastSegment).Perm (classNames files scope) :=
    (List.perm_ext_iff_of_nodup hnodup (List.nodup_dedup _)).mpr hnames
  rw [← hperm.length_eq, List.length_map]

/-- The namespaces of the nodes are those of the declared classes. -/
lemma mem_scope_nodes {scope : Text} :
    scope ∈ (ofFiles files).nodes.map (fun n => Name.scope n.id) ↔
      ∃ c ∈ declaredClasses files, c.scope = scope := by
  have hmem : ∀ id, id ∈ (ofFiles files).nodes.map (·.id) ↔
      ∃ c ∈ declaredClasses files, c.qualified = id := fun id => mem_nodeIds_iff_declared
  have hnodes : (fun n : ModelNode => Name.scope n.id) = Name.scope ∘ (·.id) := rfl
  rw [hnodes, ← List.map_map, List.mem_map]
  constructor
  · rintro ⟨id, hid, rfl⟩
    obtain ⟨c, hc, rfl⟩ := (hmem id).mp hid
    exact ⟨c, hc, (cut_qualified hc).1.symm⟩
  · rintro ⟨c, hc, rfl⟩
    exact ⟨c.qualified, (hmem _).mpr ⟨c, hc, rfl⟩, (cut_qualified hc).1⟩

/-- The kinds of the edges are those of the reported relationships. -/
lemma map_kind_ofFiles (files : List SourceFile) :
    (ofFiles files).edges.map (·.kind) = (reported files).map (·.kind) := by
  rw [(isAssemblyOf_ofFiles files).edges_eq, map_kind_contributions]

/-- A summary counts what files declare. -/
structure Counts (files : List SourceFile) (g : Graph) (s : Summary) : Prop where
  pairwise_perNamespace : (s.perNamespace.map (·.1)).Pairwise (· < ·)
  mem_perNamespace : ∀ scope n, (scope, n) ∈ s.perNamespace ↔
    (∃ c ∈ declaredClasses files, c.scope = scope) ∧ n = (classNames files scope).length
  pairwise_perKind : (s.perKind.map (·.1)).Pairwise (· < ·)
  mem_perKind : ∀ word n, (word, n) ∈ s.perKind ↔ ∃ kind ∈ (reported files).map (·.kind),
    kind.word = word ∧ n = ((reported files).map (·.kind)).count kind
  pos : ∀ p ∈ s.perNamespace ++ s.perKind, 0 < p.2
  sum_perNamespace : (s.perNamespace.map (·.2)).sum = g.nodes.length
  sum_perKind : (s.perKind.map (·.2)).sum = g.edges.length
  exists_class : ∀ n ∈ g.nodes, ∃ file ∈ files, ∃ c, Declaration.identity file.text = .ok c ∧
    n.path = file.path ∧ Name.scope n.id = c.scope ∧ Name.lastSegment n.id = c.name ∧
      n.label = c.name
  isSome_message : s.message.isSome ↔ ∀ file ∈ files, ∀ c, Declaration.identity file.text ≠ .ok c

/-- The summary of the graph of a list of files counts what the files declare. -/
theorem summary_ofFiles_counts (files : List SourceFile) (root : Option Text) :
    Counts files (ofFiles files) ((ofFiles files).summary root) where
  pairwise_perNamespace := by
    rw [summary, map_fst_tally]
    exact Text.pairwise_sorted _
  mem_perNamespace scope n := by
    rw [summary, mem_tally, count_scope_nodes, mem_scope_nodes]
  pairwise_perKind := by
    rw [summary, map_fst_tally]
    exact Text.pairwise_sorted _
  mem_perKind word n := by
    have hwords : (ofFiles files).edges.map (·.kind.word) =
        ((reported files).map (·.kind)).map RelationKind.word := by
      rw [← map_kind_ofFiles, List.map_map]
      rfl
    have hcount : ∀ kind : RelationKind,
        (((reported files).map (·.kind)).map RelationKind.word).count kind.word =
          ((reported files).map (·.kind)).count kind := fun kind =>
      List.count_map_of_injective _ _ (fun _ _ => RelationKind.word_injective) kind
    rw [summary, mem_tally, hwords, List.mem_map]
    constructor
    · rintro ⟨⟨kind, hkind, rfl⟩, rfl⟩
      exact ⟨kind, hkind, rfl, hcount kind⟩
    · rintro ⟨kind, hkind, rfl, rfl⟩
      exact ⟨⟨kind, hkind, rfl⟩, (hcount kind).symm⟩
  pos p hp := by
    rcases List.mem_append.mp hp with hp | hp
    · exact pos_of_mem_tally hp
    · exact pos_of_mem_tally hp
  sum_perNamespace := by rw [summary, sum_tally, List.length_map]
  sum_perKind := by rw [summary, sum_tally, List.length_map]
  exists_class n hn := by
    obtain ⟨before, file, after, hfiles, ⟨c, hcontribution, rfl⟩, -⟩ := node_of_first_of_mem hn
    obtain ⟨identity, hidentity, rfl⟩ := Contribution.ofFile_eq_ok_iff.mp hcontribution
    have hfile : file ∈ files := by simp [hfiles]
    obtain ⟨hscope, hname⟩ := cut_qualified (mem_declaredClasses.mpr ⟨file, hfile, hidentity⟩)
    exact ⟨file, hfile, identity, hidentity, rfl, hscope, hname, rfl⟩
  isSome_message := by
    have hempty : (ofFiles files).isEmpty = true ↔ declaredClasses files = [] := by
      have hids : (ofFiles files).nodeIds = [] ↔ declaredClasses files = [] := by
        simp only [List.eq_nil_iff_forall_not_mem, mem_nodeIds_iff_declared, not_exists, not_and]
        exact ⟨fun h c hc => h _ c hc rfl, fun h _ c hc => absurd hc (h c)⟩
      rw [← hids, nodeIds, List.map_eq_nil_iff, isEmpty, List.isEmpty_iff]
    have hnone : declaredClasses files = [] ↔
        ∀ file ∈ files, ∀ c, Declaration.identity file.text ≠ .ok c := by
      simp only [List.eq_nil_iff_forall_not_mem, mem_declaredClasses, not_exists, not_and]
      exact ⟨fun h file hfile c => h c file hfile, fun h c file hfile => h file hfile c⟩
    rw [← hnone, ← hempty, summary]
    cases (ofFiles files).isEmpty <;> simp

end Graph

end RelationAtlas
