import Mathlib.Data.List.Forall2
import RelationAtlas.Proofs.Graph.Assembly
import RelationAtlas.Proofs.Source.Identity
import RelationAtlas.Proofs.Source.ImportTables
import RelationAtlas.Proofs.Text.Sealed

/-!
# What the targets of edges are

A file has an edge for each of its relationships, in the same order, and the target of the edge is what
the target as written is understood to be.  It is understood in one of three ways: a rooted name loses its
first separator, a name whose last segment is imported is what the import says, and any other name is a
member of the namespace of the file.

The last segment stays the same in each of these ways (`Contribution.lastSegment_targets`), because an
alias is the last segment of what it stands for.  The characters need not stay those of names: an import
that is no plain path, such as a list of names, is handed on as it is written, and this is the only way in
which a target gets other characters (`Contribution.isSpelled_targets_iff`).
-/

namespace RelationAtlas

open Text

/-! ## Last segments -/

namespace Name

/-- What stands in front of a separator does not matter for the last segment. -/
lemma lastSegment_append_separator (u v : Text) :
    lastSegment (u ++ separator :: v) = lastSegment v := by
  have hreverse : (u ++ separator :: v).reverse = v.reverse ++ separator :: u.reverse := by simp
  rw [lastSegment, lastSegment, hreverse, takeWhile_append_cons (by simp)]

/-- A text without separators is part of the last segment of what it stands at the end of. -/
lemma lastSegment_append_of_notMem (u : Text) {v : Text} (hv : separator ∉ v) :
    lastSegment (u ++ v) = lastSegment u ++ v := by
  have hall : ∀ c ∈ v.reverse, decide (c ≠ separator) = true := by
    intro c hc
    simpa using fun heq : c = separator => hv (heq ▸ List.mem_reverse.mp hc)
  rw [lastSegment, lastSegment, List.reverse_append, List.takeWhile_append_of_pos hall,
    List.reverse_append, List.reverse_reverse]

/-- A text of word characters and separators. -/
def IsSpelled (t : Text) : Prop := ∀ c ∈ t, isNameChar c = true

/-- A member of a spelled scope is spelled as its own name is. -/
lemma IsSpelled.qualify {scope name : Text} (hscope : IsSpelled scope) (hname : IsSpelled name) :
    IsSpelled (Name.qualify scope name) := by
  intro c hc
  rcases List.mem_append.mp hc with hc | hc
  · exact hscope c hc
  rcases List.mem_cons.mp hc with rfl | hc
  · decide
  · exact hname c hc

end Name

/-- The namespace of a file is spelled with the characters of names. -/
lemma Declaration.isSpelled_scope {t : Text} {c : ClassIdentity} (h : identity t = .ok c) :
    Name.IsSpelled c.scope := by
  have hanswers := answers_identity t
  rw [h] at hanswers
  obtain ⟨p, q, ⟨⟨d, -, -, -, -, -, hvalue⟩, -⟩, -, rfl⟩ := hanswers
  intro ch hch
  rw [hvalue] at hch
  exact d.name.isNameChar ch hch

/-! ## Contributions by the meaning of targets -/

namespace Contribution

/-- What a file contributes when the targets of its relationships are understood in the given way. -/
def ofFileBy (meaning : ClassIdentity → Text → Text) (file : SourceFile) :
    Except DeclarationFault Contribution :=
  (Declaration.identity file.text).map fun c =>
    { node := ⟨c.qualified, c.name, file.path⟩
      edges := (Relationship.ofText file.text).map fun r =>
        ⟨c.qualified, meaning c r.target, r.method, r.kind⟩ }

/-- A file contributes what it does by the rules of its imports. -/
lemma ofFile_eq_ofFileBy (file : SourceFile) :
    ofFile file =
      ofFileBy (fun c raw => resolveTarget raw c.scope (Import.table file.text)) file := rfl

/-- Only the meaning of the targets in the file matters. -/
lemma ofFileBy_congr {meaning meaning' : ClassIdentity → Text → Text} {file : SourceFile}
    (h : ∀ c, ∀ r ∈ Relationship.ofText file.text, meaning c r.target = meaning' c r.target) :
    ofFileBy meaning file = ofFileBy meaning' file := by
  rw [ofFileBy, ofFileBy]
  cases Declaration.identity file.text with
  | error fault => rfl
  | ok c =>
    have hedges := List.map_congr_left fun r hr => congrArg
      (fun target => Edge.mk c.qualified target r.method r.kind) (h c r hr)
    simp only [Except.map, hedges]

/-- Relationships and edges go together one by one, and what holds of each target as written and its
meaning holds of their targets. -/
lemma forall₂_targets {file : SourceFile} {c : ClassIdentity} (R : Text → Text → Prop)
    (h : ∀ r ∈ Relationship.ofText file.text,
      R r.target (resolveTarget r.target c.scope (Import.table file.text))) :
    List.Forall₂ (fun r e => R r.target e.target) (Relationship.ofText file.text)
      (ofClass c file).edges :=
  List.forall₂_map_right_iff.mpr (List.forall₂_same.mpr h)

/-! ## The last segment of a target -/

/-- Whatever is imported, a target keeps its last segment. -/
lemma lastSegment_resolveTarget (raw scope : Text) (paths : List Text) :
    Name.lastSegment (resolveTarget raw scope (paths.foldl Import.add [])) =
      Name.lastSegment raw := by
  rw [resolveTarget_eq]
  split
  · next hroot =>
    obtain ⟨rest, rfl⟩ := List.head?_eq_some_iff.mp hroot
    exact (Name.lastSegment_append_separator [] rest).symm
  · cases hget : (paths.foldl Import.add []).get? (Name.lastSegment raw) with
    | none => exact Name.lastSegment_qualify (Name.separator_notMem_lastSegment raw)
    | some path => exact (Import.get?_foldl_add_eq_some_iff.mp hget).2.1

/-- A file has as many edges as relationships, and each edge leads to a class with the last segment that
its relationship is written with. -/
theorem lastSegment_targets {file : SourceFile} {c : Contribution} (h : ofFile file = .ok c) :
    List.Forall₂ (fun r e => Name.lastSegment e.target = Name.lastSegment r.target)
      (Relationship.ofText file.text) c.edges := by
  obtain ⟨identity, -, rfl⟩ := ofFile_eq_ok_iff.mp h
  apply forall₂_targets fun raw target => Name.lastSegment target = Name.lastSegment raw
  intro r _
  exact lastSegment_resolveTarget r.target identity.scope (Import.paths file.text)

/-- A file with a target for each way to understand one, and with imports of the same alias, without an
alias, and of more than a path. -/
def fourTargets : SourceFile where
  path := "User.php".toList
  text := "<?php\nnamespace App\\Models;\nuse Blog\\Post;\nuse News\\Post;\nuse Blog\\;\n".toList ++
    "use Shop\\Cart, Shop\\Order;\nclass User \x7b\npublic function all() \x7b\n".toList ++
    "$this->hasOne(\\Billing\\Invoice::class); $this->hasMany(Post::class);\n".toList ++
    "$this->hasMany(Old\\Order::class); $this->belongsTo(Team::class);\n\x7d\n\x7d\n".toList

/-- Rooted, imported or not, written in full or in part, the targets keep their last segments. -/
theorem lastSegment_targets_fourTargets : ∃ c, ofFile fourTargets = .ok c ∧
    c.edges.map Edge.target = ["Billing\\Invoice".toList, "News\\Post".toList,
      "Shop\\Cart, Shop\\Order".toList, "App\\Models\\Team".toList] ∧
    List.Forall₂ (fun r e => Name.lastSegment e.target = Name.lastSegment r.target)
      (Relationship.ofText fourTargets.text) c.edges := by
  have htargets : (ofFile fourTargets).map (fun c => c.edges.map Edge.target) =
      .ok ["Billing\\Invoice".toList, "News\\Post".toList, "Shop\\Cart, Shop\\Order".toList,
        "App\\Models\\Team".toList] := by
    decide +kernel
  cases hfile : ofFile fourTargets with
  | error fault =>
    rw [hfile] at htargets
    cases htargets
  | ok c =>
    rw [hfile] at htargets
    exact ⟨c, rfl, Except.ok.inj htargets, lastSegment_targets hfile⟩

/-! ## The characters of a target -/

/-- The last import with the last segment of an unrooted target is what the target stands for. -/
def StandsFor (t raw path : Text) : Prop :=
  raw.head? ≠ some Name.separator ∧
    Import.IsLastWith (Import.paths t) (Name.lastSegment raw) path

/-- A target that stands for an import is understood as the imported path. -/
lemma resolveTarget_of_standsFor {t raw path : Text} (h : StandsFor t raw path) (scope : Text) :
    resolveTarget raw scope (Import.table t) = path := by
  rw [resolveTarget_eq, if_neg h.1, Import.table, Import.get?_foldl_add_eq_some_iff.mpr h.2,
    Option.getD_some]

/-- A target that stands for no import is made of its own characters and those of the namespace. -/
lemma isSpelled_resolveTarget {t raw scope : Text} (hraw : Name.IsSpelled raw)
    (hscope : Name.IsSpelled scope) (h : ∀ path, ¬ StandsFor t raw path) :
    Name.IsSpelled (resolveTarget raw scope (Import.table t)) := by
  rw [resolveTarget_eq]
  split
  · intro c hc
    exact hraw c (List.mem_of_mem_tail hc)
  · next hunrooted =>
    have hnone : (Import.table t).get? (Name.lastSegment raw) = none := by
      apply Option.eq_none_iff_forall_ne_some.mpr
      intro path hpath
      exact h path ⟨hunrooted, Import.get?_foldl_add_eq_some_iff.mp hpath⟩
    rw [hnone, Option.getD_none]
    apply hscope.qualify
    intro c hc
    exact hraw c (Name.mem_of_mem_lastSegment hc)

/-- The target of an edge is spelled with the characters of names, if the target as written is, unless
the last import with its last segment holds others: the edge then leads to what is written in the
import. -/
theorem isSpelled_targets_iff {file : SourceFile} {c : Contribution} (h : ofFile file = .ok c) :
    List.Forall₂ (fun r e => Name.IsSpelled r.target →
        (Name.IsSpelled e.target ↔
          ∀ path, StandsFor file.text r.target path → Name.IsSpelled path) ∧
        ∀ path, StandsFor file.text r.target path → e.target = path)
      (Relationship.ofText file.text) c.edges := by
  obtain ⟨identity, hidentity, rfl⟩ := ofFile_eq_ok_iff.mp h
  apply forall₂_targets fun raw target => Name.IsSpelled raw →
    (Name.IsSpelled target ↔ ∀ path, StandsFor file.text raw path → Name.IsSpelled path) ∧
    ∀ path, StandsFor file.text raw path → target = path
  intro r _ hspelled
  have hmeaning : ∀ path, StandsFor file.text r.target path →
      resolveTarget r.target identity.scope (Import.table file.text) = path :=
    fun path hpath => resolveTarget_of_standsFor hpath identity.scope
  refine ⟨⟨fun htarget path hpath => hmeaning path hpath ▸ htarget, fun hpaths => ?_⟩, hmeaning⟩
  by_cases hnone : ∀ path, ¬ StandsFor file.text r.target path
  · exact isSpelled_resolveTarget hspelled (Declaration.isSpelled_scope hidentity) hnone
  · obtain ⟨path, hpath⟩ := not_forall_not.mp hnone
    rw [hmeaning path hpath]
    exact hpaths path hpath

/-- A file that imports two models with one statement. -/
def listedImports : SourceFile where
  path := "User.php".toList
  text := "<?php\nnamespace App;\nuse Blog\\Comment, Blog\\Post;\nclass User \x7b\n".toList ++
    "public function posts() \x7b return $this->hasMany(Post::class); \x7d\n\x7d\n".toList

/-- What the file contributes: its edge leads to the list of both models. -/
def listedContribution : Contribution where
  node := ⟨"App\\User".toList, "User".toList, "User.php".toList⟩
  edges := [⟨"App\\User".toList, "Blog\\Comment, Blog\\Post".toList, "posts".toList, .hasMany⟩]

lemma ofFile_listedImports : ofFile listedImports = .ok listedContribution := by decide +kernel

/-- The name of the second model stands for the list. -/
theorem isSpelled_targets_iff_listedImports : ofFile listedImports = .ok listedContribution ∧
    List.Forall₂ (fun r e => Name.IsSpelled r.target →
        (Name.IsSpelled e.target ↔
          ∀ path, StandsFor listedImports.text r.target path → Name.IsSpelled path) ∧
        ∀ path, StandsFor listedImports.text r.target path → e.target = path)
      (Relationship.ofText listedImports.text) listedContribution.edges :=
  ⟨ofFile_listedImports, isSpelled_targets_iff ofFile_listedImports⟩

/-- Do the edges of a file lead to names, where the targets as written are names? -/
def LeadsToNames (file : SourceFile) : Prop :=
  ∀ c, ofFile file = .ok c → List.Forall₂
    (fun r e => Name.IsSpelled r.target → Name.IsSpelled e.target)
    (Relationship.ofText file.text) c.edges

/-- An edge may lead to a list of names. -/
theorem not_leadsToNames_listedImports : ¬ LeadsToNames listedImports := by
  intro hnames
  have hrelationships : Relationship.ofText listedImports.text =
      [⟨"posts".toList, .hasMany, "Post".toList⟩] := by
    decide +kernel
  have hedges := hnames listedContribution ofFile_listedImports
  rw [hrelationships] at hedges
  obtain ⟨hspelled, -⟩ := List.forall₂_cons.mp hedges
  have hcomma := hspelled (List.all_eq_true.mp (by decide +kernel)) ',' (by decide)
  rw [Name.isNameChar_of_delimiter (by decide)] at hcomma
  cases hcomma

end Contribution

end RelationAtlas
