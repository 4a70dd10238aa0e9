import Mathlib.Data.List.Sort
import RelationAtlas.Discovery.Search

/-!
# Outcomes of searches

A search either finds something or ends with a fault, and what is proved about it says both: what is
found and which faults are possible (`Search.Yields`).  Such statements are put together along the
steps of a search (`Yields.bind`, `yields_collect`).

What is found in the end is sorted, strictly by code points (`Text.pairwise_sorted`), so it does not
matter in which order it was collected (`map_sorted_collect_perm`).
-/

namespace RelationAtlas

/-! ## Sorting -/

namespace Text

/-- Insertion keeps a list strictly increasing. -/
lemma pairwise_sortedInsert (t : Text) {us : List Text} (h : us.Pairwise (· < ·)) :
    (sortedInsert t us).Pairwise (· < ·) := by
  induction us with
  | nil => simp [sortedInsert]
  | cons u us ih =>
    obtain ⟨hu, hus⟩ := List.pairwise_cons.mp h
    rw [sortedInsert]
    split
    · next htu =>
      refine List.pairwise_cons.mpr ⟨fun v hv => ?_, h⟩
      rcases List.mem_cons.mp hv with rfl | hv
      · exact htu
      · exact List.lt_trans htu (hu v hv)
    · next htu =>
      split
      · exact h
      · next hne =>
        have hut : u < t := Decidable.byContradiction fun h =>
          hne (List.le_antisymm (List.not_lt.mp h) (List.not_lt.mp htu))
        refine List.pairwise_cons.mpr ⟨fun v hv => ?_, ih hus⟩
        rcases mem_sortedInsert.mp hv with rfl | hv
        · exact hut
        · exact hu v hv

/-- A sorted list is strictly increasing. -/
lemma pairwise_sorted (ts : List Text) : (sorted ts).Pairwise (· < ·) := by
  induction ts with
  | nil => simp [sorted]
  | cons t ts ih => exact pairwise_sortedInsert t ih

/-- Lists with the same members are the same when they are sorted. -/
lemma sorted_congr {ts us : List Text} (h : ∀ t, t ∈ ts ↔ t ∈ us) : sorted ts = sorted us := by
  refine (pairwise_sorted ts).eq_of_mem_iff (pairwise_sorted us) fun t => ?_
  rw [mem_sorted, mem_sorted, h]

end Text

namespace Search

variable {α β : Type}

/-! ## Outcomes -/

/-- What is found is good, and every fault is one of the possible ones. -/
def Yields (r : Except SearchFault α) (good : α → Prop) (possible : SearchFault → Prop) : Prop :=
  match r with
  | .ok a => good a
  | .error f => possible f

variable {r : Except SearchFault α} {good : α → Prop} {possible : SearchFault → Prop}

/-- A weaker statement about what is found. -/
lemma Yields.mono (h : Yields r good possible) {good' : α → Prop} (hgood : ∀ a, good a → good' a) :
    Yields r good' possible := by
  cases r with
  | ok a => exact hgood a h
  | error f => exact h

/-- A weaker statement about the faults. -/
lemma Yields.mono_fault (h : Yields r good possible) {possible' : SearchFault → Prop}
    (hpossible : ∀ f, possible f → possible' f) : Yields r good possible' := by
  cases r with
  | ok a => exact h
  | error f => exact hpossible f h

/-- One step of a search after the other. -/
lemma Yields.bind (h : Yields r good possible) {f : α → Except SearchFault β} {good' : β → Prop}
    (hf : ∀ a, good a → Yields (f a) good' possible) : Yields (r >>= f) good' possible := by
  cases r with
  | ok a => exact hf a h
  | error g => exact h

/-- A step that is taken or not. -/
lemma yields_ite {c : Prop} [Decidable c] {r' : Except SearchFault α} (h : Yields r good possible)
    (h' : Yields r' good possible) : Yields (if c then r else r') good possible := by
  split
  · exact h
  · exact h'

/-- What is collected for the members of a list. -/
lemma yields_collect {items : List α} {f : α → Except SearchFault (List β)} (found : α → β → Prop)
    (h : ∀ a ∈ items, Yields (f a) (fun ys => ∀ y, y ∈ ys ↔ found a y) possible) :
    Yields (collect items f) (fun ys => ∀ y, y ∈ ys ↔ ∃ a ∈ items, found a y) possible := by
  induction items with
  | nil =>
    intro y
    simp
  | cons a items ih =>
    refine (h a (by simp)).bind fun ys hys => ?_
    refine (ih fun b hb => h b (by simp [hb])).bind fun zs hzs => ?_
    intro y
    rw [List.mem_append, hys, hzs]
    simp

/-- What holds of everything that is collected. -/
lemma yields_collect_forall {items : List α} {f : α → Except SearchFault (List β)} {P : β → Prop}
    (h : ∀ a ∈ items, Yields (f a) (fun ys => ∀ y ∈ ys, P y) possible) :
    Yields (collect items f) (fun ys => ∀ y ∈ ys, P y) possible := by
  induction items with
  | nil =>
    intro y hy
    cases hy
  | cons a items ih =>
    refine (h a (by simp)).bind fun ys hys => ?_
    refine (ih fun b hb => h b (by simp [hb])).bind fun zs hzs => ?_
    intro y hy
    rcases List.mem_append.mp hy with hy | hy
    · exact hys y hy
    · exact hzs y hy

/-- What is done for each member of a list for its faults alone. -/
lemma yields_forM {items : List α} {f : α → Except SearchFault Unit}
    (h : ∀ a ∈ items, Yields (f a) (fun _ => True) possible) :
    Yields (items.forM f) (fun _ => True) possible := by
  induction items with
  | nil => trivial
  | cons a items ih => exact (h a (by simp)).bind fun _ _ => ih fun b hb => h b (by simp [hb])

/-- What is done for each member of a list, and never fails. -/
lemma forM_eq_ok {items : List α} {f : α → Except SearchFault Unit}
    (h : ∀ a ∈ items, f a = .ok ()) : items.forM f = .ok () := by
  induction items with
  | nil => rfl
  | cons a items ih =>
    change (f a >>= fun _ => items.forM f) = .ok ()
    rw [h a (by simp)]
    exact ih fun b hb => h b (by simp [hb])

/-- Looking through a directory has the faults of listing it and of looking behind what is listed. -/
lemma yields_survey_of_listing {d : Disk} {base : Text} {names : List Text}
    {P : Text × Entry → Prop}
    (hlisting : Yields (listing d base names) (fun items => ∀ item ∈ items, P item) possible)
    (hitem : ∀ item, P item →
      Yields (leadsToDirectory d base names item) (fun _ => True) possible) :
    Yields (survey d base names) (fun _ => True) possible := by
  refine hlisting.bind fun items hitems => ?_
  cases d.looksBehindLinks with
  | false => trivial
  | true => exact yields_forM fun item hmem => (hitem item (hitems item hmem)).bind fun _ _ => trivial

/-! ## Collecting -/

/-- What is collected is what is found for each of the members. -/
lemma collect_eq_ok {items : List α} {f : α → Except SearchFault (List β)}
    {found : α → List β} (h : ∀ a ∈ items, f a = .ok (found a)) :
    collect items f = .ok (items.flatMap found) := by
  induction items with
  | nil => rfl
  | cons a items ih =>
    rw [collect, h a (by simp), ih fun b hb => h b (by simp [hb])]
    rfl

/-- Something is collected only if something, or nothing, is found for each member. -/
lemma exists_of_collect_eq_ok {items : List α} {f : α → Except SearchFault (List β)} {ys : List β}
    (h : collect items f = .ok ys) : ∀ a ∈ items, ∃ zs, f a = .ok zs := by
  induction items generalizing ys with
  | nil => simp
  | cons a items ih =>
    rw [collect] at h
    cases hfirst : f a with
    | error g =>
      rw [hfirst] at h
      cases h
    | ok zs =>
      cases hrest : collect items f with
      | error g =>
        rw [hfirst, hrest] at h
        cases h
      | ok rest =>
        intro b hb
        rcases List.mem_cons.mp hb with rfl | hb
        · exact ⟨zs, hfirst⟩
        · exact ih hrest b hb

/-- What is collected has been found for one of the members. -/
lemma mem_of_collect_eq_ok {items : List α} {f : α → Except SearchFault (List β)} {ys : List β}
    (h : collect items f = .ok ys) {y : β} :
    y ∈ ys ↔ ∃ a ∈ items, ∃ zs, f a = .ok zs ∧ y ∈ zs := by
  have hsome := exists_of_collect_eq_ok h
  have hfound : ∀ a ∈ items, f a = .ok ((f a).toOption.getD []) := by
    intro a ha
    obtain ⟨zs, hzs⟩ := hsome a ha
    rw [hzs]
    rfl
  rw [collect_eq_ok hfound] at h
  rw [← Except.ok.inj h, List.mem_flatMap]
  constructor
  · rintro ⟨a, ha, hy⟩
    exact ⟨a, ha, _, hfound a ha, hy⟩
  · rintro ⟨a, ha, zs, hzs, hy⟩
    refine ⟨a, ha, ?_⟩
    rw [hzs]
    exact hy

/-- When collecting fails, it fails for one of the members. -/
lemma exists_of_collect_eq_error {items : List α} {f : α → Except SearchFault (List β)}
    {g : SearchFault} (h : collect items f = .error g) : ∃ a ∈ items, f a = .error g := by
  induction items with
  | nil => cases h
  | cons a items ih =>
    rw [collect] at h
    cases hfirst : f a with
    | error g' =>
      rw [hfirst] at h
      cases h
      exact ⟨a, by simp, hfirst⟩
    | ok zs =>
      cases hrest : collect items f with
      | error g' =>
        rw [hfirst, hrest] at h
        cases h
        obtain ⟨b, hb, hfault⟩ := ih hrest
        exact ⟨b, by simp [hb], hfault⟩
      | ok rest =>
        rw [hfirst, hrest] at h
        cases h

/-- The order in which things are collected does not matter when they are sorted in the end. -/
lemma map_sorted_collect_perm {items items' : List α} {f : α → Except SearchFault (List Text)}
    {found : List Text} (hperm : items.Perm items')
    (h : (collect items f).map Text.sorted = .ok found) :
    (collect items' f).map Text.sorted = .ok found := by
  cases hcollect : collect items f with
  | error g =>
    rw [hcollect] at h
    cases h
  | ok ys =>
    have hsome := exists_of_collect_eq_ok hcollect
    -- What is found for a member, or nothing where there is a fault.
    have hfound : ∀ a ∈ items, f a = .ok ((f a).toOption.getD []) := by
      intro a ha
      obtain ⟨zs, hzs⟩ := hsome a ha
      rw [hzs]
      rfl
    have hfound' : ∀ a ∈ items', f a = .ok ((f a).toOption.getD []) :=
      fun a ha => hfound a (hperm.mem_iff.mpr ha)
    rw [collect_eq_ok hfound] at h
    rw [collect_eq_ok hfound', ← h]
    refine congrArg Except.ok (Text.sorted_congr fun t => ?_)
    exact (hperm.flatMap_right _).mem_iff.symm

end Search

end RelationAtlas
