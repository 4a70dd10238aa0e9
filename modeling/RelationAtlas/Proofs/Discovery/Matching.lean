import Mathlib.Tactic.Lemma
import RelationAtlas.Discovery.Pattern

/-!
# What a pattern matches

The components of a pattern are matched with the names of a path from left to right: a double star
stands for any number of names, and each other component for one (`Covers`).

An ordinary pattern (`IsOrdinary`) is turned into its components one by one (`ofText_eq`), and when it
covers no name at all, it consists of double stars (`Covers.getLast?_of_nil`).
-/

namespace RelationAtlas.Pattern

/-! ## Ordinary patterns -/

/-- The components of a pattern as they are written. -/
def components (pattern : Text) : List Text := (Path.names pattern).filter (· ≠ Path.here)

/-- A pattern that is relative, has a component, does not end with a slash, does not go up, and in
which a double star stands alone. -/
structure IsOrdinary (pattern : Text) : Prop where
  relative : Path.isAbsolute pattern = false
  ne_nil : components pattern ≠ []
  noFinalSlash : Path.hasFinalSlash pattern = false
  up_notMem : Path.up ∉ components pattern
  eq_doubleStar : ∀ c ∈ components pattern, holdsDoubleStar c = true → c = doubleStar

/-- What a component of an ordinary pattern stands for. -/
def meaning (c : Text) : Component :=
  if c = doubleStar then .anyDepth
  else if c.any isSpecial then .wild (Wildcard.pieces c)
  else .name c

/-- The component that a text stands for, unless it mixes a double star with other characters. -/
lemma component_eq {c : Text} (h : holdsDoubleStar c = true → c = doubleStar) :
    component c = .ok (meaning c) := by
  unfold component meaning
  by_cases hstar : c = doubleStar
  · rw [if_pos hstar, if_pos hstar]
  · rw [if_neg hstar, if_neg hstar, if_neg fun hholds => hstar (h hholds)]
    split <;> rfl

/-- A component that is read is what its text stands for. -/
lemma eq_meaning_of_component {c : Text} {m : Component} (h : component c = .ok m) :
    m = meaning c := by
  by_cases hstar : c = doubleStar
  · rw [component, if_pos hstar] at h
    rw [meaning, if_pos hstar]
    exact (Except.ok.inj h).symm
  · have hholds : holdsDoubleStar c = true → c = doubleStar := by
      intro hholds
      rw [component, if_neg hstar, if_pos hholds] at h
      cases h
    rw [component_eq hholds] at h
    exact (Except.ok.inj h).symm

/-- A text that stands for a name stands for itself. -/
lemma eq_of_meaning_eq_name {c n : Text} (h : meaning c = .name n) : c = n := by
  unfold meaning at h
  split at h
  · cases h
  split at h
  · cases h
  · exact Component.name.inj h

/-- Components that are read are what their texts stand for. -/
lemma eq_map_of_mapM {cs : List Text} {ms : Pattern} (h : cs.mapM component = .ok ms) :
    ms = cs.map meaning := by
  induction cs generalizing ms with
  | nil => exact (Except.ok.inj h).symm
  | cons c cs ih =>
    rw [List.mapM_cons] at h
    cases hc : component c with
    | error f =>
      rw [hc] at h
      cases h
    | ok m =>
      cases hcs : cs.mapM component with
      | error f =>
        rw [hc, hcs] at h
        cases h
      | ok rest =>
        rw [hc, hcs] at h
        rw [List.map_cons, ← eq_meaning_of_component hc, ← ih hcs]
        exact (Except.ok.inj h).symm

/-- The components that a list of texts stands for. -/
lemma mapM_component {cs : List Text} (h : ∀ c ∈ cs, holdsDoubleStar c = true → c = doubleStar) :
    cs.mapM component = .ok (cs.map meaning) := by
  induction cs with
  | nil => rfl
  | cons c cs ih =>
    rw [List.mapM_cons, component_eq (h c (by simp)), ih fun b hb => h b (by simp [hb])]
    rfl

/-- An ordinary pattern stands for its components. -/
lemma ofText_eq {pattern : Text} (h : IsOrdinary pattern) :
    ofText pattern = .ok ((components pattern).map meaning) := by
  have hne : pattern ≠ [] := by
    rintro rfl
    exact h.ne_nil rfl
  have hmap : (components pattern).map meaning ≠ [] := by
    simpa using h.ne_nil
  rw [ofText, if_neg hne, if_neg (by simp [h.relative]), ← components,
    mapM_component h.eq_doubleStar]
  simp only [bind, Except.bind]
  rw [if_neg (by simp [h.noFinalSlash]), if_neg hmap]
  rfl

/-! ## Covering -/

/-- Does one component describe one name?  A component with special characters is a wildcard, any
other one is the name itself. -/
def Describes (c name : Text) : Prop :=
  if c.any isSpecial then Wildcard.describes (Wildcard.pieces c) name = true else name = c

/-- Components cover names when they can be matched with them from left to right. -/
inductive Covers : List Text → List Text → Prop
  | nil : Covers [] []
  | anyDepth {cs names : List Text} (down : List Text) (h : Covers cs names) :
      Covers (doubleStar :: cs) (down ++ names)
  | one {c name : Text} {cs names : List Text} (hc : c ≠ doubleStar) (hname : Describes c name)
      (h : Covers cs names) : Covers (c :: cs) (name :: names)

lemma covers_nil_iff {names : List Text} : Covers [] names ↔ names = [] := by
  constructor
  · intro h
    cases h
    rfl
  · rintro rfl
    exact .nil

/-- A double star takes any number of names. -/
lemma covers_doubleStar_iff {cs names : List Text} :
    Covers (doubleStar :: cs) names ↔ ∃ down rest, names = down ++ rest ∧ Covers cs rest := by
  constructor
  · intro h
    cases h with
    | anyDepth down h => exact ⟨down, _, rfl, h⟩
    | one hc => exact absurd rfl hc
  · rintro ⟨down, rest, rfl, h⟩
    exact .anyDepth down h

/-- Each other component takes one name. -/
lemma covers_cons_iff {c : Text} (hc : c ≠ doubleStar) {cs names : List Text} :
    Covers (c :: cs) names ↔
      ∃ name rest, names = name :: rest ∧ Describes c name ∧ Covers cs rest := by
  constructor
  · intro h
    cases h with
    | anyDepth => exact absurd rfl hc
    | one _ hname h => exact ⟨_, _, rfl, hname, h⟩
  · rintro ⟨name, rest, rfl, hname, h⟩
    exact .one hc hname h

/-- What covers no name at all ends with a double star. -/
lemma Covers.getLast?_of_nil {cs : List Text} (h : Covers cs []) (hcs : cs ≠ []) :
    cs.getLast? = some doubleStar := by
  induction cs with
  | nil => exact absurd rfl hcs
  | cons c cs ih =>
    by_cases hc : c = doubleStar
    · subst hc
      obtain ⟨down, rest, happ, hrest⟩ := covers_doubleStar_iff.mp h
      obtain ⟨-, rfl⟩ := List.append_eq_nil_iff.mp happ.symm
      cases cs with
      | nil => rfl
      | cons b cs =>
        rw [List.getLast?_cons_cons]
        exact ih hrest (by simp)
    · obtain ⟨_, _, hnil, -⟩ := (covers_cons_iff hc).mp h
      cases hnil

end RelationAtlas.Pattern
