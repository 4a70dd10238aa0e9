import Mathlib.Tactic.Lemma
import RelationAtlas.Tree.Disk

/-!
# Single steps of a walk

What one step of a walk comes to depends on the tree, on the place and on the name alone
(`TakesStep`).  The purpose of the walk, the steps that follow, and what is made of links come in only
where a walk is put together from its steps (`walkWith_look_cons`, `after_of_walkWith`).

So what walks do is proved by induction on their steps, with one case for each thing that a step can
come to.
-/

namespace RelationAtlas

namespace FileTree

variable {t : FileTree} {purpose : Purpose} {l : Location} {name : Text} {rest : List Text}
  {onLink : Location → List Text → Except FileFault Landing}

/-- The steps that stay in a directory or go up from it. -/
def IsTurn (name : Text) : Prop := name = Path.afterSlash ∨ name = Path.here ∨ name = Path.up

lemma not_isTurn_iff : ¬ IsTurn name ↔
    ¬ (name = Path.afterSlash ∨ name = Path.here) ∧ name ≠ Path.up := by
  simp [IsTurn, and_assoc]

/-- What a single step comes to: the walk goes on from a place, nothing is at the place, a link is
there that holds a path, or the step cannot be taken. -/
inductive Move where
  | onward (l : Location)
  | missing (l : Location)
  | link (target : Text)
  | blocked (f : FileFault)

/-- A step from a place comes to this. -/
inductive TakesStep (t : FileTree) (l : Location) (name : Text) : Move → Prop where
  | nowhere (hdir : t.get? l ≠ some .directory) : TakesStep t l name (.blocked .notDirectory)
  | stay (hdir : t.get? l = some .directory) (hname : name = Path.afterSlash ∨ name = Path.here) :
    TakesStep t l name (.onward l)
  | up (hdir : t.get? l = some .directory) (hname : name = Path.up) :
    TakesStep t l name (.onward l.dropLast)
  | tooLong (hdir : t.get? l = some .directory) (hname : ¬ IsTurn name)
    (hsize : Path.nameLimit < Utf8.size name) : TakesStep t l name (.blocked .nameTooLong)
  | missing (hdir : t.get? l = some .directory) (hname : ¬ IsTurn name)
    (hsize : ¬ Path.nameLimit < Utf8.size name) (hget : t.get? (l ++ [name]) = none) :
    TakesStep t l name (.missing (l ++ [name]))
  | link {target : Text} (hdir : t.get? l = some .directory) (hname : ¬ IsTurn name)
    (hsize : ¬ Path.nameLimit < Utf8.size name)
    (hget : t.get? (l ++ [name]) = some (.link target)) : TakesStep t l name (.link target)
  | down {e : Entry} (hdir : t.get? l = some .directory) (hname : ¬ IsTurn name)
    (hsize : ¬ Path.nameLimit < Utf8.size name) (hget : t.get? (l ++ [name]) = some e)
    (he : ∀ target, e ≠ .link target) : TakesStep t l name (.onward (l ++ [name]))

/-- Every step comes to something. -/
lemma exists_takesStep (t : FileTree) (l : Location) (name : Text) : ∃ m, TakesStep t l name m := by
  by_cases hdir : t.get? l = some .directory
  · by_cases hstay : name = Path.afterSlash ∨ name = Path.here
    · exact ⟨_, .stay hdir hstay⟩
    by_cases hup : name = Path.up
    · exact ⟨_, .up hdir hup⟩
    have hname : ¬ IsTurn name := by
      rintro (hslash | hhere | hup')
      · exact hstay (Or.inl hslash)
      · exact hstay (Or.inr hhere)
      · exact hup hup'
    by_cases hsize : Path.nameLimit < Utf8.size name
    · exact ⟨_, .tooLong hdir hname hsize⟩
    cases hget : t.get? (l ++ [name]) with
    | none => exact ⟨_, .missing hdir hname hsize hget⟩
    | some e =>
      cases e with
      | link target => exact ⟨_, .link hdir hname hsize hget⟩
      | file bytes => exact ⟨_, .down hdir hname hsize hget (by simp)⟩
      | directory => exact ⟨_, .down hdir hname hsize hget (by simp)⟩
  · exact ⟨_, .nowhere hdir⟩

/-- How a walk goes on after a step. -/
def after (t : FileTree) (purpose : Purpose)
    (onLink : Location → List Text → Except FileFault Landing) (l : Location) (rest : List Text) :
    Move → Except FileFault Landing
  | .onward l' => t.walkWith purpose onLink l' rest
  | .missing l' => if rest = [] then .ok (.vacant l') else .error .notFound
  | .link target => onLink (if Path.isAbsolute target then [] else l) (Path.steps target ++ rest)
  | .blocked f => .error f

/-- A walk that is not refused at a final slash goes on after its first step. -/
lemma walkWith_cons {m : Move} (h : TakesStep t l name m)
    (hslash : ¬ (purpose = .write ∧ rest = [Path.afterSlash])) :
    t.walkWith purpose onLink l (name :: rest) = t.after purpose onLink l rest m := by
  rw [walkWith, if_neg hslash]
  cases h with
  | nowhere hdir => rw [if_pos hdir, after]
  | stay hdir hname => rw [if_neg (by simp [hdir]), if_pos hname, after]
  | up hdir hname =>
    have hstay : ¬ (name = Path.afterSlash ∨ name = Path.here) := by
      rw [hname]
      decide
    rw [if_neg (by simp [hdir]), if_neg hstay, if_pos hname, after]
  | tooLong hdir hname hsize =>
    obtain ⟨hstay, hup⟩ := not_isTurn_iff.mp hname
    rw [if_neg (by simp [hdir]), if_neg hstay, if_neg hup, if_pos hsize, after]
  | missing hdir hname hsize hget =>
    obtain ⟨hstay, hup⟩ := not_isTurn_iff.mp hname
    rw [if_neg (by simp [hdir]), if_neg hstay, if_neg hup, if_neg hsize, hget, after]
  | link hdir hname hsize hget =>
    obtain ⟨hstay, hup⟩ := not_isTurn_iff.mp hname
    rw [if_neg (by simp [hdir]), if_neg hstay, if_neg hup, if_neg hsize, hget, after]
  | @down e hdir hname hsize hget he =>
    obtain ⟨hstay, hup⟩ := not_isTurn_iff.mp hname
    rw [if_neg (by simp [hdir]), if_neg hstay, if_neg hup, if_neg hsize, hget]
    cases e with
    | link target => exact absurd rfl (he target)
    | file bytes => rfl
    | directory => rfl

/-- A walk that looks for something is never refused at a final slash. -/
lemma walkWith_look_cons {m : Move} (h : TakesStep t l name m) :
    t.walkWith .look onLink l (name :: rest) = t.after .look onLink l rest m :=
  walkWith_cons h (by simp)

/-- A walk that comes to an end has not been refused. -/
lemma after_of_walkWith {m : Move} (h : TakesStep t l name m) {r : Landing}
    (hwalk : t.walkWith purpose onLink l (name :: rest) = .ok r) :
    t.after purpose onLink l rest m = .ok r := by
  by_cases hslash : purpose = .write ∧ rest = [Path.afterSlash]
  · rw [walkWith, if_pos hslash] at hwalk
    split at hwalk <;> cases hwalk
  · rwa [← walkWith_cons h hslash]

end FileTree

namespace Disk

variable {d : Disk} {path : Text}

/-- Where a path leads is where the walk along its steps ends. -/
lemma walk_of_landing {purpose : Purpose} {r : Landing} (h : d.landing purpose path = .ok r) :
    path ≠ [] ∧ ¬ Path.pathLimit < Utf8.size path ∧
      d.tree.walk purpose FileTree.linkLimit (d.origin path) (Path.steps path) = .ok r := by
  unfold landing at h
  split at h
  · cases h
  next hpath =>
  split at h
  · cases h
  next hsize => exact ⟨hpath, hsize, h⟩

end Disk

end RelationAtlas
