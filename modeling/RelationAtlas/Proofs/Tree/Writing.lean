import RelationAtlas.Proofs.Tree.Moves

/-!
# What has been written to a file

A file that has been written holds what was written (`Disk.bytes_of_write`), and whether a file can be
written does not depend on what is written (`Disk.exists_write_of_write`).

A path may lead through links, and to a file that is there or to a place where there is none yet.  The
walk that looks for the file afterwards takes the same steps as the walk that wrote it: only the place
at its end has changed, and that place is no directory and no link, before or after.
-/

namespace RelationAtlas

/-- The location at which a walk ends. -/
def Landing.place : Landing → Location
  | .found l => l
  | .vacant l => l

namespace FileTree

variable {t t' : FileTree} {m : Location}

/-- The trees differ at one place at most, which holds a file in the second one and neither a directory
nor a link in the first one. -/
structure FileSet (t t' : FileTree) (m : Location) : Prop where
  agree : ∀ l, l ≠ m → t'.get? l = t.get? l
  isFile : ∃ bytes, t'.get? m = some (.file bytes)
  noDirectory : t.get? m ≠ some .directory
  noLink : ∀ target, t.get? m ≠ some (.link target)

/-- What can be entered or is a link stays as it is. -/
lemma FileSet.get?_eq (h : FileSet t t' m) {l : Location}
    (hl : t.get? l = some .directory ∨ ∃ target, t.get? l = some (.link target)) :
    t'.get? l = t.get? l := by
  refine h.agree l ?_
  rintro rfl
  rcases hl with hdir | ⟨target, hlink⟩
  · exact h.noDirectory hdir
  · exact h.noLink target hlink

/-- What is there and no link stays so. -/
lemma FileSet.exists_entry (h : FileSet t t' m) {l : Location} {e : Entry}
    (hl : t.get? l = some e) (he : ∀ target, e ≠ .link target) :
    ∃ e', t'.get? l = some e' ∧ ∀ target, e' ≠ .link target := by
  by_cases hlm : l = m
  · obtain ⟨bytes, hfile⟩ := h.isFile
    exact ⟨.file bytes, by rw [hlm, hfile], by simp⟩
  · exact ⟨e, by rw [h.agree l hlm, hl], he⟩

/-- A step to the place of the file finds it. -/
lemma FileSet.takesStep_of_missing (h : FileSet t t' m) {l : Location} {name : Text}
    (hstep : TakesStep t l name (.missing m)) : TakesStep t' l name (.onward m) := by
  obtain ⟨bytes, hfile⟩ := h.isFile
  cases hstep with
  | missing hdir hname hsize hget =>
    have hdir' : t'.get? l = some .directory := (h.get?_eq (Or.inl hdir)).trans hdir
    exact .down hdir' hname hsize hfile (by simp)

/-- Every other step comes to the same. -/
lemma FileSet.takesStep (h : FileSet t t' m) {l : Location} {name : Text} {step : Move}
    (hstep : TakesStep t l name step) (hblocked : ∀ f, step ≠ .blocked f)
    (hmissing : ∀ l', step ≠ .missing l') : TakesStep t' l name step := by
  have hdir : ∀ {l}, t.get? l = some .directory → t'.get? l = some .directory :=
    fun hdir => (h.get?_eq (Or.inl hdir)).trans hdir
  cases hstep with
  | nowhere hnot => exact absurd rfl (hblocked _)
  | stay hthere hname => exact .stay (hdir hthere) hname
  | up hthere hname => exact .up (hdir hthere) hname
  | tooLong hthere hname hsize => exact absurd rfl (hblocked _)
  | missing hthere hname hsize hget => exact absurd rfl (hmissing _)
  | link hthere hname hsize hget =>
    exact .link (hdir hthere) hname hsize ((h.get?_eq (Or.inr ⟨_, hget⟩)).trans hget)
  | down hthere hname hsize hget he =>
    obtain ⟨e', hget', he'⟩ := h.exists_entry hget he
    exact .down (hdir hthere) hname hsize hget' he'

lemma walkWith_of_write (h : FileSet t t' m)
    {onLink onLink' : Location → List Text → Except FileFault Landing}
    (hlink : ∀ l names r, onLink l names = .ok r → r.place = m → onLink' l names = .ok (.found m))
    {l : Location} {names : List Text} {r : Landing}
    (hwalk : t.walkWith .write onLink l names = .ok r) (hr : r.place = m) :
    t'.walkWith .look onLink' l names = .ok (.found m) := by
  induction names generalizing l with
  | nil =>
    cases hwalk
    rw [walkWith]
    exact congrArg (fun l => Except.ok (Landing.found l)) hr
  | cons name rest ih =>
    obtain ⟨step, hstep⟩ := exists_takesStep t l name
    have hafter := after_of_walkWith hstep hwalk
    cases step with
    | onward l' =>
      rw [walkWith_look_cons (h.takesStep hstep (by simp) (by simp))]
      exact ih hafter
    | missing l' =>
      rw [after] at hafter
      split at hafter
      · next hrest =>
        -- Nothing was there, so this is the place of the new file.
        cases hafter
        subst hr hrest
        rw [walkWith_look_cons (h.takesStep_of_missing hstep)]
        rfl
      · cases hafter
    | link target =>
      rw [walkWith_look_cons (h.takesStep hstep (by simp) (by simp))]
      exact hlink _ _ _ hafter hr
    | blocked f => cases hafter

lemma walk_of_write (h : FileSet t t' m) {n : Nat} {l : Location} {names : List Text} {r : Landing}
    (hwalk : t.walk .write n l names = .ok r) (hr : r.place = m) :
    t'.walk .look n l names = .ok (.found m) := by
  induction n generalizing l names r with
  | zero =>
    refine walkWith_of_write h ?_ hwalk hr
    intro _ _ _ hfault
    cases hfault
  | succ n ih => exact walkWith_of_write h (fun _ _ _ hbehind hr => ih hbehind hr) hwalk hr

/-! ## Vacant places -/

lemma walkWith_vacant {purpose : Purpose}
    {onLink : Location → List Text → Except FileFault Landing}
    (hlink : ∀ l names m, onLink l names = .ok (.vacant m) → t.get? m = none) {l : Location}
    {names : List Text} (hwalk : t.walkWith purpose onLink l names = .ok (.vacant m)) :
    t.get? m = none := by
  induction names generalizing l with
  | nil => cases hwalk
  | cons name rest ih =>
    obtain ⟨step, hstep⟩ := exists_takesStep t l name
    have hafter := after_of_walkWith hstep hwalk
    cases hstep with
    | nowhere hdir => cases hafter
    | stay hdir hname => exact ih hafter
    | up hdir hname => exact ih hafter
    | tooLong hdir hname hsize => cases hafter
    | missing hdir hname hsize hget =>
      rw [after] at hafter
      split at hafter
      · cases hafter
        exact hget
      · cases hafter
    | link hdir hname hsize hget => exact hlink _ _ _ hafter
    | down hdir hname hsize hget he => exact ih hafter

/-- Nothing is at a vacant place. -/
lemma walk_vacant {purpose : Purpose} {n : Nat} {l : Location} {names : List Text}
    (hwalk : t.walk purpose n l names = .ok (.vacant m)) : t.get? m = none := by
  induction n generalizing l names m with
  | zero =>
    refine walkWith_vacant ?_ hwalk
    intro _ _ _ hfault
    cases hfault
  | succ n ih => exact walkWith_vacant (fun _ _ _ hbehind => ih hbehind) hwalk

end FileTree

namespace Disk

variable {d d' : Disk} {path : Text}

/-- A file can be written where a walk ends. -/
def TakesFile (d : Disk) : Landing → Prop
  | .vacant _ => True
  | .found l => ∃ old, d.tree.get? l = some (.file old)

/-- Writing sets the place at the end of a walk. -/
lemma write_eq_ok_iff {bytes : List UInt8} : d.write path bytes = .ok d' ↔
    ∃ r, d.landing .write path = .ok r ∧ d.TakesFile r ∧
      d.put? r.place (.file bytes) = .ok d' := by
  unfold write edit
  cases d.landing .write path with
  | error f => simp [bind, Except.bind]
  | ok r =>
    cases r with
    | vacant l => simp [bind, Except.bind, TakesFile, Landing.place]
    | found l =>
      simp only [bind, Except.bind, Except.ok.injEq, exists_eq_left', TakesFile, Landing.place]
      constructor
      · intro h
        split at h
        · next old hget => exact ⟨⟨old, hget⟩, h⟩
        · cases h
      · rintro ⟨⟨old, hget⟩, hput⟩
        rw [hget]
        exact hput

lemma put?_eq_ok_iff {l : Location} {e : Entry} : d.put? l e = .ok d' ↔
    ∃ h : d.tree.Accepts l e, { d with tree := d.tree.put l e h } = d' := by
  unfold put?
  split
  · next h => simp [h]
  · next h => simp [h]

/-- Where a file can be written, there is no link. -/
lemma noLink_of_takesFile {r : Landing} (hlanding : d.landing .write path = .ok r)
    (htakes : d.TakesFile r) (target : Text) :
    d.tree.get? r.place ≠ some (.link target) := by
  intro hlink
  cases r with
  | found l =>
    obtain ⟨old, hfile⟩ := htakes
    rw [Landing.place, hfile] at hlink
    cases hlink
  | vacant l =>
    have hnone := FileTree.walk_vacant (walk_of_landing hlanding).2.2
    rw [Landing.place, hnone] at hlink
    cases hlink

/-- The bytes that are written to a file are in the file. -/
lemma bytes_of_write {bytes : List UInt8} (h : d.write path bytes = .ok d') :
    d'.bytes path = .ok bytes := by
  obtain ⟨r, hlanding, htakes, hput⟩ := write_eq_ok_iff.mp h
  obtain ⟨haccepts, rfl⟩ := put?_eq_ok_iff.mp hput
  have hset : FileTree.FileSet d.tree (d.tree.put r.place (.file bytes) haccepts) r.place := by
    constructor
    · intro l hl
      rw [FileTree.get?_put, if_neg (Ne.symm hl)]
    · exact ⟨bytes, by rw [FileTree.get?_put, if_pos rfl]⟩
    · obtain ⟨-, -, -, hdir | hdir⟩ := haccepts
      · cases hdir
      · exact hdir
    · exact noLink_of_takesFile hlanding htakes
  obtain ⟨hpath, hsize, hwalk⟩ := walk_of_landing hlanding
  have hlook := FileTree.walk_of_write hset hwalk rfl
  have hfile : (d.tree.put r.place (.file bytes) haccepts).get? r.place = some (.file bytes) := by
    rw [FileTree.get?_put, if_pos rfl]
  have hreach : ({ d with tree := d.tree.put r.place (.file bytes) haccepts } : Disk).reach path =
      .ok (r.place, .file bytes) := by
    simp only [reach, landing, if_neg hpath, if_neg hsize, origin] at hlook ⊢
    rw [hlook]
    simp only [bind, Except.bind, hfile]
  rw [Disk.bytes, hreach]
  rfl

/-- Whether a file can be written does not depend on what is written. -/
lemma exists_write_of_write {bytes : List UInt8} (h : d.write path bytes = .ok d')
    (bytes' : List UInt8) : ∃ d'', d.write path bytes' = .ok d'' := by
  obtain ⟨r, hlanding, htakes, hput⟩ := write_eq_ok_iff.mp h
  obtain ⟨⟨hroot, hname, hparent, hdir⟩, -⟩ := put?_eq_ok_iff.mp hput
  have haccepts : d.tree.Accepts r.place (.file bytes') := by
    refine ⟨hroot, hname, hparent, Or.inr ?_⟩
    rcases hdir with hdir | hdir
    · cases hdir
    · exact hdir
  exact ⟨_, write_eq_ok_iff.mpr ⟨r, hlanding, htakes, put?_eq_ok_iff.mpr ⟨haccepts, rfl⟩⟩⟩

end Disk

end RelationAtlas
