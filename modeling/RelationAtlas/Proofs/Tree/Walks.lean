import RelationAtlas.Proofs.Tree.NoLinks

/-!
# Walks in trees with links

What a walk that looks for something says about the steps it takes, whatever links there are.  It
fails only because something is not there or because a name is too long (`walk_fault`), and whatever
it passes through has a name (`isName_of_walk`).

Both are proved for the steps up to the first link, under the assumption that they hold behind the
link, and then for whole walks by induction on the number of links that may be followed.
-/

namespace RelationAtlas

namespace FileTree

variable {t : FileTree}

/-! ## Faults -/

/-- A link holds the name. -/
def HoldsName (t : FileTree) (name : Text) : Prop :=
  ∃ l target, t.get? l = some (.link target) ∧ name ∈ Path.names target

/-- One of the steps, or a name that a link holds, is too long. -/
def MeetsLongName (t : FileTree) (names : List Text) : Prop :=
  ∃ name, Path.nameLimit < Utf8.size name ∧ (name ∈ names ∨ t.HoldsName name)

/-- Nothing is there, or a name is too long: the faults of looking for something. -/
def IsLookFault (t : FileTree) (names : List Text) (f : FileFault) : Prop :=
  f.meansAbsent = true ∨ (f = .nameTooLong ∧ t.MeetsLongName names)

/-- The steps of a walk are among those of a longer one. -/
lemma IsLookFault.cons {names : List Text} {f : FileFault} (h : t.IsLookFault names f)
    (name : Text) : t.IsLookFault (name :: names) f := by
  rcases h with habsent | ⟨rfl, name', hlong, hmem | hlink⟩
  · exact Or.inl habsent
  · exact Or.inr ⟨rfl, name', hlong, Or.inl (by simp [hmem])⟩
  · exact Or.inr ⟨rfl, name', hlong, Or.inr hlink⟩

/-- The steps behind a link are held by the link. -/
lemma IsLookFault.of_link {l : Location} {target name : Text} {rest : List Text} {f : FileFault}
    (hget : t.get? l = some (.link target)) (h : t.IsLookFault (Path.steps target ++ rest) f) :
    t.IsLookFault (name :: rest) f := by
  rcases h with habsent | ⟨rfl, name', hlong, hmem | hlink⟩
  · exact Or.inl habsent
  · rcases List.mem_append.mp hmem with hstep | hrest
    · have hname : name' ∈ Path.names target := by
        rcases List.mem_append.mp hstep with hname | hslash
        · exact hname
        · -- The step behind a final slash is no name at all.
          have hempty : name' = Path.afterSlash := by
            split at hslash
            · exact List.mem_singleton.mp hslash
            · cases hslash
          rw [hempty] at hlong
          cases hlong
      exact Or.inr ⟨rfl, name', hlong, Or.inr ⟨l, target, hget, hname⟩⟩
    · exact Or.inr ⟨rfl, name', hlong, Or.inl (by simp [hrest])⟩
  · exact Or.inr ⟨rfl, name', hlong, Or.inr hlink⟩

lemma walkWith_fault {onLink : Location → List Text → Except FileFault Landing}
    (hlink : ∀ l names f, onLink l names = .error f → t.IsLookFault names f) {l : Location}
    {names : List Text} {f : FileFault} (h : t.walkWith .look onLink l names = .error f) :
    t.IsLookFault names f := by
  induction names generalizing l with
  | nil =>
    rw [walkWith] at h
    cases h
  | cons name rest ih =>
    obtain ⟨m, hstep⟩ := exists_takesStep t l name
    rw [walkWith_look_cons hstep] at h
    cases hstep with
    | nowhere hdir =>
      cases h
      exact Or.inl rfl
    | stay hdir hname => exact (ih h).cons name
    | up hdir hname => exact (ih h).cons name
    | tooLong hdir hname hsize =>
      cases h
      exact Or.inr ⟨rfl, name, hsize, Or.inl (by simp)⟩
    | missing hdir hname hsize hget =>
      rw [after] at h
      split at h
      · cases h
      · cases h
        exact Or.inl rfl
    | link hdir hname hsize hget => exact (hlink _ _ _ h).of_link hget
    | down hdir hname hsize hget he => exact (ih h).cons name

/-- A walk that looks for something fails only with one of these faults. -/
lemma walk_fault {n : Nat} {l : Location} {names : List Text} {f : FileFault}
    (h : t.walk .look n l names = .error f) : t.IsLookFault names f := by
  induction n generalizing l names f with
  | zero =>
    refine walkWith_fault ?_ h
    intro _ _ g hg
    cases hg
    exact Or.inl rfl
  | succ n ih => exact walkWith_fault (fun _ _ _ hg => ih hg) h

lemma reach_fault {l : Location} {names : List Text} {f : FileFault}
    (h : t.reach l names = .error f) : t.IsLookFault names f := by
  unfold reach at h
  cases hwalk : t.walk .look linkLimit l names with
  | error g =>
    rw [hwalk] at h
    cases h
    exact walk_fault hwalk
  | ok landing =>
    rw [hwalk] at h
    cases landing with
    | vacant m =>
      cases h
      exact Or.inl rfl
    | found m =>
      cases hget : t.get? m with
      | some e => simp [bind, Except.bind, hget] at h
      | none =>
        simp only [bind, Except.bind, hget, Except.error.injEq] at h
        subst h
        exact Or.inl rfl

/-! ## Names -/

/-- All steps but turns are names. -/
def TakesNames (names : List Text) : Prop := ∀ name ∈ names, ¬ IsTurn name → Path.IsName name

lemma takesNames_cons_of_isTurn {name : Text} {rest : List Text} (hname : IsTurn name)
    (hrest : TakesNames rest) : TakesNames (name :: rest) := by
  intro m hm hturn
  rcases List.mem_cons.mp hm with rfl | hm
  · exact absurd hname hturn
  · exact hrest m hm hturn

lemma takesNames_cons_of_get? {l : Location} {name : Text} {rest : List Text} {e : Entry}
    (hget : t.get? (l ++ [name]) = some e) (hrest : TakesNames rest) :
    TakesNames (name :: rest) := by
  intro m hm hturn
  rcases List.mem_cons.mp hm with rfl | hm
  · exact t.named l m (Option.isSome_iff_exists.mpr ⟨e, hget⟩)
  · exact hrest m hm hturn

lemma isName_of_walkWith {onLink : Location → List Text → Except FileFault Landing}
    (hlink : ∀ l target rest l', onLink l (target ++ rest) = .ok (.found l') → TakesNames rest)
    {l l' : Location} {names : List Text}
    (h : t.walkWith .look onLink l names = .ok (.found l')) : TakesNames names := by
  induction names generalizing l with
  | nil =>
    intro name hname
    cases hname
  | cons name rest ih =>
    obtain ⟨m, hstep⟩ := exists_takesStep t l name
    rw [walkWith_look_cons hstep] at h
    cases hstep with
    | nowhere hdir => cases h
    | stay hdir hname =>
      have hturn : IsTurn name := hname.elim Or.inl fun hhere => Or.inr (Or.inl hhere)
      exact takesNames_cons_of_isTurn hturn (ih h)
    | up hdir hname => exact takesNames_cons_of_isTurn (Or.inr (Or.inr hname)) (ih h)
    | tooLong hdir hname hsize => cases h
    | missing hdir hname hsize hget =>
      rw [after] at h
      split at h <;> cases h
    | link hdir hname hsize hget => exact takesNames_cons_of_get? hget (hlink _ _ _ _ h)
    | down hdir hname hsize hget he => exact takesNames_cons_of_get? hget (ih h)

/-- Whatever a walk passes through has a name. -/
lemma isName_of_walk {n : Nat} {l l' : Location} {names : List Text}
    (h : t.walk .look n l names = .ok (.found l')) : TakesNames names := by
  induction n generalizing l l' names with
  | zero =>
    refine isName_of_walkWith ?_ h
    intro _ _ _ _ hfault
    cases hfault
  | succ n ih =>
    refine isName_of_walkWith ?_ h
    intro _ target rest _ hfound name hname
    exact ih hfound name (List.mem_append_right _ hname)

/-- What a look finds is where its walk ends. -/
lemma walk_of_reach {l l' : Location} {names : List Text} {e : Entry}
    (h : t.reach l names = .ok (l', e)) :
    t.walk .look linkLimit l names = .ok (.found l') ∧ t.get? l' = some e := by
  unfold reach at h
  cases hwalk : t.walk .look linkLimit l names with
  | error f =>
    rw [hwalk] at h
    cases h
  | ok landing =>
    rw [hwalk] at h
    cases landing with
    | vacant m => cases h
    | found m =>
      cases hget : t.get? m with
      | none => simp [bind, Except.bind, hget] at h
      | some e' =>
        simp only [bind, Except.bind, hget, Except.ok.injEq, Prod.mk.injEq] at h
        obtain ⟨rfl, rfl⟩ := h
        exact ⟨rfl, hget⟩

/-- A walk that takes a step begins in a directory. -/
lemma directory_of_walk {n : Nat} {l : Location} {names : List Text} {r : Landing}
    (hnames : names ≠ []) (h : t.walk .look n l names = .ok r) : t.get? l = some .directory := by
  cases names with
  | nil => exact absurd rfl hnames
  | cons name rest =>
    by_contra hdir
    cases n <;> simp [walk, walkWith, hdir] at h

end FileTree

end RelationAtlas
