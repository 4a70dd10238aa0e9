import RelationAtlas.Proofs.Discovery.Soundness
import RelationAtlas.Proofs.Discovery.Steps
import RelationAtlas.Proofs.Tree.Agreement

/-!
# What lies inside excluded directories

The search goes into directories with excluded names like into any other, and leaves out only in the
end what it has found there.  From inside such a directory on it finds nothing, but it may still be
stopped by something that is too long (`findsNothing_expand`).

Two disks without links that differ only inside excluded directories (`Twins`) therefore show the same
files.  They are compared in one direction at a time: what is found on the first is found on the second,
unless the second search is stopped inside (`Carries`).  What is inside can be skipped on both sides
(`carries_collect`), and everything else is the same on both, so this is carried along the components
of a pattern (`Twins.carriesOver`), and both directions together compare whole searches
(`Twins.modelFiles_alike`).
-/

namespace RelationAtlas.Search

open FileTree Pattern

variable {d d' : Disk} {base : Text} {l : Location} {excluded : List Text}

/-! ## Faults -/

/-- The fault of a search that is stopped by something too long. -/
def IsTooLongFault (f : SearchFault) : Prop := ∃ path, f = .blocked .nameTooLong path

/-- The search is stopped by something too long inside a directory with an excluded name. -/
def IsInsideFault (base : Text) (excluded : List Text) (f : SearchFault) : Prop :=
  ∃ names, isExcluded excluded names = true ∧ f = .blocked .nameTooLong (Path.below base names)

lemma IsInsideFault.isTooLongFault {f : SearchFault} (h : IsInsideFault base excluded f) :
    IsTooLongFault f := by
  obtain ⟨names, -, rfl⟩ := h
  exact ⟨_, rfl⟩

/-- Whatever is below something that is excluded is excluded. -/
lemma isExcluded_append {names : List Text} (h : isExcluded excluded names = true)
    (more : List Text) : isExcluded excluded (names ++ more) = true := by
  by_cases hmore : more = []
  · rwa [hmore, List.append_nil]
  · obtain ⟨name, hname, hmem⟩ := List.any_eq_true.mp h
    refine List.any_eq_true.mpr ⟨name, ?_, hmem⟩
    rw [List.dropLast_append_of_ne_nil hmore]
    exact List.mem_append_left _ (List.dropLast_subset names hname)

/-- Looking at a place fails only because of that place. -/
lemma yields_probe_fault (d : Disk) (base : Text) (names : List Text) :
    Yields (probe d base names) (fun _ => True)
      (· = .blocked .nameTooLong (Path.below base names)) := by
  unfold probe
  split
  · trivial
  split
  · rfl
  · cases hreach : d.tree.reach [] (Path.names base ++ names) with
    | ok r => trivial
    | error f =>
      rcases reach_fault hreach with habsent | ⟨rfl, -⟩
      · simp [Yields, habsent]
      · simp [Yields, FileFault.meansAbsent]

lemma yields_probe_isTooLongFault (d : Disk) (base : Text) (names : List Text) :
    Yields (probe d base names) (fun _ => True) IsTooLongFault :=
  (yields_probe_fault d base names).mono_fault fun _ hf => ⟨_, hf⟩

/-- Listing a directory fails only because of that directory. -/
lemma yields_listing_fault (d : Disk) (base : Text) (names : List Text) :
    Yields (listing d base names) (fun _ => True)
      (· = .blocked .nameTooLong (Path.below base names)) := by
  unfold listing
  split
  · rfl
  · split <;> trivial

/-! ## Inside an excluded directory -/

lemma yields_probe_of_isExcluded {names : List Text} (h : isExcluded excluded names = true) :
    Yields (probe d base names) (fun _ => True) (IsInsideFault base excluded) :=
  (yields_probe_fault d base names).mono_fault fun _ hf => ⟨names, h, hf⟩

lemma yields_listing_of_isExcluded {names : List Text} (h : isExcluded excluded names = true) :
    Yields (listing d base names) (fun _ => True) (IsInsideFault base excluded) :=
  (yields_listing_fault d base names).mono_fault fun _ hf => ⟨names, h, hf⟩

lemma yields_leadsToDirectory_of_isExcluded {names : List Text} {item : Text × Entry}
    (h : isExcluded excluded (names ++ [item.1]) = true) :
    Yields (leadsToDirectory d base names item) (fun _ => True) (IsInsideFault base excluded) := by
  obtain ⟨n, e⟩ := item
  cases e with
  | file bytes => trivial
  | directory => trivial
  | link target =>
    have hprobe : Yields (probe d base (names ++ [n])) (fun _ => True)
        (IsInsideFault base excluded) := yields_probe_of_isExcluded h
    change Yields ((probe d base (names ++ [n])).map _) _ _
    cases hresult : probe d base (names ++ [n]) with
    | ok found => trivial
    | error f =>
      rw [hresult] at hprobe
      exact hprobe

lemma yields_survey_of_isExcluded {names : List Text} (h : isExcluded excluded names = true) :
    Yields (survey d base names) (fun _ => True) (IsInsideFault base excluded) := by
  refine yields_survey_of_listing (P := fun _ => True)
    ((yields_listing_of_isExcluded h).mono fun _ _ _ _ => trivial) fun _ _ => ?_
  exact yields_leadsToDirectory_of_isExcluded (isExcluded_append h _)

/-- Nothing is found, or the search is stopped inside an excluded directory. -/
def FindsNothing (base : Text) (excluded : List Text) (r : Except SearchFault (List Text)) : Prop :=
  Yields r (fun ys => ∀ y ∈ ys, False) (IsInsideFault base excluded)

lemma findsNothing_nil : FindsNothing base excluded (.ok []) := by
  intro y hy
  cases hy

lemma findsNothing_pickFile {names : List Text} (h : isExcluded excluded names = true) :
    FindsNothing base excluded (pickFile d base excluded names) := by
  refine (yields_probe_of_isExcluded h).bind fun found _ => ?_
  split
  · rw [if_pos h]
    exact findsNothing_nil
  · exact findsNothing_nil

/-- From inside an excluded directory on nothing is found. -/
lemma findsNothing_expand {p : Pattern} {names : List Text} (h : isExcluded excluded names = true) :
    FindsNothing base excluded (expand d base (pickFile d base excluded) p names) := by
  induction p generalizing names with
  | nil => exact findsNothing_pickFile h
  | cons c p ih =>
    cases c with
    | self => exact findsNothing_pickFile h
    | name n =>
      rw [expand]
      refine (yields_probe_of_isExcluded (isExcluded_append h [n])).bind fun found _ => ?_
      exact yields_ite (ih (isExcluded_append h [n])) findsNothing_nil
    | wild pieces =>
      rw [expand]
      refine (yields_listing_of_isExcluded h).bind fun items _ => ?_
      refine yields_collect_forall fun item _ => ?_
      have hitem := isExcluded_append h [item.1]
      refine yields_ite (yields_ite (ih hitem) findsNothing_nil) ?_
      refine (yields_leadsToDirectory_of_isExcluded hitem).bind fun goesOn _ => ?_
      exact yields_ite (ih hitem) findsNothing_nil
    | anyDepth =>
      rw [expand]
      refine yields_collect_forall fun down _ => ?_
      have hdown := isExcluded_append h down
      refine (ih hdown).bind fun taken htaken => ?_
      exact (yields_survey_of_isExcluded hdown).bind fun _ _ => htaken

/-! ## Comparing two searches -/

/-- What the first search finds is found by the second one, unless that one is stopped inside an
excluded directory; the first one fails only because something is too long. -/
def Carries (base : Text) (excluded : List Text) (r r' : Except SearchFault (List Text)) : Prop :=
  Yields r (fun xs => Yields r' (fun ys => ∀ x ∈ xs, x ∈ ys) (IsInsideFault base excluded))
    IsTooLongFault

variable {α : Type}

/-- A search carries over to itself. -/
lemma carries_refl {r : Except SearchFault (List Text)}
    (h : Yields r (fun _ => True) IsTooLongFault) : Carries base excluded r r := by
  cases r with
  | ok xs => exact fun x hx => hx
  | error f => exact h

/-- A step that is the same on both sides. -/
lemma carries_bind {r : Except SearchFault α} {good : α → Prop} (h : Yields r good IsTooLongFault)
    {f f' : α → Except SearchFault (List Text)}
    (hf : ∀ a, good a → Carries base excluded (f a) (f' a)) :
    Carries base excluded (r >>= f) (r >>= f') := by
  cases r with
  | ok a => exact hf a h
  | error g => exact h

/-- A search that finds nothing carries over to any other one that finds nothing. -/
lemma carries_of_findsNothing {r r' : Except SearchFault (List Text)}
    (h : FindsNothing base excluded r) (h' : FindsNothing base excluded r') :
    Carries base excluded r r' := by
  cases r with
  | error f => exact IsInsideFault.isTooLongFault h
  | ok xs =>
    cases r' with
    | error f => exact h'
    | ok ys => exact fun x hx => (h x hx).elim

/-- A search that is made or not. -/
lemma carries_ite {c : Prop} [Decidable c] {r r' s s' : Except SearchFault (List Text)}
    (h : Carries base excluded r r') (hs : Carries base excluded s s') :
    Carries base excluded (if c then r else s) (if c then r' else s') := by
  split
  · exact h
  · exact hs

/-- A step whose result does not matter may be taken on both sides afterwards. -/
lemma Carries.andThen {r r' : Except SearchFault (List Text)} (h : Carries base excluded r r')
    {check : Except SearchFault Unit} (hcheck : Yields check (fun _ => True) IsTooLongFault) :
    Carries base excluded (do let xs ← r; check; return xs) (do let xs ← r'; check; return xs) := by
  cases r with
  | error f => exact h
  | ok xs =>
    cases check with
    | error f => exact hcheck
    | ok _ =>
      cases r' with
      | error f => exact h
      | ok ys => exact h

/-- What is collected carries over when it does for each member, and members from which nothing is
found may be there on one side only. -/
lemma carries_collect {items items' : List α} (skip : α → Prop)
    {f f' : α → Except SearchFault (List Text)}
    (hitems : ∀ a, ¬ skip a → (a ∈ items ↔ a ∈ items'))
    (hskip : ∀ a, skip a → FindsNothing base excluded (f a))
    (hskip' : ∀ a, skip a → FindsNothing base excluded (f' a))
    (hf : ∀ a ∈ items, ¬ skip a → Carries base excluded (f a) (f' a)) :
    Carries base excluded (collect items f) (collect items' f') := by
  cases hcollect : collect items f with
  | error g =>
    obtain ⟨a, ha, hfault⟩ := exists_of_collect_eq_error hcollect
    by_cases hskipped : skip a
    · have hinside : FindsNothing base excluded (.error g) := hfault ▸ hskip a hskipped
      exact IsInsideFault.isTooLongFault hinside
    · have hcarries := hf a ha hskipped
      rw [hfault] at hcarries
      exact hcarries
  | ok xs =>
    have hfound := exists_of_collect_eq_ok hcollect
    cases hcollect' : collect items' f' with
    | error g =>
      obtain ⟨b, hb, hfault⟩ := exists_of_collect_eq_error hcollect'
      by_cases hskipped : skip b
      · have hinside : FindsNothing base excluded (.error g) := hfault ▸ hskip' b hskipped
        exact hinside
      · have hmem : b ∈ items := (hitems b hskipped).mpr hb
        obtain ⟨zs, hzs⟩ := hfound b hmem
        have hcarries := hf b hmem hskipped
        rw [hzs, hfault] at hcarries
        exact hcarries
    | ok ys =>
      have hfound' := exists_of_collect_eq_ok hcollect'
      intro x hx
      obtain ⟨a, ha, zs, hzs, hxzs⟩ := (mem_of_collect_eq_ok hcollect).mp hx
      have hskipped : ¬ skip a := by
        intro hskipped
        have hnone : FindsNothing base excluded (.ok zs) := hzs ▸ hskip a hskipped
        exact hnone x hxzs
      have hmem : a ∈ items' := (hitems a hskipped).mp ha
      obtain ⟨zs', hzs'⟩ := hfound' a hmem
      have hcarries := hf a ha hskipped
      rw [hzs, hzs'] at hcarries
      exact (mem_of_collect_eq_ok hcollect').mpr ⟨a, hmem, zs', hzs', hcarries x hxzs⟩

/-! ## Two disks -/

/-- Two disks without links that differ only inside excluded directories below the base. -/
structure Twins (d d' : Disk) (base : Text) (l : Location) (excluded : List Text) : Prop where
  left : Ground d base l
  right : Ground d' base l
  agree : ∀ m, d.tree.get? m = d'.tree.get? m ∨
    ∃ names, m = l ++ names ∧ isExcluded excluded names = true

namespace Twins

lemma symm (h : Twins d d' base l excluded) : Twins d' d base l excluded where
  left := h.right
  right := h.left
  agree := fun m => (h.agree m).imp_left Eq.symm

variable (h : Twins d d' base l excluded) {names : List Text}

include h

/-- Outside excluded directories the same is there. -/
lemma get?_eq (hout : isExcluded excluded names = false) :
    d.tree.get? (l ++ names) = d'.tree.get? (l ++ names) := by
  rcases h.agree (l ++ names) with heq | ⟨names', hnames, hin⟩
  · exact heq
  · rw [List.append_cancel_left hnames, hin] at hout
    cases hout

/-- Looks that do not go through excluded directories find the same. -/
lemma reach_eq (hnames : ∀ name ∈ names, ¬ IsTurn name) (hout : isExcluded excluded names = false) :
    d.tree.reach [] (Path.names base ++ names) = d'.tree.reach [] (Path.names base ++ names) := by
  have hrest : d.tree.reach l names = d'.tree.reach l names := by
    refine reach_congr h.left.noLinks h.right.noLinks hnames fun front hfront => h.get?_eq ?_
    obtain ⟨back, rfl⟩ := hfront
    by_contra hin
    rw [Bool.not_eq_false] at hin
    rw [isExcluded_append hin back] at hout
    cases hout
  rw [h.left.names_base, reach_append_of_directory h.left.directory,
    reach_append_of_directory h.right.directory, hrest]

lemma probe_eq (hnames : ∀ name ∈ names, ¬ IsTurn name) (hout : isExcluded excluded names = false) :
    probe d base names = probe d' base names := by
  rw [probe, probe, h.reach_eq hnames hout]

lemma pickFile_eq (hnames : ∀ name ∈ names, ¬ IsTurn name)
    (hout : isExcluded excluded names = false) :
    pickFile d base excluded names = pickFile d' base excluded names := by
  rw [pickFile, pickFile, h.probe_eq hnames hout]

end Twins

/-- What is listed in a place whose path is not too long is what is there. -/
lemma Ground.listing_eq_ok (hd : Ground d base l) {names : List Text}
    (hnames : ∀ name ∈ names, ¬ IsTurn name) (hshort : isTooLong base names = false) :
    ∃ items, listing d base names = .ok items ∧
      ∀ item, item ∈ items ↔ d.tree.get? (l ++ (names ++ [item.1])) = some item.2 := by
  by_cases hdir : d.tree.get? (l ++ names) = some .directory
  · have hlisting : Yields (listing d base names) _ (ReportsTooLong d base l []) :=
      yields_listing hd hdir
    cases hresult : listing d base names with
    | ok items =>
      rw [hresult] at hlisting
      exact ⟨items, rfl, hlisting⟩
    | error f =>
      rw [listing, hshort, if_neg (by simp)] at hresult
      split at hresult <;> cases hresult
  · refine ⟨[], ?_, fun item => ?_⟩
    · rw [listing, hshort, if_neg (by simp)]
      split
      · next l' hreach =>
        rw [hd.names_base, reach_append_of_directory hd.directory] at hreach
        exact absurd (eq_of_reach hd.noLinks hnames hreach).2 hdir
      · rfl
    · refine ⟨fun hitem => absurd hitem (by simp), fun hget => ?_⟩
      rw [← List.append_assoc] at hget
      exact absurd (d.tree.closed _ _ (Option.isSome_iff_exists.mpr ⟨_, hget⟩)) hdir

/-- The ways down are the directories below a directory; from anything else there is only the way that
stays. -/
lemma Ground.mem_descents_iff (hd : Ground d base l) {names : List Text}
    (hnames : ∀ name ∈ names, ¬ IsTurn name) {down : List Text} :
    down ∈ descents d base names ↔ if d.tree.get? (l ++ names) = some .directory
      then d.tree.get? (l ++ (names ++ down)) = some .directory else down = [] := by
  by_cases hdir : d.tree.get? (l ++ names) = some .directory
  · rw [if_pos hdir]
    exact mem_descents hd hdir
  · have hstay : descents d base names = [[]] := by
      unfold descents
      split
      · next l' hreach =>
        rw [hd.names_base, reach_append_of_directory hd.directory] at hreach
        exact absurd (eq_of_reach hd.noLinks hnames hreach).2 hdir
      · rfl
    rw [if_neg hdir, hstay, List.mem_singleton]

/-- Without links, looking through a directory fails only when its path is too long. -/
lemma Ground.survey_eq (hd : Ground d base l) {names : List Text}
    (hnames : ∀ name ∈ names, ¬ IsTurn name) : survey d base names =
      if isTooLong base names then .error (.blocked .nameTooLong (Path.below base names))
      else .ok () := by
  split
  · next hlong =>
    rw [survey, listing, if_pos hlong]
    rfl
  · next hshort =>
    obtain ⟨items, hitems, hmem⟩ := hd.listing_eq_ok hnames (by simpa using hshort)
    have hall : ∀ item ∈ items,
        (leadsToDirectory d base names item >>= fun _ => .ok ()) = .ok () := by
      intro item hitem
      rw [leadsToDirectory_eq hd ((hmem item).mp hitem)]
      rfl
    rw [survey, hitems]
    cases d.looksBehindLinks with
    | false => rfl
    | true => exact forM_eq_ok hall

/-! ## Patterns -/

/-- The steps of a path are names. -/
def TakesNoTurn (names : List Text) : Prop := ∀ name ∈ names, ¬ IsTurn name

lemma takesNoTurn_append {names more : List Text} (h : TakesNoTurn names)
    (hmore : TakesNoTurn more) : TakesNoTurn (names ++ more) := by
  intro name hname
  rcases List.mem_append.mp hname with hname | hname
  · exact h name hname
  · exact hmore name hname

lemma takesNoTurn_of_isName {names : List Text} (h : ∀ name ∈ names, Path.IsName name) :
    TakesNoTurn names := fun name hname => not_isTurn_of_isName (h name hname)

/-- Outside of excluded directories, what a pattern finds carries over from one disk to the other. -/
def CarriesOver (d d' : Disk) (base : Text) (excluded : List Text) (p : Pattern) : Prop :=
  ∀ names, TakesNoTurn names → isExcluded excluded names = false →
    Carries base excluded (expand d base (pickFile d base excluded) p names)
      (expand d' base (pickFile d' base excluded) p names)

lemma carries_none : Carries base excluded (.ok []) (.ok []) := carries_refl trivial

namespace Twins

variable (h : Twins d d' base l excluded) {p : Pattern}

include h

lemma carries_pickFile {names : List Text} (hnames : TakesNoTurn names)
    (hout : isExcluded excluded names = false) :
    Carries base excluded (pickFile d base excluded names) (pickFile d' base excluded names) := by
  rw [← h.pickFile_eq hnames hout]
  refine carries_refl ((yields_probe_isTooLongFault d base names).bind fun found _ => ?_)
  split <;> trivial

lemma carriesOver_name (hrest : CarriesOver d d' base excluded p) {n : Text} (hn : ¬ IsTurn n) :
    CarriesOver d d' base excluded (.name n :: p) := by
  intro names hnames hout
  have hnext : TakesNoTurn (names ++ [n]) :=
    takesNoTurn_append hnames (by simpa [TakesNoTurn] using hn)
  rw [expand, expand]
  by_cases hin : isExcluded excluded (names ++ [n]) = true
  · refine carries_of_findsNothing ?_ ?_
    · exact (yields_probe_of_isExcluded hin).bind fun _ _ =>
        yields_ite (findsNothing_expand hin) findsNothing_nil
    · exact (yields_probe_of_isExcluded hin).bind fun _ _ =>
        yields_ite (findsNothing_expand hin) findsNothing_nil
  · rw [Bool.not_eq_true] at hin
    rw [← h.probe_eq hnext hin]
    refine carries_bind (yields_probe_isTooLongFault d base _) fun found _ => ?_
    exact carries_ite (hrest _ hnext hin) carries_none

lemma carriesOver_wild (hrest : CarriesOver d d' base excluded p) (pieces : List Wildcard.Piece) :
    CarriesOver d d' base excluded (.wild pieces :: p) := by
  intro names hnames hout
  rw [expand, expand]
  by_cases hlong : isTooLong base names = true
  · rw [listing, listing, if_pos hlong]
    exact ⟨_, rfl⟩
  rw [Bool.not_eq_true] at hlong
  obtain ⟨items, hitems, hmem⟩ := h.left.listing_eq_ok hnames hlong
  obtain ⟨items', hitems', hmem'⟩ := h.right.listing_eq_ok hnames hlong
  rw [hitems, hitems']
  have hnothing : ∀ {d : Disk} (item : Text × Entry),
      isExcluded excluded (names ++ [item.1]) = true → FindsNothing base excluded (do
        let goesOn ← if p.isEmpty then .ok true else leadsToDirectory d base names item
        if goesOn && Wildcard.describes pieces item.1 then
          expand d base (pickFile d base excluded) p (names ++ [item.1])
        else .ok []) := by
    intro d item hin
    have hnext : FindsNothing base excluded
        (expand d base (pickFile d base excluded) p (names ++ [item.1])) := findsNothing_expand hin
    refine yields_ite (yields_ite hnext findsNothing_nil) ?_
    refine (yields_leadsToDirectory_of_isExcluded hin).bind fun goesOn _ => ?_
    exact yields_ite hnext findsNothing_nil
  refine carries_collect (fun item => isExcluded excluded (names ++ [item.1]) = true) ?_
    hnothing hnothing ?_
  · intro item hin
    rw [Bool.not_eq_true] at hin
    rw [hmem, hmem', h.get?_eq hin]
  · intro item hitem hin
    rw [Bool.not_eq_true] at hin
    have hget := (hmem item).mp hitem
    have hget' := h.get?_eq hin ▸ hget
    have hisName : Path.IsName item.1 :=
      isName_of_mem (by rw [hget]; rfl) item.1 (by simp)
    have hnext : TakesNoTurn (names ++ [item.1]) :=
      takesNoTurn_append hnames (takesNoTurn_of_isName (by simpa using hisName))
    rw [leadsToDirectory_eq h.left hget, leadsToDirectory_eq h.right hget']
    have hfound := hrest _ hnext hin
    exact carries_ite (carries_ite hfound carries_none) (carries_ite hfound carries_none)

lemma carriesOver_anyDepth (hrest : CarriesOver d d' base excluded p) :
    CarriesOver d d' base excluded (.anyDepth :: p) := by
  intro names hnames hout
  rw [expand, expand]
  have hnothing : ∀ {d : Disk} (down : List Text), isExcluded excluded (names ++ down) = true →
      FindsNothing base excluded (do
        let taken ← expand d base (pickFile d base excluded) p (names ++ down)
        survey d base (names ++ down)
        return taken) := by
    intro d down hin
    refine Yields.bind (findsNothing_expand hin) fun taken htaken => ?_
    exact (yields_survey_of_isExcluded hin).bind fun _ _ => htaken
  refine carries_collect (fun down => isExcluded excluded (names ++ down) = true) ?_
    hnothing hnothing ?_
  · intro down hin
    rw [Bool.not_eq_true] at hin
    rw [h.left.mem_descents_iff hnames, h.right.mem_descents_iff hnames, h.get?_eq hout,
      h.get?_eq hin]
  · intro down hdown hin
    rw [Bool.not_eq_true] at hin
    have hnext : TakesNoTurn (names ++ down) :=
      takesNoTurn_append hnames (takesNoTurn_of_isName (isName_of_mem_descents hdown))
    rw [h.left.survey_eq hnext, h.right.survey_eq hnext]
    refine (hrest _ hnext hin).andThen ?_
    split
    · exact ⟨_, rfl⟩
    · trivial

/-- What a pattern finds outside of excluded directories carries over. -/
lemma carriesOver (hp : ∀ n, .name n ∈ p → ¬ IsTurn n) : CarriesOver d d' base excluded p := by
  induction p with
  | nil => exact fun names hnames hout => h.carries_pickFile hnames hout
  | cons c p ih =>
    have hrest := ih fun n hn => hp n (by simp [hn])
    cases c with
    | self => exact fun names hnames hout => h.carries_pickFile hnames hout
    | name n => exact h.carriesOver_name hrest (hp n (by simp))
    | wild pieces => exact h.carriesOver_wild hrest pieces
    | anyDepth => exact h.carriesOver_anyDepth hrest

end Twins

/-! ## Whole searches -/

/-- The search fails with a fault of some kind. -/
def Fails (r : Except SearchFault (List Text)) (kind : SearchFault → Prop) : Prop :=
  ∃ f, r = .error f ∧ kind f

/-- Two searches come out alike: they find the same or fail in the same way, or both are stopped by
something too long, or one of them is stopped inside an excluded directory. -/
inductive IsAlike (base : Text) (excluded : List Text) :
    Except SearchFault (List Text) → Except SearchFault (List Text) → Prop
  | found {xs ys : List Text} (h : ∀ x, x ∈ xs ↔ x ∈ ys) : IsAlike base excluded (.ok xs) (.ok ys)
  | failed (f : SearchFault) : IsAlike base excluded (.error f) (.error f)
  | tooLong {f f' : SearchFault} (h : IsTooLongFault f) (h' : IsTooLongFault f') :
      IsAlike base excluded (.error f) (.error f')
  | firstInside {f : SearchFault} (h : IsInsideFault base excluded f)
      (r : Except SearchFault (List Text)) : IsAlike base excluded (.error f) r
  | secondInside {f : SearchFault} (h : IsInsideFault base excluded f)
      (r : Except SearchFault (List Text)) : IsAlike base excluded r (.error f)

/-- What carries over in both directions is alike. -/
lemma isAlike_of_carries {r r' : Except SearchFault (List Text)}
    (h : Carries base excluded r r') (h' : Carries base excluded r' r) :
    IsAlike base excluded r r' := by
  cases r with
  | ok xs =>
    cases r' with
    | ok ys => exact .found fun x => ⟨h x, h' x⟩
    | error f' => exact .secondInside h _
  | error f =>
    cases r' with
    | ok ys => exact .firstInside h' _
    | error f' => exact .tooLong h h'

/-- Searches that are made one after the other. -/
lemma IsAlike.append {r r' s s' : Except SearchFault (List Text)} (h : IsAlike base excluded r r')
    (hs : IsAlike base excluded s s') :
    IsAlike base excluded (do return (← r) ++ (← s)) (do return (← r') ++ (← s')) := by
  cases h with
  | failed f => exact .failed f
  | tooLong h h' => exact .tooLong h h'
  | firstInside h _ => exact .firstInside h _
  | secondInside h _ => exact .secondInside h _
  | found h =>
    cases hs with
    | failed f => exact .failed f
    | tooLong h h' => exact .tooLong h h'
    | firstInside h _ => exact .firstInside h _
    | secondInside h _ => exact .secondInside h _
    | found h' =>
      refine .found fun x => ?_
      rw [List.mem_append, List.mem_append, h, h']

/-- Searches by several patterns are alike when they are alike for each pattern. -/
lemma isAlike_collect {items : List α} {f f' : α → Except SearchFault (List Text)}
    (h : ∀ a ∈ items, IsAlike base excluded (f a) (f' a)) :
    IsAlike base excluded (collect items f) (collect items f') := by
  induction items with
  | nil => exact .found fun x => Iff.rfl
  | cons a items ih => exact (h a (by simp)).append (ih fun b hb => h b (by simp [hb]))

/-- A plain component of a pattern that does not go up is no turn. -/
lemma not_isTurn_of_name_mem {pattern : Text} {p : Pattern} (htext : ofText pattern = .ok p)
    (hup : Path.up ∉ Path.names pattern) {n : Text} (hn : .name n ∈ p) : ¬ IsTurn n := by
  obtain ⟨tail, htail, rfl⟩ := ofText_eq_components htext
  rcases List.mem_append.mp hn with hn | hn
  · obtain ⟨c, hc, hmeaning⟩ := List.mem_map.mp hn
    obtain rfl := eq_of_meaning_eq_name hmeaning
    exact (goesStraight_components hup (fun b hb => hb) c hc).1
  · rcases htail with rfl | rfl
    · cases hn
    · cases List.mem_singleton.mp hn

namespace Twins

variable (h : Twins d d' base l excluded)

include h

/-- One pattern that does not go up finds the same on both disks. -/
lemma isAlike_filesOf {pattern : Text} (hup : Path.up ∉ Path.names pattern) :
    IsAlike base excluded (filesOf d base excluded pattern) (filesOf d' base excluded pattern) := by
  unfold filesOf
  cases htext : ofText pattern with
  | error g => exact .failed _
  | ok p =>
    have hp : ∀ n, .name n ∈ p → ¬ IsTurn n := fun n => not_isTurn_of_name_mem htext hup
    have hnames : TakesNoTurn [] := fun _ hname => absurd hname (by simp)
    have hcarries : ∀ {d d' : Disk}, Twins d d' base l excluded → Carries base excluded
        (do if (← probe d base []) ≠ some .directory then .ok []
            else expand d base (pickFile d base excluded) p [])
        (do if (← probe d' base []) ≠ some .directory then .ok []
            else expand d' base (pickFile d' base excluded) p []) := by
      intro d d' h
      rw [← h.probe_eq hnames rfl]
      refine carries_bind (yields_probe_isTooLongFault d base []) fun found _ => ?_
      exact carries_ite carries_none (h.carriesOver hp [] hnames rfl)
    exact isAlike_of_carries (hcarries h) (hcarries h.symm)

end Twins

/-- Below a root, both disks have the same model files, or both searches are stopped by something too
long, or one of them is stopped inside an excluded directory. -/
lemma Twins.modelFiles_alike {root : Text} (h : Twins d d' (d.absolute root) l excluded)
    (hcwd : d'.absolute root = d.absolute root) (hroot : d.isDirectory root = true)
    (hroot' : d'.isDirectory root = true) {patterns : List Text}
    (hup : ∀ pattern ∈ patterns, Path.up ∉ Path.names pattern) :
    modelFiles d root patterns excluded = modelFiles d' root patterns excluded ∨
      (Fails (modelFiles d root patterns excluded) IsTooLongFault ∧
        Fails (modelFiles d' root patterns excluded) IsTooLongFault) ∨
      Fails (modelFiles d root patterns excluded) (IsInsideFault (d.absolute root) excluded) ∨
      Fails (modelFiles d' root patterns excluded) (IsInsideFault (d.absolute root) excluded) := by
  rw [modelFiles, if_pos hroot, modelFiles, if_pos hroot', hcwd]
  have halike := isAlike_collect fun pattern hmem => h.isAlike_filesOf (hup pattern hmem)
  generalize collect patterns (filesOf d (d.absolute root) excluded) = r at halike ⊢
  generalize collect patterns (filesOf d' (d.absolute root) excluded) = r' at halike ⊢
  cases halike with
  | found hsame => exact Or.inl (congrArg Except.ok (Text.sorted_congr hsame))
  | failed f => exact Or.inl rfl
  | tooLong hf hf' => exact Or.inr (Or.inl ⟨⟨_, rfl, hf⟩, ⟨_, rfl, hf'⟩⟩)
  | firstInside hf _ => exact Or.inr (Or.inr (Or.inl ⟨_, rfl, hf⟩))
  | secondInside hf _ => exact Or.inr (Or.inr (Or.inr ⟨_, rfl, hf⟩))

end RelationAtlas.Search
