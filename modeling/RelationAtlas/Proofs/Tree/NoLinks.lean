import Mathlib.Data.List.Induction
import RelationAtlas.Proofs.Text.Runs
import RelationAtlas.Proofs.Tree.Moves

/-!
# Trees without links

In a tree without links a walk ends where the path says by calculation alone (`walkWith_found`), and
so the absolute form of a path to something leads to the same place (`reach_eq_locate`).

Whatever the tree, a walk along names that lead to something that is no link goes there
(`walk_append_of_get?`).
-/

namespace RelationAtlas

/-! ## Names of locations -/

namespace Path

lemma names_slash (t : Text) : names ('/' :: t) = names t := by
  rw [names, Text.split, if_pos rfl, List.filter_cons_of_neg (by simp)]
  rfl

/-- Names that are joined by slashes are the names of the path. -/
lemma names_join {l : List Text} (h : ∀ name ∈ l, name ≠ [] ∧ '/' ∉ name) :
    names (Text.join ['/'] l) = l := by
  induction l with
  | nil => rfl
  | cons name l ih =>
    obtain ⟨hne, hslash⟩ := h name (by simp)
    have hrest := ih fun m hm => h m (by simp [hm])
    cases l with
    | nil =>
      rw [Text.join, names, Text.split_of_notMem hslash]
      simp [hne]
    | cons m l =>
      have hjoin : Text.join ['/'] (name :: m :: l) =
          name ++ '/' :: Text.join ['/'] (m :: l) := by
        simp [Text.join]
      rw [hjoin, names, Text.split_append hslash, List.filter_cons_of_pos (by simp [hne])]
      exact congrArg (name :: ·) hrest

/-- The names of an absolute path that is calculated are those of the location. -/
lemma names_absolute {cwd : Location} {p : Text}
    (h : ∀ name ∈ locate cwd p, name ≠ [] ∧ '/' ∉ name) :
    names (absolute cwd p) = locate cwd p := by
  have hroot : rootText p = ['/'] ∨ rootText p = ['/', '/'] := by
    unfold rootText
    split <;> simp
  rw [absolute, render]
  rcases hroot with hroot | hroot
  · rw [hroot, List.cons_append, List.nil_append, names_slash, names_join h]
  · rw [hroot, List.cons_append, List.cons_append, List.nil_append, names_slash, names_slash,
      names_join h]

lemma ne_nil_of_mem_names {p name : Text} (h : name ∈ names p) : name ≠ [] := by
  simpa using (List.mem_filter.mp h).2

/-- The steps of a path that are not empty are its names. -/
lemma filter_steps (p : Text) : (steps p).filter (· ≠ afterSlash) = names p := by
  have hnames : (names p).filter (· ≠ afterSlash) = names p :=
    List.filter_eq_self.mpr fun name hname => decide_eq_true (ne_nil_of_mem_names hname)
  rw [steps, List.filter_append, hnames]
  split <;> simp

end Path

namespace FileTree

variable {t : FileTree}

/-! ## What leads to something -/

/-- What something is in is a directory. -/
lemma directory_of_append {l m : Location} (h : (t.get? (l ++ m)).isSome) (hm : m ≠ []) :
    t.get? l = some .directory := by
  induction m using List.reverseRecOn with
  | nil => exact absurd rfl hm
  | append_singleton m name ih =>
    rw [← List.append_assoc] at h
    have hdir : t.get? (l ++ m) = some .directory := t.closed _ _ h
    by_cases hnil : m = []
    · rwa [hnil, List.append_nil] at hdir
    · exact ih (by simp [hdir]) hnil

/-- Whatever leads to something is a name. -/
lemma isName_of_mem {l : Location} (h : (t.get? l).isSome) : ∀ name ∈ l, Path.IsName name := by
  induction l using List.reverseRecOn with
  | nil => simp
  | append_singleton l last ih =>
    have hdir : t.get? l = some .directory := t.closed _ _ h
    intro name hname
    rcases List.mem_append.mp hname with hname | hname
    · exact ih (by simp [hdir]) name hname
    · rw [List.mem_singleton.mp hname]
      exact t.named l last h

/-- A walk along names that lead to something goes there, unless it is a link. -/
lemma walk_append_of_get? {l names : Location} {e : Entry} (h : t.get? (l ++ names) = some e)
    (hlink : ∀ target, e ≠ .link target) (n : Nat) (rest : List Text) :
    t.walk .look n l (names ++ rest) = t.walk .look n (l ++ names) rest := by
  induction names generalizing l with
  | nil => simp
  | cons name names ih =>
    have hsome : (t.get? (l ++ name :: names)).isSome := by simp [h]
    have hdir : t.get? l = some .directory := directory_of_append hsome (by simp)
    have hname : Path.IsName name := isName_of_mem hsome name (by simp)
    have hrest : t.get? ((l ++ [name]) ++ names) = some e := by simpa using h
    obtain ⟨next, hnext, hplain⟩ : ∃ next, t.get? (l ++ [name]) = some next ∧
        ∀ target, next ≠ .link target := by
      by_cases hnil : names = []
      · exact ⟨e, by simpa [hnil] using h, hlink⟩
      · exact ⟨.directory, directory_of_append (m := names) (by rw [hrest]; rfl) hnil, by simp⟩
    rw [List.cons_append, walk_cons_of_get? hdir hname.ne_afterSlash hname.ne_here hname.ne_up
      hname.size_le hnext hplain, ih hrest, List.append_assoc, List.singleton_append]

/-- Names that lead to something are followed to it, unless it is a link. -/
lemma reach_of_get? {l names : Location} {e : Entry} (h : t.get? (l ++ names) = some e)
    (hlink : ∀ target, e ≠ .link target) : t.reach l names = .ok (l ++ names, e) := by
  have hwalk := walk_append_of_get? h hlink linkLimit []
  rw [List.append_nil, walk_nil] at hwalk
  rw [reach, hwalk]
  simp [h, bind, Except.bind]

/-! ## Without links -/

/-- There is no link. -/
def HasNoLinks (t : FileTree) : Prop := ∀ l target, t.get? l ≠ some (.link target)

lemma hasNoLinks_empty : empty.HasNoLinks := by
  intro l target
  by_cases hl : l = [] <;> simp [empty, get?, lookup, Assoc.get?, hl]

/-- Setting a file or a directory brings no link. -/
lemma HasNoLinks.put (hlinks : t.HasNoLinks) {l : Location} {e : Entry} {h : t.Accepts l e}
    (he : ∀ target, e ≠ .link target) : (t.put l e h).HasNoLinks := by
  intro m target
  rw [get?_put]
  split
  · simpa using he target
  · exact hlinks m target

/-- Without links a walk ends where the names lead by calculation. -/
lemma walkWith_found (hlinks : t.HasNoLinks)
    {onLink : Location → List Text → Except FileFault Landing} {l l' : Location}
    {names : List Text} (h : t.walkWith .look onLink l names = .ok (.found l')) :
    l' = (names.filter (· ≠ Path.afterSlash)).foldl Path.follow l := by
  induction names generalizing l with
  | nil =>
    rw [walkWith] at h
    cases h
    rfl
  | cons name rest ih =>
    obtain ⟨m, hstep⟩ := exists_takesStep t l name
    rw [walkWith_look_cons hstep] at h
    cases hstep with
    | nowhere hdir => cases h
    | stay hdir hname =>
      rcases hname with rfl | rfl
      · rw [ih h]
        simp
      · rw [ih h, List.filter_cons_of_pos (by decide), List.foldl_cons, Path.follow, if_pos rfl]
    | up hdir hname =>
      subst hname
      rw [ih h, List.filter_cons_of_pos (by decide), List.foldl_cons]
      rfl
    | tooLong hdir hname hsize => cases h
    | missing hdir hname hsize hget =>
      rw [after] at h
      split at h <;> cases h
    | link hdir hname hsize hget => exact absurd hget (hlinks _ _)
    | down hdir hname hsize hget he =>
      obtain ⟨hstay, hup⟩ := not_isTurn_iff.mp hname
      obtain ⟨hslash, hhere⟩ := not_or.mp hstay
      rw [ih h, List.filter_cons_of_pos (by simpa using hslash), List.foldl_cons, Path.follow,
        if_neg hhere, if_neg hup]

end FileTree

namespace Disk

variable {d : Disk}

/-- Without links a path leads where it leads by calculation. -/
lemma reach_eq_locate (hlinks : d.tree.HasNoLinks) {p : Text} {l : Location} {e : Entry}
    (h : d.reach p = .ok (l, e)) : l = Path.locate d.cwd p ∧ d.tree.get? l = some e := by
  cases hlanding : d.landing .look p with
  | error f =>
    rw [reach, hlanding] at h
    cases h
  | ok landing =>
    rw [reach, hlanding] at h
    cases landing with
    | vacant _ => cases h
    | found l' =>
      obtain ⟨-, -, hwalk⟩ := walk_of_landing hlanding
      have hl' := FileTree.walkWith_found hlinks hwalk
      rw [Path.filter_steps] at hl'
      cases hget : d.tree.get? l' with
      | none => simp [bind, Except.bind, hget] at h
      | some e' =>
        simp only [bind, Except.bind, hget, Except.ok.injEq, Prod.mk.injEq] at h
        obtain ⟨rfl, rfl⟩ := h
        exact ⟨hl', hget⟩

/-- The location of a path that leads to a directory. -/
lemma get?_locate_of_isDirectory (hlinks : d.tree.HasNoLinks) {p : Text}
    (h : d.isDirectory p = true) : d.tree.get? (Path.locate d.cwd p) = some .directory := by
  rw [isDirectory, Bool.and_eq_true] at h
  obtain ⟨-, h⟩ := h
  split at h
  · next l hreach =>
    obtain ⟨rfl, hget⟩ := reach_eq_locate hlinks hreach
    exact hget
  · cases h

/-- The names of the absolute form of a path that leads to a directory. -/
lemma names_absolute (hlinks : d.tree.HasNoLinks) {p : Text} (h : d.isDirectory p = true) :
    Path.names (d.absolute p) = Path.locate d.cwd p := by
  refine Path.names_absolute fun name hname => ?_
  have hdir := get?_locate_of_isDirectory hlinks h
  have hisName := FileTree.isName_of_mem (by rw [hdir]; rfl) name hname
  exact ⟨hisName.ne_afterSlash, hisName.slash_notMem⟩

end Disk

end RelationAtlas
