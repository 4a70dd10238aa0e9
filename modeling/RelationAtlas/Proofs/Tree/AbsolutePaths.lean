import Mathlib.Data.List.Basic
import RelationAtlas.Proofs.Tree.Walks

/-!
# Absolute paths

The absolute form of a path is the text of a location whose parts are names.  Such a text is read back
as the names it was made of, is its own absolute form (`absolute_render`), and leads where its names
lead (`Disk.reach_render`).

The absolute form of the path of a directory is of this kind (`Disk.isName_of_mem_locate`), and so is
the path of whatever is found below it (`below_render`).
-/

namespace RelationAtlas

namespace Text

/-- Texts joined in two parts. -/
lemma join_append (sep : Text) {ts us : List Text} (hts : ts ≠ []) (hus : us ≠ []) :
    join sep (ts ++ us) = join sep ts ++ sep ++ join sep us := by
  induction ts with
  | nil => exact absurd rfl hts
  | cons t ts ih =>
    cases ts with
    | nil =>
      cases us with
      | nil => exact absurd rfl hus
      | cons u us => rfl
    | cons t' ts =>
      have hrest := ih (by simp)
      rw [List.cons_append] at hrest
      rw [List.cons_append, List.cons_append, join, hrest, join]
      simp only [List.append_assoc]

end Text

namespace Path

variable {root : Text} {l m : Location}

/-! ## The text of a location -/

/-- The slashes that may stand at the front of an absolute form. -/
def IsRootText (root : Text) : Prop := root = ['/'] ∨ root = ['/', '/']

lemma isRootText_rootText (p : Text) : IsRootText (rootText p) := by
  unfold rootText IsRootText
  split <;> simp

/-- Names that are joined begin with no slash. -/
lemma join_eq_cons (hl : l ≠ []) (h : ∀ name ∈ l, IsName name) :
    ∃ c cs, Text.join ['/'] l = c :: cs ∧ c ≠ '/' := by
  cases l with
  | nil => exact absurd rfl hl
  | cons name l =>
    have hname := h name (by simp)
    cases name with
    | nil => exact absurd rfl hname.ne_afterSlash
    | cons c cs =>
      have hc : c ≠ '/' := fun hc => hname.slash_notMem (by simp [hc])
      cases l with
      | nil => exact ⟨c, cs, rfl, hc⟩
      | cons m l => exact ⟨c, cs ++ ['/'] ++ Text.join ['/'] (m :: l), rfl, hc⟩

/-- Names that are joined end with no slash. -/
lemma getLast?_join (hl : l ≠ []) (h : ∀ name ∈ l, IsName name) :
    ∃ c, (Text.join ['/'] l).getLast? = some c ∧ c ≠ '/' := by
  obtain ⟨front, last, rfl⟩ := List.eq_nil_or_concat' l |>.resolve_left hl
  have hname := h last (by simp)
  obtain ⟨cs, c, rfl⟩ := List.eq_nil_or_concat' last |>.resolve_left hname.ne_afterSlash
  refine ⟨c, ?_, fun hc => hname.slash_notMem (by simp [hc])⟩
  rw [Text.join_concat, List.getLast?_append]
  simp

lemma isAbsolute_render (hroot : IsRootText root) (l : Location) :
    isAbsolute (render root l) = true := by
  rcases hroot with rfl | rfl <;> rfl

lemma render_ne_nil (hroot : IsRootText root) (l : Location) : render root l ≠ [] := by
  rcases hroot with rfl | rfl <;> simp [render]

/-- The text of a location is read back as the names it was made of. -/
lemma names_render (hroot : IsRootText root) (h : ∀ name ∈ l, IsName name) :
    names (render root l) = l := by
  have hjoin : names (Text.join ['/'] l) = l :=
    names_join fun name hname => ⟨(h name hname).ne_afterSlash, (h name hname).slash_notMem⟩
  rcases hroot with rfl | rfl
  · rw [render, List.cons_append, List.nil_append, names_slash, hjoin]
  · rw [render, List.cons_append, List.cons_append, List.nil_append, names_slash, names_slash,
      hjoin]

/-- Only the text of the root ends with a slash. -/
lemma hasFinalSlash_render (hroot : IsRootText root) (h : ∀ name ∈ l, IsName name) :
    hasFinalSlash (render root l) = decide (l = []) := by
  cases l with
  | nil => rcases hroot with rfl | rfl <;> rfl
  | cons name l =>
    obtain ⟨c, hc, hslash⟩ := getLast?_join (by simp) h
    simp [hasFinalSlash, render, List.getLast?_append, hc, hslash]

lemma steps_render (hroot : IsRootText root) (hl : l ≠ []) (h : ∀ name ∈ l, IsName name) :
    steps (render root l) = l := by
  rw [steps, names_render hroot h, hasFinalSlash_render hroot h]
  simp [hl]

lemma rootText_render (hroot : IsRootText root) (h : ∀ name ∈ l, IsName name) :
    rootText (render root l) = root := by
  cases l with
  | nil => rcases hroot with rfl | rfl <;> rfl
  | cons name l =>
    obtain ⟨c, cs, hjoin, hc⟩ := join_eq_cons (by simp) h
    rcases hroot with rfl | rfl <;> simp [render, hjoin, rootText, hc]

/-- Names are taken up into a location as they are. -/
lemma foldl_follow (h : ∀ name ∈ m, IsName name) : m.foldl follow l = l ++ m := by
  induction m generalizing l with
  | nil => simp
  | cons name m ih =>
    have hname := h name (by simp)
    rw [List.foldl_cons, follow, if_neg hname.ne_here, if_neg hname.ne_up,
      ih fun n hn => h n (by simp [hn]), List.append_assoc, List.singleton_append]

/-- The text of a location is its own absolute form. -/
lemma absolute_render (hroot : IsRootText root) (cwd : Location) (h : ∀ name ∈ l, IsName name) :
    absolute cwd (render root l) = render root l := by
  rw [absolute, rootText_render hroot h, locate, names_render hroot h, isAbsolute_render hroot,
    if_pos rfl, foldl_follow h, List.nil_append]

/-- What is below a location has the text of a longer location. -/
lemma below_render (hroot : IsRootText root) (hl : ∀ name ∈ l, IsName name) (hm : m ≠ []) :
    below (render root l) m = render root (l ++ m) := by
  have hnil : m.isEmpty = false := by simpa using hm
  rw [below, hnil, if_neg (by simp), hasFinalSlash_render hroot hl]
  cases l with
  | nil => simp [render, Text.join]
  | cons name l =>
    rw [if_neg (by simp), render, render, Text.join_append _ (by simp) hm]
    simp

/-! ## Steps of a path -/

/-- A path without names is made of slashes. -/
lemma eq_slash_of_names_eq_nil {p : Text} (h : names p = []) : ∀ c ∈ p, c = '/' := by
  induction p with
  | nil => simp
  | cons c cs ih =>
    by_cases hc : c = '/'
    · subst hc
      rw [names_slash] at h
      simpa using ih h
    · have hfirst : ∃ first rest, Text.split '/' (c :: cs) = (c :: first) :: rest := by
        rw [Text.split, if_neg hc]
        split <;> exact ⟨_, _, rfl⟩
      obtain ⟨first, rest, hsplit⟩ := hfirst
      simp [names, hsplit] at h

/-- Every path but the empty one takes a step. -/
lemma steps_ne_nil {p : Text} (hp : p ≠ []) : steps p ≠ [] := by
  by_cases hnames : names p = []
  · have hlast : p.getLast? = some '/' := by
      rw [List.getLast?_eq_some_getLast hp]
      exact congrArg some (eq_slash_of_names_eq_nil hnames _ (List.getLast_mem hp))
    simp [steps, hasFinalSlash, hlast]
  · simp [steps, hnames]

/-- A location that is gone to by calculation is made of the names on the way. -/
lemma mem_foldl_follow {l m : Location} {name : Text} (h : name ∈ m.foldl follow l) :
    name ∈ l ∨ (name ∈ m ∧ name ≠ here ∧ name ≠ up) := by
  induction m generalizing l with
  | nil => exact Or.inl h
  | cons n m ih =>
    rw [List.foldl_cons] at h
    rcases ih h with hstep | ⟨hmem, hturn⟩
    · unfold follow at hstep
      split at hstep
      · exact Or.inl hstep
      split at hstep
      · exact Or.inl (List.dropLast_subset l hstep)
      · next hhere hup =>
        rcases List.mem_append.mp hstep with hold | hnew
        · exact Or.inl hold
        · obtain rfl := List.mem_singleton.mp hnew
          exact Or.inr ⟨by simp, hhere, hup⟩
    · exact Or.inr ⟨by simp [hmem], hturn⟩

end Path

namespace Disk

variable {d : Disk}

/-! ## Looking at a path -/

/-- Looking at a path is looking along its steps, unless it is too long. -/
lemma reach_eq {p : Text} (hp : p ≠ []) : d.reach p =
    if Path.pathLimit < Utf8.size p then .error .nameTooLong
    else d.tree.reach (d.origin p) (Path.steps p) := by
  rw [reach, landing, if_neg hp]
  split
  · rfl
  · rfl

/-- What a path leads to is at the end of the walk along its steps. -/
lemma walk_of_reach {p : Text} {l : Location} {e : Entry} (h : d.reach p = .ok (l, e)) :
    p ≠ [] ∧ d.tree.walk .look FileTree.linkLimit (d.origin p) (Path.steps p) = .ok (.found l) := by
  have hp : p ≠ [] := by
    rintro rfl
    rw [reach, landing, if_pos rfl] at h
    cases h
  rw [reach_eq hp] at h
  split at h
  · cases h
  · exact ⟨hp, (FileTree.walk_of_reach h).1⟩

/-- The text of a location leads where its names lead. -/
lemma reach_render {root : Text} (hroot : Path.IsRootText root) {l : Location} (hl : l ≠ [])
    (h : ∀ name ∈ l, Path.IsName name) : d.reach (Path.render root l) =
      if Path.pathLimit < Utf8.size (Path.render root l) then .error .nameTooLong
      else d.tree.reach [] l := by
  rw [reach_eq (Path.render_ne_nil hroot l), origin, Path.isAbsolute_render hroot, if_pos rfl,
    Path.steps_render hroot hl h]

/-- Names that are joined hold no character that none of them holds. -/
lemma nul_notMem_join {names : List Text} (h : ∀ name ∈ names, '\x00' ∉ name) :
    '\x00' ∉ Text.join ['/'] names := by
  induction names with
  | nil => simp [Text.join]
  | cons name names ih =>
    have hname := h name (by simp)
    have hrest := ih fun n hn => h n (by simp [hn])
    cases names with
    | nil => simpa [Text.join] using hname
    | cons m names => simpa [Text.join, hname] using hrest

/-- The text of a location holds no character that its names do not hold. -/
lemma hasNul_render {root : Text} (hroot : Path.IsRootText root) {l : Location}
    (h : ∀ name ∈ l, '\x00' ∉ name) : hasNul (Path.render root l) = false := by
  have hjoin := nul_notMem_join h
  rcases hroot with rfl | rfl <;> simpa [hasNul, Path.render] using hjoin

/-- The absolute form of a path holds no character that neither the path nor the names of the place
where it starts hold. -/
lemma hasNul_absolute_of_origin {p : Text} (hstart : ∀ name ∈ d.origin p, '\x00' ∉ name)
    (h : hasNul p = false) : hasNul (d.absolute p) = false := by
  refine hasNul_render (Path.isRootText_rootText p) fun name hname hnul => ?_
  rcases Path.mem_foldl_follow hname with hold | ⟨hmem, -, -⟩
  · exact hstart name hold hnul
  · have hpiece : name ∈ Text.split '/' p := List.mem_of_mem_filter hmem
    have hin : '\x00' ∈ p := Text.mem_of_mem_split hpiece hnul
    simp [hasNul, hin] at h

/-- The absolute form of an absolute path holds no character that the path does not hold. -/
lemma hasNul_absolute {p : Text} (habsolute : Path.isAbsolute p = true) (h : hasNul p = false) :
    hasNul (d.absolute p) = false := by
  refine hasNul_absolute_of_origin (fun name hname => ?_) h
  rw [origin, if_pos habsolute] at hname
  cases hname

/-- The absolute form of a path holds no character that neither the path nor the names of the working
directory hold. -/
lemma hasNul_absolute_of_cwd (hcwd : ∀ name ∈ d.cwd, '\x00' ∉ name) {p : Text}
    (h : hasNul p = false) : hasNul (d.absolute p) = false := by
  refine hasNul_absolute_of_origin (fun name hname => ?_) h
  rw [origin] at hname
  split at hname
  · cases hname
  · exact hcwd name hname

/-! ## Directories -/

lemma reach_of_isDirectory {p : Text} (h : d.isDirectory p = true) :
    hasNul p = false ∧ ∃ l, d.reach p = .ok (l, .directory) := by
  rw [isDirectory, Bool.and_eq_true] at h
  obtain ⟨hnul, hdir⟩ := h
  refine ⟨by simpa using hnul, ?_⟩
  split at hdir
  · next l hreach => exact ⟨l, hreach⟩
  · cases hdir

/-- The path of a directory leads by names, also when it is made absolute. -/
lemma isName_of_mem_locate {p : Text} (h : d.isDirectory p = true) :
    ∀ name ∈ Path.locate d.cwd p, Path.IsName name := by
  obtain ⟨-, l, hreach⟩ := reach_of_isDirectory h
  obtain ⟨hp, hwalk⟩ := walk_of_reach hreach
  intro name hname
  rcases Path.mem_foldl_follow hname with hstart | ⟨hmem, hhere, hup⟩
  · by_cases habsolute : Path.isAbsolute p = true
    · simp [habsolute] at hstart
    · rw [if_neg habsolute] at hstart
      rw [origin, if_neg habsolute] at hwalk
      have hcwd := FileTree.directory_of_walk (Path.steps_ne_nil hp) hwalk
      exact FileTree.isName_of_mem (by rw [hcwd]; rfl) name hstart
  · refine FileTree.isName_of_walk hwalk name (List.mem_append_left _ hmem) ?_
    rintro (hslash | h | h)
    · exact Path.ne_nil_of_mem_names hmem hslash
    · exact hhere h
    · exact hup h

end Disk

end RelationAtlas
