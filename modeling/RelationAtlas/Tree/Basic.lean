import RelationAtlas.Assoc
import RelationAtlas.Tree.Path

/-!
# File trees

A file tree says what is at each location: a file with its bytes, a directory, or a link that holds
a path.  The root is always a directory, whatever exists is inside a directory (`FileTree.closed`)
and is called by a name that a path can hold (`FileTree.named`); that is the whole of what makes a
collection of entries a tree.

Two operations change a tree.  `put` sets what is at one location and asks that this leaves a tree
(`Accepts`), and `prune` takes out a location with everything below it.
-/

namespace RelationAtlas

/-- What can be at a location. -/
inductive Entry where
  | file (bytes : List UInt8)
  | directory
  | link (target : Text)
  deriving DecidableEq, Repr

namespace FileTree

/-- What is at a location, when the entries below the root are given. -/
def lookup (entries : Assoc Location Entry) (l : Location) : Option Entry :=
  if l = [] then some .directory else entries.get? l

end FileTree

/-- Files, directories and links below a root.  Whatever exists is inside a directory and has a
name. -/
structure FileTree where
  entries : Assoc Location Entry
  closed : ∀ l name, (FileTree.lookup entries (l ++ [name])).isSome →
    FileTree.lookup entries l = some .directory
  named : ∀ l name, (FileTree.lookup entries (l ++ [name])).isSome → Path.IsName name

namespace FileTree

/-- What is at a location. -/
def get? (t : FileTree) (l : Location) : Option Entry := lookup t.entries l

/-- The root is a directory. -/
@[simp] theorem get?_nil (t : FileTree) : t.get? [] = some .directory := rfl

/-- The tree with nothing below its root. -/
def empty : FileTree where
  entries := []
  closed := by simp [lookup, Assoc.get?]
  named := by simp [lookup, Assoc.get?]

/-! ## Changing a tree -/

/-- Does setting a location leave a tree?  Its directory has to be there, its last part has to be a
name, and a directory can only be replaced by a directory. -/
def Accepts (t : FileTree) (l : Location) (e : Entry) : Prop :=
  l ≠ [] ∧ (∀ name ∈ l.getLast?, Path.IsName name) ∧ t.get? l.dropLast = some .directory ∧
    (e = .directory ∨ t.get? l ≠ some .directory)

instance (t : FileTree) (l : Location) (e : Entry) : Decidable (t.Accepts l e) :=
  inferInstanceAs (Decidable (_ ∧ _ ∧ _ ∧ _))

/-- What is found after a location below the root has been set. -/
theorem lookup_put {entries : Assoc Location Entry} {l : Location} {e : Entry} (hl : l ≠ [])
    (x : Location) :
    lookup (entries.put l e) x = if l = x then some e else lookup entries x := by
  by_cases hx : x = []
  · subst hx; simp [lookup, hl]
  · simp [lookup, hx, Assoc.get?_put]

/-- The tree with one location set. -/
def put (t : FileTree) (l : Location) (e : Entry) (h : t.Accepts l e) : FileTree where
  entries := t.entries.put l e
  closed := by
    obtain ⟨hl, _, hparent, hdir⟩ := h
    intro m name
    rw [lookup_put hl, lookup_put hl]
    by_cases hm : l = m
    · subst hm
      intro hsome
      rw [if_neg (by simp)] at hsome
      have hold : t.get? l = some .directory := t.closed l name hsome
      rcases hdir with rfl | hne
      · simp
      · exact absurd hold hne
    · rw [if_neg hm]
      by_cases hn : l = m ++ [name]
      · intro _
        have hm : t.get? m = some .directory := by simpa [hn] using hparent
        exact hm
      · rw [if_neg hn]
        exact t.closed m name
  named := by
    obtain ⟨hl, hlast, _⟩ := h
    intro m name
    rw [lookup_put hl]
    by_cases hn : l = m ++ [name]
    · intro _
      exact hlast name (by simp [hn])
    · rw [if_neg hn]
      exact t.named m name

/-- What is found after a location has been set. -/
theorem get?_put {t : FileTree} {l : Location} {e : Entry} (h : t.Accepts l e) (x : Location) :
    (t.put l e h).get? x = if l = x then some e else t.get? x :=
  lookup_put h.1 x

/-- What is found after the locations below one have been taken out. -/
theorem lookup_erase (entries : Assoc Location Entry) (l x : Location) :
    lookup (entries.erase l.isPrefixOf) x =
      if x = [] then some .directory else if l.isPrefixOf x then none else lookup entries x := by
  by_cases hx : x = []
  · simp [lookup, hx]
  · simp [lookup, hx, Assoc.get?_erase]

/-- The tree without a location and everything below it. -/
def prune (t : FileTree) (l : Location) : FileTree where
  entries := t.entries.erase l.isPrefixOf
  closed := by
    intro m name
    rw [lookup_erase, lookup_erase]
    rw [if_neg (by simp)]
    by_cases hp : l.isPrefixOf (m ++ [name]) = true
    · simp [hp]
    · intro hsome
      rw [if_neg hp] at hsome
      have hdir := t.closed m name hsome
      by_cases hm : m = []
      · simp [hm]
      · rw [if_neg hm, if_neg, hdir]
        intro hpm
        apply hp
        rw [List.isPrefixOf_iff_prefix] at hpm ⊢
        exact hpm.trans (List.prefix_append _ _)
  named := by
    intro m name hsome
    rw [lookup_erase, if_neg (by simp)] at hsome
    split at hsome
    · simp at hsome
    · exact t.named m name hsome

/-! ## Looking around -/

/-- The names in a directory. -/
def namesIn (t : FileTree) (l : Location) : List Text :=
  t.entries.keys.filterMap fun k => if k.dropLast = l then k.getLast? else none

/-- What follows `l` in a location that begins with it. -/
def relativeTo? : Location → Location → Option Location
  | [], k => some k
  | _ :: _, [] => none
  | n :: l, m :: k => if n = m then relativeTo? l k else none

/-- The directories at and below a location, each by the names that lead down to it.  Links are not
followed. -/
def directoriesBelow (t : FileTree) (l : Location) : List Location :=
  [] :: t.entries.keys.filterMap fun k =>
    match relativeTo? l k with
    | some (name :: rest) => if t.get? k = some .directory then some (name :: rest) else none
    | _ => none

end FileTree

end RelationAtlas
