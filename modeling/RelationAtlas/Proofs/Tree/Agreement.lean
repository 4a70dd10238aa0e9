import RelationAtlas.Proofs.Tree.AbsolutePaths
import RelationAtlas.Tree.Reading

/-!
# Trees that agree along a path

What a look along some steps finds depends only on what is on the way (`reach_congr`), and what is read
from a file only on what its path leads to (`Disk.read_congr`).

Without links, a look takes its steps one by one (`reach_cons`), so the first of these follows by
induction on the steps.
-/

namespace RelationAtlas

namespace FileTree

variable {t t' : FileTree}

lemma reach_nil (t : FileTree) (l : Location) : t.reach l [] =
    match t.get? l with
    | some e => .ok (l, e)
    | none => .error .notFound := by
  rw [reach, walk_nil]
  rfl

/-- A look along names that lead to a directory goes on from there. -/
lemma reach_append_of_directory {l : Location} (h : t.get? l = some .directory)
    (rest : List Text) : t.reach [] (l ++ rest) = t.reach l rest := by
  have hwalk := walk_append_of_get? (l := []) h (by simp) linkLimit rest
  rw [List.nil_append] at hwalk
  rw [reach, reach, hwalk]

/-- Without links, a look that does not turn takes one step after another. -/
lemma reach_cons (hlinks : t.HasNoLinks) {name : Text} (hname : ¬ IsTurn name) (l : Location)
    (rest : List Text) : t.reach l (name :: rest) =
      if t.get? l ≠ some .directory then .error .notDirectory
      else if Path.nameLimit < Utf8.size name then .error .nameTooLong
      else if t.get? (l ++ [name]) = none then .error .notFound
      else t.reach (l ++ [name]) rest := by
  have hstay : ¬ (name = Path.afterSlash ∨ name = Path.here) := by
    rintro (hslash | hhere)
    · exact hname (Or.inl hslash)
    · exact hname (Or.inr (Or.inl hhere))
  have hup : name ≠ Path.up := fun hup => hname (Or.inr (Or.inr hup))
  by_cases hdir : t.get? l = some .directory
  · by_cases hsize : Path.nameLimit < Utf8.size name
    · simp [reach, walk, walkWith, linkLimit, hdir, hstay, hup, hsize, bind, Except.bind]
    · cases hget : t.get? (l ++ [name]) with
      | none =>
        by_cases hrest : rest = []
        · simp [reach, walk, walkWith, linkLimit, hdir, hstay, hup, hsize, hget, hrest, bind,
            Except.bind]
        · simp [reach, walk, walkWith, linkLimit, hdir, hstay, hup, hsize, hget, hrest, bind,
            Except.bind]
      | some e =>
        have hplain : ∀ target, e ≠ .link target := by
          rintro target rfl
          exact hlinks _ target hget
        have hstep : t.walk .look linkLimit l (name :: rest) =
            t.walk .look linkLimit (l ++ [name]) rest := by
          refine walk_cons_of_get? hdir ?_ ?_ hup (Nat.not_lt.mp hsize) hget hplain
          · exact fun hslash => hstay (Or.inl hslash)
          · exact fun hhere => hstay (Or.inr hhere)
        rw [if_neg (by simp [hdir]), if_neg hsize, if_neg (by simp), reach, reach, hstep]
  · simp [reach, walk, walkWith, linkLimit, hdir, bind, Except.bind]

/-- Without links, a look that does not turn finds what is at the steps it takes. -/
lemma eq_of_reach (hlinks : t.HasNoLinks) {l l' : Location} {names : List Text}
    (hnames : ∀ name ∈ names, ¬ IsTurn name) {e : Entry} (h : t.reach l names = .ok (l', e)) :
    l' = l ++ names ∧ t.get? (l ++ names) = some e := by
  induction names generalizing l with
  | nil =>
    rw [reach_nil] at h
    cases hget : t.get? l with
    | none =>
      rw [hget] at h
      cases h
    | some e' =>
      rw [hget] at h
      cases h
      exact ⟨by simp, by simpa using hget⟩
  | cons name rest ih =>
    rw [reach_cons hlinks (hnames name (by simp))] at h
    split at h
    · cases h
    split at h
    · cases h
    split at h
    · cases h
    · obtain ⟨hl', hget⟩ := ih (fun n hn => hnames n (by simp [hn])) h
      rw [← List.append_cons] at hl' hget
      exact ⟨hl', hget⟩

/-- Two trees without links look alike along steps on which they agree. -/
lemma reach_congr (hlinks : t.HasNoLinks) (hlinks' : t'.HasNoLinks) {l : Location}
    {names : List Text} (hnames : ∀ name ∈ names, ¬ IsTurn name)
    (hagree : ∀ front, front <+: names → t.get? (l ++ front) = t'.get? (l ++ front)) :
    t.reach l names = t'.reach l names := by
  induction names generalizing l with
  | nil =>
    have hhere := hagree [] List.nil_prefix
    rw [List.append_nil] at hhere
    rw [reach_nil, reach_nil, hhere]
  | cons name rest ih =>
    have hname := hnames name (by simp)
    have hhere := hagree [] List.nil_prefix
    have hnext := hagree [name] (List.prefix_append [name] rest)
    have hrest : t.reach (l ++ [name]) rest = t'.reach (l ++ [name]) rest := by
      refine ih (fun n hn => hnames n (by simp [hn])) fun front hfront => ?_
      have hlonger := hagree (name :: front) (List.cons_prefix_cons.mpr ⟨rfl, hfront⟩)
      rwa [← List.append_cons]
    rw [List.append_nil] at hhere
    rw [reach_cons hlinks hname, reach_cons hlinks' hname, hhere, hnext, hrest]

end FileTree

namespace Disk

variable {d d' : Disk}

/-- What is read depends only on what the path leads to. -/
lemma read_congr {path : Text} (h : d.reach path = d'.reach path) (codecs : Codecs)
    (encoding : Text) :
    d.read codecs path encoding = d'.read codecs path encoding := by
  have hbytes : d.bytes path = d'.bytes path := by rw [bytes, bytes, h]
  rw [read, read, hbytes]

end Disk

end RelationAtlas
