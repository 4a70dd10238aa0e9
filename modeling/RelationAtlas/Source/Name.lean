import RelationAtlas.Text.Word

/-!
# Qualified names

A qualified name is a path of words separated by backslashes.  Its last segment is what follows the
last backslash, and its scope is what stands before it; a name without a backslash is its own last
segment and its own scope.
-/

namespace RelationAtlas.Name

/-- The separator of the segments of a name. -/
def separator : Char := '\\'

/-- Can the character stand in a qualified name? -/
def isNameChar (c : Char) : Bool := Text.isWord c || c == separator

/-- The name of a class inside a scope. -/
def qualify (scope name : Text) : Text := scope ++ separator :: name

/-- The segment after the last separator. -/
def lastSegment (name : Text) : Text := (name.reverse.takeWhile (· ≠ separator)).reverse

/-- What stands before the last separator, or the whole name if there is none. -/
def scope (name : Text) : Text :=
  match name.reverse.dropWhile (· ≠ separator) with
  | [] => name
  | _ :: before => before.reverse

/-- The last segment of a qualified name is the class name, provided that one is a single
segment. -/
theorem lastSegment_qualify {scope name : Text} (h : separator ∉ name) :
    lastSegment (qualify scope name) = name := by
  have hall : ∀ c ∈ name.reverse, decide (c ≠ separator) = true := by
    intro c hc
    simp only [List.mem_reverse] at hc
    simpa using fun heq : c = separator => h (heq ▸ hc)
  simp only [lastSegment, qualify, List.reverse_append, List.reverse_cons, List.append_assoc]
  rw [List.takeWhile_append_of_pos hall]
  simp

/-- The scope of a qualified name is the scope it was made of, provided the class name is a single
segment. -/
theorem scope_qualify {s name : Text} (h : separator ∉ name) : scope (qualify s name) = s := by
  have hall : ∀ c ∈ name.reverse, decide (c ≠ separator) = true := by
    intro c hc
    simp only [List.mem_reverse] at hc
    simpa using fun heq : c = separator => h (heq ▸ hc)
  simp only [scope, qualify, List.reverse_append, List.reverse_cons, List.append_assoc]
  rw [List.dropWhile_append_of_pos hall]
  simp

/-- A last segment holds no separator. -/
theorem separator_notMem_lastSegment (name : Text) : separator ∉ lastSegment name := by
  intro h
  simp only [lastSegment, List.mem_reverse] at h
  simpa using List.all_eq_true.mp (List.all_takeWhile (l := name.reverse)) _ h

end RelationAtlas.Name
