/-!
# Association lists

A finite map is kept as the list of its entries in the order in which their keys were first put in.
Putting a key that is there changes its value and leaves it where it is.

The map is known by what it finds: `get?_put` and `get?_erase` say what each operation does to that.
-/

namespace RelationAtlas

/-- The entries of a finite map, in the order in which their keys came. -/
abbrev Assoc (α β : Type) := List (α × β)

namespace Assoc

variable {α β : Type} [DecidableEq α]

/-- The value of a key. -/
def get? : Assoc α β → α → Option β
  | [], _ => none
  | (k, v) :: rest, a => if k = a then some v else get? rest a

/-- The map with one key set. -/
def put : Assoc α β → α → β → Assoc α β
  | [], a, b => [(a, b)]
  | (k, v) :: rest, a, b => if k = a then (k, b) :: rest else (k, v) :: put rest a b

/-- The map without the keys of some class. -/
def erase (m : Assoc α β) (p : α → Bool) : Assoc α β := m.filter fun e => !p e.1

/-- The keys in order. -/
def keys (m : Assoc α β) : List α := m.map (·.1)

/-- The map of a list of pairs, later ones replacing earlier ones. -/
def ofPairs (pairs : List (α × β)) : Assoc α β := pairs.foldl (fun m e => m.put e.1 e.2) []

/-- What is found after a key has been set. -/
theorem get?_put (m : Assoc α β) (a : α) (b : β) (x : α) :
    (m.put a b).get? x = if a = x then some b else m.get? x := by
  induction m with
  | nil => simp [put, get?]
  | cons e rest ih =>
    obtain ⟨k, v⟩ := e
    by_cases hk : k = a
    · subst hk
      by_cases hx : k = x <;> simp [put, get?, hx]
    · by_cases hx : k = x
      · subst hx
        have hne : a ≠ k := fun h => hk h.symm
        simp [put, get?, hk, hne]
      · simp [put, get?, hk, hx, ih]

/-- What is found after keys have been taken out. -/
theorem get?_erase (m : Assoc α β) (p : α → Bool) (x : α) :
    (m.erase p).get? x = if p x then none else m.get? x := by
  induction m with
  | nil => simp [erase, get?]
  | cons e rest ih =>
    obtain ⟨k, v⟩ := e
    simp only [erase, List.filter_cons] at ih ⊢
    by_cases hk : k = x
    · subst hk
      cases hp : p k <;> simp [get?, hp, ih]
    · cases hp : p k <;> simp [get?, hk, ih]

/-- A key is listed exactly when it has a value. -/
theorem mem_keys_iff {m : Assoc α β} {a : α} : a ∈ m.keys ↔ (m.get? a).isSome := by
  induction m with
  | nil => simp [keys, get?]
  | cons e rest ih =>
    obtain ⟨k, v⟩ := e
    simp only [keys, List.map_cons, List.mem_cons] at ih ⊢
    by_cases hk : k = a
    · simp [get?, hk]
    · simp [get?, hk, ← ih, Ne.symm hk]

end Assoc

end RelationAtlas
