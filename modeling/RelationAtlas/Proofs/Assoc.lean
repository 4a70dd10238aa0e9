import Mathlib.Data.List.Induction
import Mathlib.Data.List.Nodup
import RelationAtlas.Assoc

/-!
# Maps put together

`Assoc.update` puts the entries of one map into another, one after another.  A key that was there
keeps its place and takes the new value, and new keys follow in their order: `keys_update` and
`get?_update` say so, and together they say what the map is, because a map that lists no key twice is
known by its keys and by what it finds (`eq_of_keys_eq`).

A map that is made of pairs lists their keys in the order in which they came first (`keys_ofPairs`).
-/

namespace RelationAtlas

/-- A last member is a new one, or it is a repetition. -/
lemma eraseDups_concat {α : Type} [BEq α] [LawfulBEq α] (as : List α) (a : α) :
    (as ++ [a]).eraseDups = if a ∈ as then as.eraseDups else as.eraseDups ++ [a] := by
  rw [List.eraseDups_append]
  by_cases h : a ∈ as
  · have hnone : [a].removeAll as = [] := by
      simp only [List.removeAll, List.filter_cons, List.filter_nil]
      rw [if_neg (by simp [h])]
    rw [hnone, if_pos h, List.eraseDups_nil, List.append_nil]
  · have hone : [a].removeAll as = [a] := by
      simp only [List.removeAll, List.filter_cons, List.filter_nil]
      rw [if_pos (by simp [h])]
    rw [hone, if_neg h, List.eraseDups_cons, List.filter_nil, List.eraseDups_nil]

namespace Assoc

variable {α β : Type}

/-! ## Keys -/

@[simp] lemma keys_nil : keys ([] : Assoc α β) = [] := rfl

@[simp] lemma keys_cons (e : α × β) (m : Assoc α β) : keys (e :: m) = e.1 :: keys m := rfl

variable [DecidableEq α]

/-- A key that is put in is the last one unless it was there. -/
lemma keys_put (m : Assoc α β) (a : α) (b : β) :
    (m.put a b).keys = if a ∈ m.keys then m.keys else m.keys ++ [a] := by
  induction m with
  | nil => rfl
  | cons e rest ih =>
    obtain ⟨k, v⟩ := e
    by_cases hk : k = a
    · subst hk
      simp [put]
    · rw [put, if_neg hk, keys_cons, ih, keys_cons]
      by_cases ha : a ∈ keys rest <;> simp [ha, Ne.symm hk]

/-- Putting a key in lists no key twice. -/
lemma nodup_keys_put {m : Assoc α β} (h : m.keys.Nodup) (a : α) (b : β) :
    (m.put a b).keys.Nodup := by
  rw [keys_put]
  split
  · exact h
  · next ha =>
    rw [List.nodup_append_comm]
    exact List.nodup_cons.mpr ⟨ha, h⟩

/-- A key that is not listed finds nothing. -/
lemma get?_eq_none {m : Assoc α β} {a : α} (h : a ∉ m.keys) : m.get? a = none := by
  rw [mem_keys_iff] at h
  simpa using h

/-- An entry is what is found, if no key is listed twice. -/
lemma mem_iff_get? {m : Assoc α β} (h : m.keys.Nodup) {a : α} {b : β} :
    (a, b) ∈ m ↔ m.get? a = some b := by
  induction m with
  | nil => simp [get?]
  | cons e rest ih =>
    obtain ⟨k, v⟩ := e
    obtain ⟨hk, hrest⟩ : k ∉ keys rest ∧ (keys rest).Nodup := List.nodup_cons.mp h
    rw [List.mem_cons, ih hrest, get?, Prod.mk.injEq]
    by_cases hka : k = a
    · subst hka
      rw [if_pos rfl, get?_eq_none hk]
      simp [eq_comm]
    · simp [hka, Ne.symm hka]

/-- The keys of a map that is made of pairs are those of the pairs, in the order in which they came
first. -/
lemma keys_ofPairs [BEq α] [LawfulBEq α] (pairs : List (α × β)) :
    (ofPairs pairs).keys = (pairs.map Prod.fst).eraseDups := by
  induction pairs using List.reverseRecOn with
  | nil => rfl
  | append_singleton pairs e ih =>
    have hput : ofPairs (pairs ++ [e]) = (ofPairs pairs).put e.1 e.2 := by
      rw [ofPairs, List.foldl_append]
      rfl
    rw [hput, keys_put, ih, List.map_append, List.map_cons, List.map_nil, eraseDups_concat]
    simp only [List.mem_eraseDups]

/-- Maps that list the same keys in the same order, none of them twice, and find the same values are
the same. -/
lemma eq_of_keys_eq {m n : Assoc α β} (hm : m.keys.Nodup) (hkeys : m.keys = n.keys)
    (hget : ∀ a, m.get? a = n.get? a) : m = n := by
  induction m generalizing n with
  | nil =>
    cases n with
    | nil => rfl
    | cons e' rest' => simp at hkeys
  | cons e rest ih =>
    obtain ⟨k, v⟩ := e
    cases n with
    | nil => simp at hkeys
    | cons e' rest' =>
      obtain ⟨k', v'⟩ := e'
      obtain ⟨rfl, hrest⟩ : k = k' ∧ keys rest = keys rest' := List.cons.inj hkeys
      obtain ⟨hk, hnodup⟩ : k ∉ keys rest ∧ (keys rest).Nodup := List.nodup_cons.mp hm
      have hvalue : v = v' := by simpa [get?] using hget k
      have htail : ∀ a, get? rest a = get? rest' a := by
        intro a
        by_cases ha : k = a
        · subst ha
          rw [get?_eq_none hk, get?_eq_none (hrest ▸ hk)]
        · simpa [get?, ha] using hget a
      rw [hvalue, ih hnodup hrest htail]

/-! ## Updates -/

/-- The map with the entries of another one put in, in their order. -/
def update (m n : Assoc α β) : Assoc α β := n.foldl (fun m e => m.put e.1 e.2) m

@[simp] lemma update_nil (m : Assoc α β) : m.update [] = m := rfl

lemma update_cons (m : Assoc α β) (e : α × β) (n : Assoc α β) :
    m.update (e :: n) = (m.put e.1 e.2).update n := rfl

/-- An updated map lists its keys in their old places, and the new ones behind them. -/
lemma keys_update (m : Assoc α β) {n : Assoc α β} (hn : n.keys.Nodup) :
    (m.update n).keys = m.keys ++ n.keys.filter (· ∉ m.keys) := by
  induction n generalizing m with
  | nil => simp
  | cons e n ih =>
    obtain ⟨k, v⟩ := e
    obtain ⟨hk, hnodup⟩ : k ∉ keys n ∧ (keys n).Nodup := List.nodup_cons.mp hn
    rw [update_cons, ih (m.put k v) hnodup, keys_cons, keys_put]
    by_cases hmem : k ∈ m.keys
    · rw [if_pos hmem, List.filter_cons_of_neg (by simpa using hmem)]
    · have hsame : (keys n).filter (· ∉ m.keys ++ [k]) = (keys n).filter (· ∉ m.keys) :=
        List.filter_congr fun a ha => by
          have hne : a ≠ k := fun heq => hk (heq ▸ ha)
          simp [hne]
      rw [if_neg hmem, hsame, List.filter_cons_of_pos (by simpa using hmem), List.append_assoc]
      rfl

/-- An updated map finds the new value of a key if there is one. -/
lemma get?_update (m : Assoc α β) {n : Assoc α β} (hn : n.keys.Nodup) (a : α) :
    (m.update n).get? a = (n.get? a).or (m.get? a) := by
  induction n generalizing m with
  | nil => simp [get?]
  | cons e n ih =>
    obtain ⟨k, v⟩ := e
    obtain ⟨hk, hnodup⟩ : k ∉ keys n ∧ (keys n).Nodup := List.nodup_cons.mp hn
    rw [update_cons, ih _ hnodup, get?_put]
    by_cases ha : k = a
    · subst ha
      simp [get?, get?_eq_none hk]
    · simp [get?, ha]

/-- No key is listed twice after an update. -/
lemma nodup_keys_update {m n : Assoc α β} (hm : m.keys.Nodup) (hn : n.keys.Nodup) :
    (m.update n).keys.Nodup := by
  rw [keys_update m hn]
  refine List.nodup_append.mpr ⟨hm, hn.filter _, fun a ha b hb heq => ?_⟩
  have hnew := List.of_mem_filter hb
  simp [← heq, ha] at hnew

/-- One more entry may be put in before or after an update. -/
lemma update_put {m n : Assoc α β} (hm : m.keys.Nodup) (hn : n.keys.Nodup) (a : α) (b : β) :
    m.update (n.put a b) = (m.update n).put a b := by
  have hput := nodup_keys_put hn a b
  refine eq_of_keys_eq (nodup_keys_update hm hput) ?_ fun x => ?_
  · rw [keys_put, keys_update m hput, keys_update m hn, keys_put]
    by_cases hold : a ∈ m.keys <;> by_cases hnew : a ∈ n.keys <;> simp [hold, hnew]
  · rw [get?_update m hput, get?_put, get?_put, get?_update m hn]
    split <;> rfl

end Assoc

end RelationAtlas
