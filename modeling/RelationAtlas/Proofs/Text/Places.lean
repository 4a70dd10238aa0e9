import Mathlib.Tactic.Lemma
import RelationAtlas.Text.Reader

/-!
# Where a reader finds its values

A reader hands over what it finds in a text, but not where.  Here each value comes with the place
where it starts and the place where the search goes on (`Reader.places`), counted from the front of
the text, and with its *limit*: the start of the next value, or the end of the text
(`Reader.withLimits`).

Where nothing can be read, the search goes on at the next character.  A part of a text at none of
whose places something can be read is passed over as a whole (`Reader.all_of_passed`).

A reader loses nothing but what begins inside something it has found: each place at which a value can
be read is the start of a place that is found, or lies strictly inside one
(`Reader.mem_places_or_covered`).
-/

namespace RelationAtlas

/-- Of two ways to cut a text, the later one cuts what stands behind the earlier one. -/
lemma Text.exists_append_of_length_le {before behind before' behind' : Text}
    (h : before ++ behind = before' ++ behind') (hle : before.length ≤ before'.length) :
    ∃ between, before' = before ++ between ∧ behind = between ++ behind' := by
  obtain ⟨between, rfl⟩ : before <+: before' :=
    List.prefix_of_prefix_length_le ⟨behind, rfl⟩ ⟨behind', h.symm⟩ hle
  rw [List.append_assoc] at h
  exact ⟨between, rfl, List.append_cancel_left h⟩

/-- A text without a character ends in front of each place where this character stands. -/
lemma Text.exists_append_of_notMem {u v before behind : Text} {c : Char}
    (h : u ++ v = before ++ c :: behind) (hc : c ∉ u) : ∃ b, before = u ++ b := by
  rcases List.append_eq_append_iff.mp h with ⟨a, rfl, -⟩ | ⟨a, rfl, ha⟩
  · exact ⟨a, rfl⟩
  · cases a with
    | nil => exact ⟨[], by simp⟩
    | cons d ds =>
      obtain ⟨rfl, -⟩ := List.cons.inj ha
      simp at hc

variable {α : Type}

/-! ## Passing over -/

/-- Nothing can be read at any place of a text that is followed by another one. -/
def Passed (read? : Text → Option α) : Text → Text → Prop
  | [], _ => True
  | c :: u, t => read? (c :: (u ++ t)) = none ∧ Passed read? u t

/-- Two parts of a text are passed over one after the other. -/
lemma passed_append {read? : Text → Option α} {u v t : Text} :
    Passed read? (u ++ v) t ↔ Passed read? u (v ++ t) ∧ Passed read? v t := by
  induction u with
  | nil => simp [Passed]
  | cons c u ih => simp [Passed, ih, and_assoc]

/-- A text is passed over when none of its characters is one with which something begins. -/
lemma passed_of_forall {read? : Text → Option α} {u : Text}
    (h : ∀ c ∈ u, ∀ t, read? (c :: t) = none) (t : Text) : Passed read? u t := by
  induction u with
  | nil => trivial
  | cons c u ih => exact ⟨h c (by simp) _, ih fun d hd => h d (by simp [hd])⟩

namespace Reader

/-- The search goes on behind what is passed over. -/
lemma all_of_passed {r : Reader α} {u t : Text} (h : Passed r.read? u t) :
    r.all (u ++ t) = r.all t := by
  induction u with
  | nil => rfl
  | cons c u ih => rw [List.cons_append, all_cons_of_none h.1, ih h.2]

/-! ## Places -/

/-- A value that is found in a text, with the offsets where it starts and where the search goes on. -/
structure Place (α : Type) where
  start : Nat
  stop : Nat
  value : α

/-- The place is that of a part that stands behind the text `before`. -/
def Place.Spans (p : Place α) (before part : Text) : Prop :=
  p.start = before.length ∧ p.stop = p.start + part.length

/-- The values that a reader finds in a text whose front is at `pos`. -/
def places (r : Reader α) (pos : Nat) (t : Text) : List (Place α) :=
  match t with
  | [] => []
  | c :: cs =>
    match _h : r.read? (c :: cs) with
    | some (a, rest) =>
      let stop := pos + ((c :: cs).length - rest.length)
      ⟨pos, stop, a⟩ :: r.places stop rest
    | none => r.places (pos + 1) cs
termination_by t.length
decreasing_by
  · exact r.shorter ‹_›
  · simp

@[simp] lemma places_nil (r : Reader α) (pos : Nat) : r.places pos [] = [] := by
  rw [places]

/-- A value at the front is found there. -/
lemma places_of_read? {r : Reader α} {pos : Nat} {t rest : Text} {a : α}
    (h : r.read? t = some (a, rest)) :
    r.places pos t = ⟨pos, pos + (t.length - rest.length), a⟩ ::
      r.places (pos + (t.length - rest.length)) rest := by
  cases t with
  | nil => exact absurd (r.shorter h) (by simp)
  | cons c cs =>
    rw [places]
    split
    · next a' rest' heq =>
      rw [h] at heq
      simp only [Option.some.injEq, Prod.mk.injEq] at heq
      rw [heq.1, heq.2]
    · next heq => rw [h] at heq; cases heq

/-- Where nothing can be read, the search goes on at the next place. -/
lemma places_cons_of_none {r : Reader α} {pos : Nat} {c : Char} {cs : Text}
    (h : r.read? (c :: cs) = none) : r.places pos (c :: cs) = r.places (pos + 1) cs := by
  rw [places]
  split
  · next heq => rw [h] at heq; cases heq
  · rfl

/-- The place up to which there is room for a value that is followed by others in a text that ends
at `stop`. -/
def limit (stop : Nat) (next : List (Place α)) : Nat := (next.head?.map Place.start).getD stop

/-- Each of the places with its limit, in a text that ends at `stop`. -/
def withLimits (stop : Nat) : List (Place α) → List (Place α × Nat)
  | [] => []
  | p :: next => (p, limit stop next) :: withLimits stop next

/-- The first value is found inside the text. -/
lemma limit_places (r : Reader α) (pos : Nat) (t : Text) :
    pos ≤ limit (pos + t.length) (r.places pos t) ∧
      limit (pos + t.length) (r.places pos t) ≤ pos + t.length := by
  induction t generalizing pos with
  | nil => simp [limit]
  | cons c cs ih =>
    cases h : r.read? (c :: cs) with
    | some found =>
      rw [places_of_read? h]
      simp [limit]
    | none =>
      rw [places_cons_of_none h]
      have hend : pos + (c :: cs).length = pos + 1 + cs.length := by
        simp only [List.length_cons]
        omega
      obtain ⟨hlow, hhigh⟩ := ih (pos + 1)
      rw [hend]
      omega

/-- No value is found behind the text. -/
lemma start_le_of_mem_places (r : Reader α) (pos : Nat) (t : Text) :
    ∀ p ∈ r.places pos t, p.start ≤ pos + t.length := by
  induction hn : t.length using Nat.strongRecOn generalizing pos t with
  | _ n ih =>
    cases t with
    | nil => simp
    | cons c cs =>
      subst hn
      intro p hp
      cases hread : r.read? (c :: cs) with
      | none =>
        rw [places_cons_of_none hread] at hp
        have hle := ih _ (by simp) (pos + 1) cs rfl p hp
        rw [List.length_cons]
        omega
      | some found =>
        obtain ⟨a, rest⟩ := found
        have hshorter := r.shorter hread
        rw [places_of_read? hread] at hp
        rcases List.mem_cons.mp hp with rfl | hp
        · exact Nat.le_add_right _ _
        · have hle := ih _ hshorter _ rest rfl p hp
          omega

/-- No limit lies behind the end of the text. -/
lemma snd_le_of_mem_withLimits {stop : Nat} {ps : List (Place α)}
    (h : ∀ p ∈ ps, p.start ≤ stop) : ∀ x ∈ withLimits stop ps, x.2 ≤ stop := by
  induction ps with
  | nil => simp [withLimits]
  | cons p ps ih =>
    intro x hx
    rcases List.mem_cons.mp hx with rfl | hx
    · cases ps with
      | nil => exact Nat.le_refl stop
      | cons q ps => exact h q (by simp)
    · exact ih (fun q hq => h q (by simp [hq])) x hx

/-- The values by their places are the values. -/
lemma map_value_places (r : Reader α) (pos : Nat) (t : Text) :
    (r.places pos t).map Place.value = r.all t := by
  induction hn : t.length using Nat.strongRecOn generalizing pos t with
  | _ n ih =>
    cases t with
    | nil => simp
    | cons c cs =>
      subst hn
      cases hread : r.read? (c :: cs) with
      | none => rw [places_cons_of_none hread, all_cons_of_none hread, ih _ (by simp) _ cs rfl]
      | some found =>
        obtain ⟨a, rest⟩ := found
        rw [places_of_read? hread, all_of_read? hread, List.map_cons,
          ih _ (r.shorter hread) _ rest rfl]

/-- Every value is found behind the front of the text, and takes up some of it. -/
lemma le_start_of_mem_places (r : Reader α) (pos : Nat) (t : Text) :
    ∀ p ∈ r.places pos t, pos ≤ p.start ∧ p.start < p.stop := by
  induction hn : t.length using Nat.strongRecOn generalizing pos t with
  | _ n ih =>
    cases t with
    | nil => simp
    | cons c cs =>
      subst hn
      intro p hp
      cases hread : r.read? (c :: cs) with
      | none =>
        rw [places_cons_of_none hread] at hp
        have hle := ih _ (by simp) (pos + 1) cs rfl p hp
        omega
      | some found =>
        obtain ⟨a, rest⟩ := found
        have hshorter := r.shorter hread
        rw [places_of_read? hread] at hp
        rcases List.mem_cons.mp hp with rfl | hp
        · simp only
          omega
        · have hle := ih _ hshorter _ rest rfl p hp
          omega

/-- The values are found one behind the other. -/
lemma pairwise_places (r : Reader α) (pos : Nat) (t : Text) :
    (r.places pos t).Pairwise fun p q => p.stop ≤ q.start := by
  induction hn : t.length using Nat.strongRecOn generalizing pos t with
  | _ n ih =>
    cases t with
    | nil => simp
    | cons c cs =>
      subst hn
      cases hread : r.read? (c :: cs) with
      | none =>
        rw [places_cons_of_none hread]
        exact ih _ (by simp) _ cs rfl
      | some found =>
        obtain ⟨a, rest⟩ := found
        rw [places_of_read? hread]
        refine List.pairwise_cons.mpr ⟨fun q hq => ?_, ih _ (r.shorter hread) _ rest rfl⟩
        exact (le_start_of_mem_places r _ rest q hq).1

/-- Values at different places do not overlap. -/
lemma eq_of_mem_places (r : Reader α) (pos : Nat) (t : Text) {p q : Place α}
    (hp : p ∈ r.places pos t) (hq : q ∈ r.places pos t) (hpq : p.start < q.stop)
    (hqp : q.start < p.stop) : p = q := by
  obtain ⟨i, hi, rfl⟩ := List.getElem_of_mem hp
  obtain ⟨j, hj, rfl⟩ := List.getElem_of_mem hq
  have hsep := List.pairwise_iff_getElem.mp (pairwise_places r pos t)
  rcases Nat.lt_trichotomy i j with hij | rfl | hij
  · have := hsep i j hi hj hij
    omega
  · rfl
  · have := hsep j i hj hi hij
    omega

/-- The places of a text, without their limits. -/
lemma map_fst_withLimits (stop : Nat) (ps : List (Place α)) :
    (withLimits stop ps).map Prod.fst = ps := by
  induction ps with
  | nil => rfl
  | cons p ps ih => rw [withLimits, List.map_cons, ih]

/-- The limit of a value lies in front of all values behind it. -/
lemma pairwise_withLimits {stop : Nat} {ps : List (Place α)}
    (h : ps.Pairwise fun p q => p.start ≤ q.start) :
    (withLimits stop ps).Pairwise fun x y => x.2 ≤ y.1.start := by
  induction ps with
  | nil => exact List.Pairwise.nil
  | cons p ps ih =>
    obtain ⟨-, hps⟩ := List.pairwise_cons.mp h
    refine List.pairwise_cons.mpr ⟨fun y hy => ?_, ih hps⟩
    have hmem : y.1 ∈ ps := by
      rw [← map_fst_withLimits stop ps]
      exact List.mem_map_of_mem hy
    cases ps with
    | nil => cases hmem
    | cons q ps =>
      rcases List.mem_cons.mp hmem with heq | hmem
      · exact Nat.le_of_eq (congrArg Place.start heq).symm
      · exact (List.pairwise_cons.mp hps).1 y.1 hmem

/-! ## Values that begin inside others -/

/-- The reader leaves an end of the text it is given. -/
def LeavesEnd (r : Reader α) : Prop := ∀ {t a rest}, r.read? t = some (a, rest) → rest <:+ t

/-- A value is found where it can be read. -/
lemma exists_of_mem_places {r : Reader α} (hr : r.LeavesEnd) {pos : Nat} {t : Text}
    {p : Place α} (hp : p ∈ r.places pos t) : ∃ before part rest, t = before ++ (part ++ rest) ∧
      r.read? (part ++ rest) = some (p.value, rest) ∧ p.start = pos + before.length ∧
      p.stop = p.start + part.length := by
  induction hn : t.length using Nat.strongRecOn generalizing pos t with
  | _ n ih =>
    cases t with
    | nil => simp at hp
    | cons c cs =>
      subst hn
      cases hread : r.read? (c :: cs) with
      | none =>
        rw [places_cons_of_none hread] at hp
        obtain ⟨before, part, rest, rfl, hvalue, hstart, hstop⟩ := ih _ (by simp) hp rfl
        refine ⟨c :: before, part, rest, rfl, hvalue, ?_, hstop⟩
        rw [hstart, List.length_cons]
        omega
      | some found =>
        obtain ⟨a, rest⟩ := found
        obtain ⟨part, hpart⟩ := hr hread
        have hlength : (c :: cs).length - rest.length = part.length := by
          rw [← hpart, List.length_append]
          omega
        rw [places_of_read? hread, hlength] at hp
        rcases List.mem_cons.mp hp with rfl | hp
        · exact ⟨[], part, rest, hpart.symm, by rwa [hpart], rfl, rfl⟩
        · obtain ⟨before, part', rest', rfl, hvalue, hstart, hstop⟩ :=
            ih _ (r.shorter hread) hp rfl
          refine ⟨part ++ before, part', rest', ?_, hvalue, ?_, hstop⟩
          · rw [← hpart, List.append_assoc]
          · rw [hstart, List.length_append]
            omega

/-- Where a value can be read, it is found, or the place lies inside a value that is found. -/
lemma mem_places_or_covered {r : Reader α} (hr : r.LeavesEnd) {part rest : Text} {a : α}
    (h : r.read? (part ++ rest) = some (a, rest)) (pos : Nat) (before : Text) :
    ⟨pos + before.length, pos + before.length + part.length, a⟩ ∈
        r.places pos (before ++ (part ++ rest)) ∨
      ∃ q ∈ r.places pos (before ++ (part ++ rest)),
        q.start < pos + before.length ∧ pos + before.length < q.stop := by
  induction hn : before.length using Nat.strongRecOn generalizing pos before with
  | _ n ih =>
    subst hn
    cases before with
    | nil =>
      refine Or.inl ?_
      rw [List.nil_append, places_of_read? h]
      simp
    | cons c cs =>
      cases hread : r.read? (c :: (cs ++ (part ++ rest))) with
      | none =>
        have hstart : pos + (c :: cs).length = pos + 1 + cs.length := by
          rw [List.length_cons]
          omega
        rw [List.cons_append, places_cons_of_none hread, hstart]
        exact ih _ (by simp) (pos + 1) cs rfl
      | some found =>
        obtain ⟨b, rest'⟩ := found
        obtain ⟨front, hfront⟩ := hr hread
        have hshorter := r.shorter hread
        have hlength := congrArg List.length hfront
        rw [List.length_append] at hlength
        have hstop : (c :: (cs ++ (part ++ rest))).length - rest'.length = front.length := by omega
        rw [List.cons_append, places_of_read? hread, hstop]
        -- The search goes on behind what is found, which is in front of the place or covers it.
        by_cases hle : front.length ≤ (c :: cs).length
        · have hcut : front ++ rest' = (c :: cs) ++ (part ++ rest) := hfront
          obtain ⟨before, hbefore, rfl⟩ := Text.exists_append_of_length_le hcut hle
          have hstart : pos + (c :: cs).length = pos + front.length + before.length := by
            rw [hbefore, List.length_append]
            omega
          rw [hstart]
          rcases ih _ (by rw [hbefore, List.length_append]; omega) (pos + front.length) before rfl
            with hmem | ⟨q, hq, hcovers⟩
          · exact Or.inl (List.mem_cons_of_mem _ hmem)
          · exact Or.inr ⟨q, List.mem_cons_of_mem _ hq, hcovers⟩
        · refine Or.inr ⟨_, List.mem_cons_self, ?_⟩
          simp only [List.length_cons] at hle ⊢
          omega

/-- What holds of every value that can be read holds of all values that are found. -/
lemma forall_mem_all {r : Reader α} {P : α → Prop}
    (h : ∀ {t a rest}, r.read? t = some (a, rest) → P a) (t : Text) : ∀ a ∈ r.all t, P a := by
  induction hn : t.length using Nat.strongRecOn generalizing t with
  | _ n ih =>
    cases t with
    | nil => simp
    | cons c cs =>
      subst hn
      cases hread : r.read? (c :: cs) with
      | none =>
        rw [all_cons_of_none hread]
        exact ih _ (by simp) cs rfl
      | some found =>
        obtain ⟨a, rest⟩ := found
        rw [all_of_read? hread]
        intro b hb
        rcases List.mem_cons.mp hb with rfl | hb
        · exact h hread
        · exact ih _ (r.shorter hread) rest rfl b hb

end Reader

end RelationAtlas
