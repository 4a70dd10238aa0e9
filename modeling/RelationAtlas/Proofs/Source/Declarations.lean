import RelationAtlas.Proofs.Source.Names
import RelationAtlas.Proofs.Text.Places
import RelationAtlas.Source.Declaration

/-!
# Declarations in a written file

The search for a declaration tries the places where one can begin.  Here are the steps of that search
on a text that is written down part by part: what it goes on behind, and what it finds.  No
declaration can begin inside or right behind a name that follows a space (`opensDeclaration_word`), whatever
the name is.
-/

namespace RelationAtlas

open Text

namespace Declaration

variable {α : Type} {read? : Text → Option (α × Text)}

/-- Where no declaration can begin, the search goes on. -/
lemma first?_of_closed {before : Text} {c : Char} {cs : Text}
    (h : opensDeclaration before = false) :
    first? read? before (c :: cs) = first? read? (c :: before) cs := by
  rw [first?, h]
  rfl

/-- Where no declaration stands, the search goes on. -/
lemma first?_of_none {before : Text} {c : Char} {cs : Text} (h : read? (c :: cs) = none) :
    first? read? before (c :: cs) = first? read? (c :: before) cs := by
  rw [first?, h]
  cases opensDeclaration before <;> rfl

/-- The search goes on behind what is passed over. -/
lemma first?_of_passed {u t : Text} (h : Passed read? u t) (before : Text) :
    first? read? before (u ++ t) = first? read? (u.reverse ++ before) t := by
  induction u generalizing before with
  | nil => rfl
  | cons c u ih =>
    rw [List.cons_append, first?_of_none h.1, ih h.2]
    simp

/-- Where a declaration stands and can begin, it is found. -/
lemma first?_of_some {before t : Text} {found : α × Text} (ht : t ≠ [])
    (hopen : opensDeclaration before = true) (h : read? t = some found) :
    first? read? before t = some found := by
  obtain ⟨c, cs, rfl⟩ := List.exists_cons_of_ne_nil ht
  rw [first?, hopen, if_pos rfl, h]

/-- No declaration begins inside or behind a name that follows a space. -/
lemma opensDeclaration_word {w : Text} (hw : ∀ c ∈ w, Name.isNameChar c = true) (before : Text) :
    opensDeclaration (w ++ ' ' :: before) = false := by
  -- The opening tag holds a question mark, which would have to stand inside the name.
  unfold opensDeclaration
  split
  · next h => simp at h
  · next h =>
    cases w with
    | nil => simp at h
    | cons c cs =>
      obtain ⟨rfl, -⟩ := List.cons.inj h
      exact absurd (hw '\n' (by simp)) (by decide)
  · next h =>
    cases w with
    | nil => simp at h
    | cons c cs =>
      obtain ⟨rfl, -⟩ := List.cons.inj h
      exact absurd (hw ';' (by simp)) (by decide)
  · next rest h =>
    have hmark : '?' ∈ w := by
      match w, h with
      | [], h => simp at h
      | [_], h => simp at h
      | [_, _], h => simp at h
      | [_, _, _], h => simp at h
      | _ :: _ :: _ :: c :: _, h =>
        simp only [List.cons_append, List.cons.injEq] at h
        simp [h.2.2.2.1]
    exact absurd (hw '?' hmark) (by decide)
  · rfl

/-- The search goes on behind a name that follows a space. -/
lemma first?_name (n : SpelledName) (before t : Text) :
    first? read? (' ' :: before) (n.text ++ t) =
      first? read? (n.text.reverse ++ ' ' :: before) t := by
  have hgo : ∀ u w : Text, (∀ c ∈ u, Name.isNameChar c = true) →
      (∀ c ∈ w, Name.isNameChar c = true) →
      first? read? (w ++ ' ' :: before) (u ++ t) =
        first? read? (u.reverse ++ w ++ ' ' :: before) t := by
    intro u
    induction u with
    | nil => intro w _ _; simp
    | cons c u ih =>
      intro w hu hw
      rw [List.cons_append, first?_of_closed (opensDeclaration_word hw before),
        ← List.cons_append, ih (c :: w) (fun d hd => hu d (by simp [hd]))
          (fun d hd => by
            rcases List.mem_cons.mp hd with rfl | hd
            · exact hu d (by simp)
            · exact hw d hd)]
      simp
  have h := hgo n.text [] n.isNameChar (by simp)
  rwa [List.nil_append, List.append_nil] at h

lemma readNamespace?_eq (n : SpelledName) (t : Text) :
    readNamespace? ("namespace ".toList ++ n.text ++ ';' :: t) = some (n.text, t) := by
  have hstart : (("namespace ".toList ++ n.text ++ ';' :: t).dropWhile isIndent) =
      "namespace".toList ++ ' ' :: (n.text ++ ';' :: t) := by
    simp [isIndent]
  rw [readNamespace?, hstart, after?_append]
  simp only [Option.bind_eq_bind, Option.bind_some]
  rw [afterBlanks?_cons (by decide) (n.isBlank_of_head _), Option.bind_some,
    n.run?_append (by decide)]
  simp only [Option.bind_some]
  rw [dropBlanks_cons_of_not (by decide)]
  rfl

/-- No namespace is declared by a text that does not begin like one. -/
lemma readNamespace?_eq_none {c : Char} (hindent : isIndent c = false) (hc : c ≠ 'n') (cs : Text) :
    readNamespace? (c :: cs) = none := by
  have hafter : after? "namespace".toList (c :: cs) = none := by
    simp [after?, hc.symm]
  rw [readNamespace?, List.dropWhile_cons_of_neg (by simp [hindent]), hafter]
  rfl

lemma readClass?_eq (w : Word) (t : Text) :
    readClass? ("class ".toList ++ w.text ++ ' ' :: t) = some (w.text, ' ' :: t) := by
  have hstart : (("class ".toList ++ w.text ++ ' ' :: t).dropWhile isIndent) =
      "class".toList ++ ' ' :: (w.text ++ ' ' :: t) := by
    simp [isIndent]
  have hmodifiers : dropModifiers ("class".toList ++ ' ' :: (w.text ++ ' ' :: t)) =
      "class".toList ++ ' ' :: (w.text ++ ' ' :: t) := by
    rw [dropModifiers]
    split
    · next h => simp [afterModifier?, modifiers, after?] at h
    · rfl
  rw [readClass?, hstart, hmodifiers, after?_append]
  simp only [Option.bind_eq_bind, Option.bind_some]
  rw [afterBlanks?_cons (by decide) (w.isBlank_of_head _), Option.bind_some]
  exact w.run?_append (by decide) t

/-- No class is declared by a text that does not begin like one. -/
lemma readClass?_eq_none {c : Char} {cs : Text} (hindent : isIndent c = false)
    (h : ∀ word ∈ "class".toList :: modifiers, after? word (c :: cs) = none) :
    readClass? (c :: cs) = none := by
  have hmodifiers : dropModifiers (c :: cs) = c :: cs := by
    rw [dropModifiers]
    split
    · next rest hsome =>
      obtain ⟨word, hword, hafter⟩ := List.exists_of_findSome?_eq_some hsome
      rw [h word (by simp [hword])] at hafter
      cases hafter
    · rfl
  rw [readClass?, List.dropWhile_cons_of_neg (by simp [hindent]), hmodifiers,
    h "class".toList (by simp)]
  rfl

end Declaration

end RelationAtlas
