import RelationAtlas.Proofs.Source.Attribution

/-!
# The order of the kinds

The words of some kinds begin with the words of others, so the reader of calls might take one kind for
another if it tried the shorter word first.  It does not: a call is read for some kind only where its
word ends in front of blanks and a parenthesis, and that settles the kind.  So the order in which the
kinds are tried does not matter for what is read at a place (`Call.read?_eq_of_forall_mem`), and
therefore not for what is found in a file either (`Relationship.ofTextWith_of_perm`): the kind that is
reported is the whole word behind the arrow.
-/

namespace RelationAtlas

open Text

namespace Call

variable {kinds kinds' : List RelationKind}

/-- When all kinds are tried, what is read is what can be read for one of them. -/
lemma findSome?_ofKind?_eq_some_iff (hkinds : ∀ k, k ∈ kinds) {t : Text} {found : Call × Text} :
    kinds.findSome? (fun k => ofKind? k t) = some found ↔ ∃ k, ofKind? k t = some found := by
  constructor
  · intro h
    obtain ⟨k, -, hk⟩ := List.exists_of_findSome?_eq_some h
    exact ⟨k, hk⟩
  · rintro ⟨k, hk⟩
    obtain ⟨behindKind, behindParenthesis, target, -, rfl⟩ := exists_ofKind? hk
    rw [findSome?_ofKind? (hkinds k), hk]

/-- At each place the same call is read in any order of all kinds. -/
lemma read?_eq_of_forall_mem (h : ∀ k, k ∈ kinds) (h' : ∀ k, k ∈ kinds') (t : Text) :
    read? kinds t = read? kinds' t := by
  unfold read?
  cases after? "->".toList t with
  | none => rfl
  | some u =>
    refine Option.ext fun found => ?_
    exact (findSome?_ofKind?_eq_some_iff h).trans (findSome?_ofKind?_eq_some_iff h').symm

/-- The calls of a text are the same in any order of all kinds. -/
lemma allWith_eq_of_forall_mem (h : ∀ k, k ∈ kinds) (h' : ∀ k, k ∈ kinds') (t : Text) :
    allWith kinds t = allWith kinds' t := by
  have hreader : reader kinds = reader kinds' := by
    unfold reader
    rw [Reader.mk.injEq]
    exact funext (read?_eq_of_forall_mem h h')
  rw [allWith, hreader, allWith]

end Call

/-- Behind the arrow of a call and the blanks there, the word of its kind stands as a whole. -/
lemma WrittenCall.run?_behindArrow (w : WrittenCall) (t : Text) : ∃ behind rest,
    w.text ++ t = "->".toList ++ behind ∧
      run? isWord (dropBlanks behind) = some (w.kind.word, rest) := by
  let rest := w.behindKind.text ++ '(' ::
    (w.behindParenthesis.text ++ (w.target.text ++ Call.classSuffix ++ t))
  refine ⟨w.behindArrow.text ++ (w.kind.word ++ rest), rest, ?_, ?_⟩
  · rw [text, List.append_assoc, opening_append]
  · have hdrop : dropBlanks (w.behindArrow.text ++ (w.kind.word ++ rest)) = w.kind.word ++ rest :=
      w.behindArrow.dropBlanks_append (w.kind.toWord.isBlank_of_head _)
    rw [hdrop]
    exact Call.run?_word w.kind w.behindKind _

namespace Relationship

/-- The relationships of a file are the same in whatever order the kinds are tried, and each is found
where the longest word behind the arrow and the blanks there is the word of its kind, so that the kind
is the one that this word stands for. -/
theorem ofTextWith_of_perm {kinds : List RelationKind} (hkinds : kinds.Perm RelationKind.all)
    (t : Text) :
    ofTextWith kinds t = ofText t ∧ ofText t = (places t).map Reader.Place.value ∧
    ∀ p ∈ places t, ∃ behind word rest, t.drop p.start = "->".toList ++ behind ∧
      run? isWord (dropBlanks behind) = some (word, rest) ∧
      word = p.value.kind.word ∧ RelationKind.ofWord? word = some p.value.kind := by
  refine ⟨?_, (map_value_places t).symm, fun p hp => ?_⟩
  · have hcalls : Call.allWith kinds = Call.allWith RelationKind.all := funext <|
      Call.allWith_eq_of_forall_mem (fun k => hkinds.mem_iff.mpr (RelationKind.mem_all k))
        RelationKind.mem_all
    have hmethod : ofMethodWith kinds = ofMethodWith RelationKind.all := by
      funext m
      rw [ofMethodWith, hcalls, ofMethodWith]
    rw [ofTextWith, hmethod, ofText, ofTextWith]
  · obtain ⟨h, hmem, hp⟩ := List.mem_flatMap.mp hp
    obtain ⟨-, ⟨hcall, -⟩, -⟩ := (mem_placesIn_iff hmem p).mp hp
    obtain ⟨w, before, behindCall, ht, hplace⟩ := hcall
    obtain ⟨behind, rest, htext, hrun⟩ := w.run?_behindArrow behindCall
    rw [callAt, Reader.Place.mk.injEq, Nat.zero_add] at hplace
    have hkind : w.kind = p.value.kind := congrArg Call.kind hplace.2.2.symm
    refine ⟨behind, w.kind.word, rest, ?_, hrun, by rw [hkind], ?_⟩
    · rw [ht, hplace.1, List.drop_left, htext]
    · rw [RelationKind.ofWord?_word, hkind]

/-- A method that calls something whose name begins with the words of two kinds, and then a kind whose
word begins with that of another one. -/
def throughMethod : Text :=
  "public function a() \x7b $this->hasManyDeep(B::class); $this->hasManyThrough(C::class); \x7d".toList

/-- Kinds with shorter words may be tried first. -/
theorem ofTextWith_of_perm_shortestFirst :
    RelationKind.all.reverse.Perm RelationKind.all ∧
    ofTextWith RelationKind.all.reverse throughMethod =
      [⟨"a".toList, .hasManyThrough, "C".toList⟩] := by
  have hperm : RelationKind.all.reverse.Perm RelationKind.all := List.reverse_perm _
  refine ⟨hperm, ?_⟩
  rw [(ofTextWith_of_perm hperm throughMethod).1]
  decide +kernel

end Relationship

end RelationAtlas
