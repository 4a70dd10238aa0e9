import Mathlib.Data.List.TakeWhile
import RelationAtlas.Proofs.Discovery.Matching

/-!
# How described names end

When a wildcard ends with characters that stand for themselves, every name that it describes ends with
them too (`suffix_of_describes`), and so does the last name of everything that a pattern with
such a last component covers (`Covers.endsWith_getLast`).

A class that is not closed in front of these characters is not closed by them, so the wildcard is cut
into its parts as if they were not there (`pieces_append`).
-/

namespace RelationAtlas

namespace Wildcard

/-- Every character stands for itself, wherever it is in a wildcard. -/
def IsLiteral (t : Text) : Prop := ∀ c ∈ t, c ≠ '*' ∧ c ≠ '?' ∧ c ≠ '[' ∧ c ≠ ']' ∧ c ≠ '!'

instance (t : Text) : Decidable (IsLiteral t) := List.decidableBAll _ t

variable {s t : Text}

lemma pieces_of_isLiteral (ht : IsLiteral t) : pieces t = t.map .char := by
  induction t with
  | nil => rw [pieces, List.map_nil]
  | cons c t ih =>
    obtain ⟨hstar, hquestion, hbracket, -, -⟩ := ht c (by simp)
    have hrest := ih fun b hb => ht b (by simp [hb])
    rw [pieces, hrest, List.map_cons]
    · exact hstar
    · exact hquestion
    · exact hbracket

/-- A text that begins with some character only if its second part does not is none of both. -/
lemma append_ne_cons {r : Text} {c : Char} (hr : ∀ u, r ≠ c :: u) (ht : ∀ u, t ≠ c :: u) (u : Text) :
    r ++ t ≠ c :: u := by
  cases r with
  | nil => exact ht u
  | cons b r =>
    intro h
    obtain ⟨rfl, -⟩ := List.cons.inj h
    exact hr r rfl

/-- Literal characters are no part of the front of a class. -/
lemma classFront_append (ht : IsLiteral t) (s : Text) :
    classFront (s ++ t) = ((classFront s).1, (classFront s).2 ++ t) := by
  have hclosing : ∀ u, t ≠ ']' :: u := by
    rintro u rfl
    exact (ht ']' (by simp)).2.2.2.1 rfl
  have hmark : ∀ u, t ≠ '!' :: u := by
    rintro u rfl
    exact (ht '!' (by simp)).2.2.2.2 rfl
  fun_cases classFront s with
  | case1 rest => rfl
  | case2 rest hrest =>
    rw [List.cons_append, classFront]
    exact append_ne_cons hrest hclosing
  | case3 rest => rfl
  | case4 _ _ hmark' hclosing' =>
    rw [classFront]
    · intro u
      exact append_ne_cons hmark' hmark (']' :: u)
    · exact append_ne_cons hmark' hmark
    · exact append_ne_cons hclosing' hclosing

/-- Literal characters do not close a class. -/
lemma classText?_append (ht : IsLiteral t) (s : Text) :
    classText? (s ++ t) = (classText? s).map fun (body, rest) => (body, rest ++ t) := by
  have hopen : t.dropWhile (· ≠ ']') = [] := by
    rw [List.dropWhile_eq_nil_iff]
    intro c hc
    simpa using (ht c hc).2.2.2.1
  rw [classText?, classText?, classFront_append ht]
  generalize classFront s = front
  obtain ⟨front, u⟩ := front
  simp only
  rw [List.dropWhile_append]
  cases hclose : u.dropWhile (· ≠ ']') with
  | nil =>
    rw [List.isEmpty_nil, if_pos rfl, hopen]
    rfl
  | cons c rest =>
    have hlength : (u.takeWhile (· ≠ ']')).length ≠ u.length := by
      intro hlength
      have hsplit := congrArg List.length (u.takeWhile_append_dropWhile (p := (· ≠ ']')))
      rw [hclose, List.length_append, List.length_cons] at hsplit
      omega
    have htake : (u ++ t).takeWhile (· ≠ ']') = u.takeWhile (· ≠ ']') := by
      rw [List.takeWhile_append, if_neg hlength]
    rw [List.isEmpty_cons, if_neg (by simp), htake]
    rfl

/-- A class that is closed. -/
lemma pieces_of_classText? {cs body rest : Text} (h : classText? cs = some (body, rest)) :
    pieces ('[' :: cs) = ofClass body :: pieces rest := by
  rw [pieces]
  split
  · next heq =>
    rw [h] at heq
    cases heq
    rfl
  · next heq =>
    rw [h] at heq
    cases heq

/-- A bracket that is never closed. -/
lemma pieces_of_classText?_eq_none {cs : Text} (h : classText? cs = none) :
    pieces ('[' :: cs) = .char '[' :: pieces cs := by
  rw [pieces]
  split
  · next heq =>
    rw [h] at heq
    cases heq
  · rfl

/-- Literal characters at the end of a wildcard are parts of their own. -/
lemma pieces_append (ht : IsLiteral t) (s : Text) : pieces (s ++ t) = pieces s ++ t.map .char := by
  induction s using pieces.induct with
  | case1 =>
    rw [List.nil_append, pieces_of_isLiteral ht, pieces, List.nil_append]
  | case2 cs ih => rw [List.cons_append, pieces, ih, pieces, List.cons_append]
  | case3 cs ih => rw [List.cons_append, pieces, ih, pieces, List.cons_append]
  | case4 cs body rest hclass ih =>
    have happend := classText?_append ht cs
    rw [hclass] at happend
    rw [List.cons_append, pieces_of_classText? happend, pieces_of_classText? hclass, ih,
      List.cons_append]
  | case5 cs hclass ih =>
    have happend := classText?_append ht cs
    rw [hclass] at happend
    rw [List.cons_append, pieces_of_classText?_eq_none happend,
      pieces_of_classText?_eq_none hclass, ih, List.cons_append]
  | case6 c cs hstar hquestion hbracket ih =>
    rw [List.cons_append, pieces, ih, pieces, List.cons_append]
    · exact hstar
    · exact hquestion
    · exact hbracket
    · exact hstar
    · exact hquestion
    · exact hbracket

/-- Literal parts describe the text that they are made of. -/
lemma eq_of_describes_map {name : Text} (h : describes (t.map .char) name = true) : name = t := by
  induction t generalizing name with
  | nil => simpa [describes] using h
  | cons c t ih =>
    cases name with
    | nil => cases h
    | cons b name =>
      rw [List.map_cons, describes, Bool.and_eq_true] at h
      obtain ⟨haccepts, hrest⟩ := h
      have hb : b = c := by simpa [Piece.accepts] using haccepts
      rw [hb, ih hrest]
      · intro h
        cases h

/-- A name ends with the literal parts at the end of what describes it. -/
lemma suffix_of_describes {ps : List Piece} {name : Text}
    (h : describes (ps ++ t.map .char) name = true) : t <:+ name := by
  induction ps generalizing name with
  | nil =>
    obtain rfl := eq_of_describes_map h
    exact List.suffix_refl _
  | cons p ps ih =>
    by_cases hrun : p = .anyRun
    · subst hrun
      obtain ⟨u, hsuffix, hu⟩ := describes_anyRun.mp h
      exact (ih hu).trans hsuffix
    · cases name with
      | nil =>
        rw [List.cons_append, describes] at h
        · cases h
        · exact hrun
      | cons c name =>
        rw [List.cons_append, describes, Bool.and_eq_true] at h
        · exact (ih h.2).trans (List.suffix_cons c name)
        · exact hrun

end Wildcard

namespace Pattern

variable {ending : Text}

/-- A name that a component describes ends as the component does, if it ends literally. -/
lemma endsWith_of_describes {c name : Text} (hending : Wildcard.IsLiteral ending)
    (hc : Text.endsWith c ending = true) (h : Describes c name) :
    Text.endsWith name ending = true := by
  unfold Describes at h
  split at h
  · obtain ⟨s, rfl⟩ := List.isSuffixOf_iff_suffix.mp hc
    rw [Wildcard.pieces_append hending] at h
    exact List.isSuffixOf_iff_suffix.mpr (Wildcard.suffix_of_describes h)
  · rwa [h]

/-- What is covered ends with a name that the last component describes, unless that one is a double
star. -/
lemma Covers.describes_getLast {cs names : List Text} (h : Covers cs names) {c : Text}
    (hlast : cs.getLast? = some c) (hstar : c ≠ doubleStar) :
    ∃ name, names.getLast? = some name ∧ Describes c name := by
  induction h with
  | nil => cases hlast
  | @anyDepth cs names down h ih =>
    cases cs with
    | nil =>
      obtain rfl : doubleStar = c := by simpa using hlast
      exact absurd rfl hstar
    | cons b cs =>
      rw [List.getLast?_cons_cons] at hlast
      obtain ⟨name, hname, hdescribes⟩ := ih hlast
      exact ⟨name, by simp [hname], hdescribes⟩
  | @one b name cs names hb hname h ih =>
    cases cs with
    | nil =>
      obtain rfl : b = c := by simpa using hlast
      rw [covers_nil_iff] at h
      exact ⟨name, by simp [h], hname⟩
    | cons b cs =>
      rw [List.getLast?_cons_cons] at hlast
      obtain ⟨name', hname', hdescribes⟩ := ih hlast
      exact ⟨name', by simp [List.getLast?_cons, hname'], hdescribes⟩

end Pattern

end RelationAtlas
