import RelationAtlas.Proofs.Source.BodyTokens
import RelationAtlas.Proofs.Source.Headings
import RelationAtlas.Source.Relationship

/-!
# The relationships of a file by their places

The reader of methods hands over each method with the text up to the next header.  Here headers are
places in the file (`Method.headers`), a body is the part of the file from the opening brace of a
header to the place that `Body.stopIn` calculates from the tokens in between, and the relationships
of the file are the calls in these parts (`ofText_eq_calls_in_bodies`).
-/

namespace RelationAtlas

open Text

/-! ## What follows a header -/

namespace Method

/-- What follows a header is the end of the text, and it begins with an opening brace. -/
lemma suffix_of_header? {t name rest : Text} (h : header? t = some (name, rest)) :
    rest <:+ t ∧ rest.head? = some '{' := by
  obtain ⟨heading, -, htext, hbrace⟩ := header?_eq_some_iff.mp h
  exact ⟨⟨heading.text, htext.symm⟩, hbrace⟩

/-! ## Places of headers and bodies -/

/-- The reader of headers alone, which goes on at the opening brace. -/
def headerReader : Reader Text where
  read? := header?
  shorter := header?_length

/-- The headers in a file, each with the start of the next one or the end of the file. -/
def headers (t : Text) : List (Reader.Place Text × Nat) :=
  Reader.withLimits t.length (headerReader.places 0 t)

/-- The text up to the next header, by the place of that header. -/
lemma untilHeader_eq_take (pos : Nat) (t : Text) :
    untilHeader t =
      t.take (Reader.limit (pos + t.length) (headerReader.places pos t) - pos) := by
  induction t generalizing pos with
  | nil => simp [untilHeader]
  | cons c cs ih =>
    rw [untilHeader]
    cases h : header? (c :: cs) with
    | some found =>
      obtain ⟨name, rest⟩ := found
      rw [Reader.places_of_read? (r := headerReader) h]
      simp [Reader.limit]
    | none =>
      rw [Reader.places_cons_of_none (r := headerReader) h, if_neg (by simp), ih (pos + 1)]
      have hend : pos + (c :: cs).length = pos + 1 + cs.length := by
        simp only [List.length_cons]
        omega
      have hlow := (Reader.limit_places headerReader (pos + 1) cs).1
      rw [hend]
      generalize Reader.limit _ _ = stop at hlow ⊢
      obtain ⟨k, rfl⟩ := Nat.exists_eq_add_of_le hlow
      have hk : pos + 1 + k - pos = k + 1 := by omega
      rw [hk, List.take_succ_cons, Nat.add_sub_cancel_left]

/-- The method that a header introduces in a file. -/
def ofPlace (t : Text) (h : Reader.Place Text × Nat) : Method :=
  ⟨h.1.value, t.extract h.1.stop h.2⟩

/-- The methods in the rest of a file are those of the headers there. -/
lemma all_eq_map_places (before t : Text) :
    reader.all t =
      (Reader.withLimits (before ++ t).length (headerReader.places before.length t)).map
        (ofPlace (before ++ t)) := by
  induction hn : t.length using Nat.strong_induction_on generalizing before t with
  | _ n ih =>
    subst hn
    cases t with
    | nil => simp [Reader.withLimits]
    | cons c cs =>
      cases h : header? (c :: cs) with
      | none =>
        have hread : reader.read? (c :: cs) = none := by simp [reader, h]
        rw [Reader.all_cons_of_none hread, Reader.places_cons_of_none (r := headerReader) h,
          ih _ (by simp) (before ++ [c]) cs rfl]
        simp
      | some found =>
        obtain ⟨name, rest⟩ := found
        have hread : reader.read? (c :: cs) = some (⟨name, untilHeader rest⟩, rest) := by
          simp [reader, h]
        obtain ⟨header, hheader⟩ := (suffix_of_header? h).1
        rw [Reader.all_of_read? hread, Reader.places_of_read? (r := headerReader) h,
          ih _ (header?_length h) (before ++ header) rest rfl]
        -- The search goes on behind what stands before the brace.
        have hstop : before.length + ((c :: cs).length - rest.length) =
            (before ++ header).length := by
          rw [← hheader, List.length_append, List.length_append]
          omega
        have hall : before ++ header ++ rest = before ++ c :: cs := by
          rw [← hheader, List.append_assoc]
        rw [hstop, hall, Reader.withLimits, List.map_cons]
        congr 1
        rw [untilHeader_eq_take (before ++ header).length, ofPlace, ← hall, ← List.length_append]
        simp [List.extract]

/-- The methods of a file are those of its headers. -/
lemma ofText_eq_map_headers (t : Text) : ofText t = (headers t).map (ofPlace t) := by
  have h := all_eq_map_places [] t
  rwa [List.nil_append] at h

/-- The span of a method begins with its opening brace. -/
lemma exists_span_eq {t : Text} {m : Method} (h : m ∈ ofText t) : ∃ cs, m.span = '{' :: cs := by
  have hread : ∀ {t : Text} {m : Method} {rest : Text}, reader.read? t = some (m, rest) →
      ∃ cs, m.span = '{' :: cs := by
    intro t m rest hread
    obtain ⟨⟨name, rest'⟩, hheader, heq⟩ := Option.map_eq_some_iff.mp hread
    obtain ⟨cs, rfl⟩ := List.head?_eq_some_iff.mp (suffix_of_header? hheader).2
    simp only [Prod.mk.injEq] at heq
    rw [← heq.1]
    exact ⟨untilHeader cs, by simp [untilHeader, header?_brace]⟩
  exact Reader.forall_mem_all hread t m h

end Method

/-! ## The calls in the bodies -/

namespace Body

/-- Where the body ends whose opening brace is at `start`, if it has to end at `stop`: behind the
first token that balances the braces, or at `stop` if there is none. -/
def stopIn (t : Text) (start stop : Nat) : Nat :=
  match (tokens (t.extract start stop)).inits.find? (closes 0) with
  | some front => start + (texts front).length
  | none => stop

/-- The body that is read in a span is the part of the file up to that place. -/
lemma ofText_extract {t cs : Text} {start stop : Nat} (h : t.extract start stop = '{' :: cs) :
    ofText (t.extract start stop) = t.extract start (stopIn t start stop) := by
  have hbody : ofText (t.extract start stop) =
      texts (balancedFront 0 (tokens (t.extract start stop))) := by
    rw [h, ofText_eq]
  have hfront := isPrefix_texts_balancedFront 0 (t.extract start stop)
  rw [hbody, stopIn]
  rw [balancedFront] at hfront ⊢
  cases hfind : (tokens (t.extract start stop)).inits.find? (closes 0) with
  | none => exact texts_tokens _
  | some front =>
    rw [hfind] at hfront
    have htake := List.prefix_iff_eq_take.mp (hfront.trans (List.take_prefix _ _))
    simpa [List.extract] using htake

/-- The opening brace belongs to the body, which does not go beyond its limit. -/
lemma lt_stopIn {t cs : Text} {start stop : Nat} (h : t.extract start stop = '{' :: cs) :
    start < stopIn t start stop ∧ stopIn t start stop ≤ stop := by
  have hlength := congrArg List.length h
  simp only [List.extract, List.length_take, List.length_drop, List.length_cons] at hlength
  rw [stopIn]
  split
  · next front hfind =>
    have hcloses := List.find?_some hfind
    obtain ⟨behind, hbehind⟩ := (List.mem_inits _ _).mp (List.mem_of_find?_eq_some hfind)
    -- The front is not empty, and neither is any of its tokens.
    have hpos : 0 < (texts front).length := by
      cases front with
      | nil => simp at hcloses
      | cons token front =>
        rw [h, tokens_cons] at hbehind
        obtain rfl := (List.cons.inj hbehind).1
        have hne := List.length_pos_iff.mpr (firstToken_text_ne_nil '{' cs)
        simp only [texts, List.flatMap_cons, List.length_append]
        omega
    have hle := congrArg (fun ts => (texts ts).length) hbehind
    simp only [texts_tokens] at hle
    simp only [texts, List.flatMap_append, List.length_append, List.extract, List.length_take,
      List.length_drop] at hle hpos ⊢
    omega
  · omega

end Body

namespace Relationship

/-- The relationships of a file are the calls in the bodies behind its headers, where a body goes from
an opening brace to the place at which single braces are balanced, and no further than to the next
header. -/
theorem ofText_eq_calls_in_bodies (t : Text) :
    (∀ h ∈ Method.headers t, t[h.1.stop]? = some '{' ∧ h.2 ≤ t.length ∧
      h.1.stop < Body.stopIn t h.1.stop h.2 ∧ Body.stopIn t h.1.stop h.2 ≤ h.2) ∧
    ofText t = (Method.headers t).flatMap fun (header, stop) =>
      (Call.allWith RelationKind.all
        (t.extract header.stop (Body.stopIn t header.stop stop))).map
          fun call => ⟨header.value, call.kind, call.target⟩ := by
  have hspan : ∀ h ∈ Method.headers t, ∃ cs, t.extract h.1.stop h.2 = '{' :: cs := by
    intro h hmem
    have hm : Method.ofPlace t h ∈ Method.ofText t := by
      rw [Method.ofText_eq_map_headers]
      exact List.mem_map_of_mem hmem
    exact Method.exists_span_eq hm
  refine ⟨fun h hmem => ?_, ?_⟩
  · obtain ⟨cs, hcs⟩ := hspan h hmem
    have hbrace : t[h.1.stop]? = some '{' := by
      have hhead := congrArg List.head? hcs
      rw [List.extract, List.head?_take] at hhead
      split at hhead
      · cases hhead
      · rwa [List.head?_drop] at hhead
    have hend : h.2 ≤ t.length := by
      refine Reader.snd_le_of_mem_withLimits (fun p hp => ?_) h hmem
      have hle := Reader.start_le_of_mem_places Method.headerReader 0 t p hp
      omega
    exact ⟨hbrace, hend, Body.lt_stopIn hcs⟩
  · rw [ofText, ofTextWith, Method.ofText_eq_map_headers, List.flatMap_map]
    refine List.flatMap_congr fun h hmem => ?_
    obtain ⟨cs, hcs⟩ := hspan h hmem
    rw [ofMethodWith, Method.ofPlace, Body.ofText_extract hcs]

end Relationship

end RelationAtlas
