import RelationAtlas.Proofs.Source.Bodies
import RelationAtlas.Proofs.Source.Occurrences

/-!
# Which method a relationship belongs to

Headers never overlap, and so every header that is written in a file is found there
(`Method.mem_places_iff_isHeaderAt`).  Each body lies between the opening brace of its header and the
next header, if there is one: the bodies are apart from each other, and a call in a body belongs to
the last header in front of it (`Relationship.ofText_eq_calls_behind_headers`).

In a body, the calls that lie in no other call of the body are reported, and no others
(`Relationship.reported_iff_outermost`).
-/

namespace RelationAtlas

open Text

namespace Method

/-! ## Headers -/

/-- The place is that of a header that is written in a text, up to its opening brace. -/
def IsHeaderAt (t : Text) (p : Reader.Place Text) : Prop :=
  ∃ (h : Heading) (before rest : Text), t = before ++ (h.text ++ '{' :: rest) ∧
    p = ⟨before.length, before.length + h.text.length, h.name.text⟩

/-- Headers do not overlap. -/
lemma IsHeaderAt.stop_lt_start {t : Text} {p q : Reader.Place Text} (hp : IsHeaderAt t p)
    (hq : IsHeaderAt t q) (hlt : p.start < q.start) : p.stop < q.start := by
  obtain ⟨h, before, rest, rfl, rfl⟩ := hp
  obtain ⟨h', before', rest', htext, rfl⟩ := hq
  dsimp only at hlt ⊢
  refine Nat.lt_of_not_le fun hle => ?_
  obtain ⟨front, rfl, hbehind⟩ := exists_append_of_length_le htext (by omega)
  rw [List.length_append] at hlt hle
  -- The second header would begin inside the first one, or at its brace.
  obtain ⟨back, hback, hread⟩ := exists_append_of_length_le hbehind.symm (by omega)
  have hfront : front ≠ [] := by
    rintro rfl
    simp at hlt
  have hnone := header?_of_inside hback hfront rest
  rw [← hread, header?_text] at hnone
  cases hnone

/-- The reader of headers leaves an end of the text. -/
lemma leavesEnd_headerReader : headerReader.LeavesEnd := fun h => (suffix_of_header? h).1

/-- The headers that are found are those that are written. -/
theorem mem_places_iff_isHeaderAt (t : Text) (p : Reader.Place Text) :
    p ∈ headerReader.places 0 t ↔ IsHeaderAt t p := by
  have hfound : ∀ p ∈ headerReader.places 0 t, IsHeaderAt t p := fun p hp => by
    obtain ⟨before, part, rest, rfl, hread, hstart, hstop⟩ :=
      Reader.exists_of_mem_places leavesEnd_headerReader hp
    obtain ⟨h, hname, htext, hbrace⟩ := header?_eq_some_iff.mp hread
    obtain ⟨cs, rfl⟩ := List.head?_eq_some_iff.mp hbrace
    obtain rfl := List.append_cancel_right htext
    rw [Nat.zero_add] at hstart
    exact ⟨h, before, cs, rfl, by rw [hname, ← hstart, ← hstop]⟩
  constructor
  · exact hfound p
  · intro hp
    have hheader := hp
    obtain ⟨h, before, rest, rfl, rfl⟩ := hp
    rcases Reader.mem_places_or_covered leavesEnd_headerReader (header?_text h rest) 0 before with
      hmem | ⟨q, hq, hstart, hstop⟩
    · rwa [Nat.zero_add] at hmem
    · rw [Nat.zero_add] at hstart hstop
      have := (hfound q hq).stop_lt_start hheader hstart
      dsimp only at this
      omega

/-! ## Bodies -/

/-- Where the body behind a header ends. -/
def bodyStop (t : Text) (h : Reader.Place Text × Nat) : Nat :=
  h.1.stop + (Body.ofText (ofPlace t h).span).length

/-- The body behind a header stands in the text, and begins with its opening brace. -/
lemma exists_body {t : Text} {h : Reader.Place Text × Nat} (hmem : h ∈ headers t) :
    ∃ before cs behind, t = before ++ ('{' :: cs ++ behind) ∧ before.length = h.1.stop ∧
      Body.ofText (ofPlace t h).span = '{' :: cs := by
  have hmethod : ofPlace t h ∈ ofText t := by
    rw [ofText_eq_map_headers]
    exact List.mem_map_of_mem hmem
  obtain ⟨ds, hspan⟩ := exists_span_eq hmethod
  obtain ⟨cs, hbody⟩ : ∃ cs, Body.ofText (ofPlace t h).span = '{' :: cs := by
    rw [hspan]
    exact ⟨_, Body.extent_code_cons 0 (by simp) (by simp)⟩
  have hprefix : '{' :: cs <+: t.drop h.1.stop := by
    rw [← hbody]
    exact (Body.extent_prefix _ _ _).trans (List.take_prefix _ _)
  obtain ⟨behind, hbehind⟩ := hprefix
  have hlength := congrArg List.length hbehind
  simp only [List.cons_append, List.length_cons, List.length_drop] at hlength
  refine ⟨t.take h.1.stop, cs, behind, ?_, ?_, hbody⟩
  · rw [hbehind, List.take_append_drop]
  · rw [List.length_take]
    omega

/-- A body takes up some of the text, and does not go beyond its limit or the end of the text. -/
lemma bodyStop_le {t : Text} {h : Reader.Place Text × Nat} (hmem : h ∈ headers t) :
    h.1.stop < bodyStop t h ∧ bodyStop t h ≤ h.2 ∧ h.2 ≤ t.length := by
  obtain ⟨before, cs, behind, -, -, hbody⟩ := exists_body hmem
  have hspan : (Body.ofText (ofPlace t h).span).length ≤ (t.extract h.1.stop h.2).length :=
    (Body.extent_prefix _ _ _).length_le
  have hlimit : h.2 ≤ t.length := by
    refine Reader.snd_le_of_mem_withLimits (fun p hp => ?_) h hmem
    have hle := Reader.start_le_of_mem_places headerReader 0 t p hp
    omega
  simp only [List.extract, List.length_take, List.length_drop] at hspan
  rw [bodyStop]
  rw [hbody, List.length_cons] at hspan ⊢
  omega

/-- A header takes up some of the text. -/
lemma start_lt_stop_of_mem_headers {t : Text} {h : Reader.Place Text × Nat}
    (hmem : h ∈ headers t) : h.1.start < h.1.stop := by
  have hplace : h.1 ∈ headerReader.places 0 t := by
    rw [← Reader.map_fst_withLimits t.length (headerReader.places 0 t)]
    exact List.mem_map_of_mem hmem
  exact (Reader.le_start_of_mem_places headerReader 0 t _ hplace).2

/-- A body ends in front of the headers behind it. -/
lemma pairwise_headers (t : Text) : (headers t).Pairwise fun h g => bodyStop t h ≤ g.1.start := by
  have hsorted : (headerReader.places 0 t).Pairwise fun p q => p.start ≤ q.start :=
    (Reader.pairwise_places headerReader 0 t).imp_of_mem fun hp _ hle =>
      Nat.le_trans (Nat.le_of_lt (Reader.le_start_of_mem_places headerReader 0 t _ hp).2) hle
  exact (Reader.pairwise_withLimits hsorted).imp_of_mem fun hmem _ hle =>
    Nat.le_trans (bodyStop_le hmem).2.1 hle

/-- Of two headers, one stands behind the body of the other. -/
lemma eq_or_apart {t : Text} {h g : Reader.Place Text × Nat} (hh : h ∈ headers t)
    (hg : g ∈ headers t) : h = g ∨ bodyStop t h ≤ g.1.start ∨ bodyStop t g ≤ h.1.start := by
  obtain ⟨i, hi, rfl⟩ := List.getElem_of_mem hh
  obtain ⟨j, hj, rfl⟩ := List.getElem_of_mem hg
  have happart := List.pairwise_iff_getElem.mp (pairwise_headers t)
  rcases Nat.lt_trichotomy i j with hij | rfl | hij
  · exact Or.inr (Or.inl (happart i j hi hj hij))
  · exact Or.inl rfl
  · exact Or.inr (Or.inr (happart j i hj hi hij))

end Method

namespace Relationship

/-! ## Relationships by their places -/

/-- The relationships that a method declares, by the places of their calls. -/
def placesIn (t : Text) (h : Reader.Place Text × Nat) : List (Reader.Place Relationship) :=
  ((Call.reader RelationKind.all).places h.1.stop (Body.ofText (Method.ofPlace t h).span)).map
    fun p => ⟨p.start, p.stop, ⟨h.1.value, p.value.kind, p.value.target⟩⟩

/-- The relationships of a file, by the places of their calls. -/
def places (t : Text) : List (Reader.Place Relationship) := (Method.headers t).flatMap (placesIn t)

/-- The call at the place of a relationship. -/
def callAt (p : Reader.Place Relationship) : Reader.Place Call :=
  ⟨p.start, p.stop, ⟨p.value.kind, p.value.target⟩⟩

/-- The relationships by their places are the relationships. -/
lemma map_value_places (t : Text) : (places t).map Reader.Place.value = ofText t := by
  rw [places, ofText, ofTextWith, Method.ofText_eq_map_headers, List.flatMap_map, List.map_flatMap]
  refine List.flatMap_congr fun h _ => ?_
  rw [placesIn, ofMethodWith, Call.allWith, ← Reader.map_value_places _ h.1.stop, List.map_map,
    List.map_map]
  rfl

end Relationship

namespace Call

/-- The place is that of a call that is written in a text between two places. -/
def IsIn (t : Text) (start stop : Nat) (p : Reader.Place Call) : Prop :=
  IsAt 0 t p ∧ start ≤ p.start ∧ p.stop ≤ stop

/-- The calls in a part of a text are those of the text that lie in the part. -/
lemma isAt_part_iff (before part behind : Text) (p : Reader.Place Call) :
    IsAt before.length part p ↔
      IsIn (before ++ (part ++ behind)) before.length (before.length + part.length) p := by
  constructor
  · rintro ⟨w, front, rest, rfl, rfl⟩
    refine ⟨⟨w, before ++ front, rest ++ behind, by simp, by simp⟩, by simp, ?_⟩
    simp only [List.length_append]
    omega
  · rintro ⟨⟨w, front, rest, htext, rfl⟩, hstart, hstop⟩
    dsimp only at hstart hstop
    obtain ⟨front, rfl, hbehind⟩ := exists_append_of_length_le htext (by omega)
    rw [← List.append_assoc] at hbehind
    rw [List.length_append] at hstart hstop
    obtain ⟨rest, rfl, -⟩ := exists_append_of_length_le hbehind.symm
      (by rw [List.length_append]; omega)
    exact ⟨w, front, rest, by simp, by simp⟩

/-- A call takes up some of the text. -/
lemma IsAt.start_lt_stop {pos : Nat} {t : Text} {p : Reader.Place Call} (hp : IsAt pos t p) :
    p.start < p.stop := by
  obtain ⟨w, before, rest, rfl, rfl⟩ := hp
  have hpos := List.length_pos_iff.mpr w.target.ne_nil
  simp only [WrittenCall.text, List.length_append]
  omega

end Call

namespace Relationship

/-- The relationships of a method are the outermost calls in its body. -/
lemma mem_placesIn_iff {t : Text} {h : Reader.Place Text × Nat} (hmem : h ∈ Method.headers t)
    (p : Reader.Place Relationship) : p ∈ placesIn t h ↔ p.value.method = h.1.value ∧
      Call.IsIn t h.1.stop (Method.bodyStop t h) (callAt p) ∧
      ∀ q, Call.IsIn t h.1.stop (Method.bodyStop t h) q → q.start ≤ p.start → p.stop ≤ q.stop →
        q = callAt p := by
  obtain ⟨before, cs, behind, ht, hstop, hbody⟩ := Method.exists_body hmem
  have hbodyStop : Method.bodyStop t h = before.length + ('{' :: cs).length := by
    rw [Method.bodyStop, hbody, hstop]
  have hcalls : p ∈ placesIn t h ↔ p.value.method = h.1.value ∧
      callAt p ∈ (Call.reader RelationKind.all).places before.length ('{' :: cs) := by
    rw [placesIn, hbody, ← hstop]
    constructor
    · intro hp
      obtain ⟨c, hc, rfl⟩ := List.mem_map.mp hp
      exact ⟨rfl, hc⟩
    · rintro ⟨hmethod, hc⟩
      refine List.mem_map.mpr ⟨callAt p, hc, ?_⟩
      rw [← hmethod]
      rfl
  have hpart : ∀ q, Call.IsAt before.length ('{' :: cs) q ↔
      Call.IsIn t h.1.stop (Method.bodyStop t h) q := fun q => by
    rw [Call.isAt_part_iff before ('{' :: cs) behind, ← ht, ← hbodyStop, hstop]
  rw [hcalls, Call.mem_places_iff_outermost RelationKind.mem_all]
  simp only [hpart]
  rfl

/-- The calls of a method are reported one behind the other. -/
lemma pairwise_placesIn (t : Text) (h : Reader.Place Text × Nat) :
    (placesIn t h).Pairwise fun p q => p.stop ≤ q.start :=
  List.pairwise_map.mpr (Reader.pairwise_places _ _ _)

/-- The relationships of a file are found one behind the other. -/
lemma pairwise_places (t : Text) : (places t).Pairwise fun p q => p.stop ≤ q.start := by
  refine List.pairwise_flatMap.mpr ⟨fun h _ => pairwise_placesIn t h, ?_⟩
  refine (Method.pairwise_headers t).imp_of_mem fun {h g} hh hg hle p hp q hq => ?_
  have hbefore := ((mem_placesIn_iff hh p).mp hp).2.1.2.2
  have hbehind := ((mem_placesIn_iff hg q).mp hq).2.1.2.1
  have := Method.start_lt_stop_of_mem_headers hg
  dsimp only [callAt] at hbefore hbehind
  omega

/-- The relationships of a file are calls at different places, in the order of these places, and
each belongs to the last header in front of it.

All headers that are written in the file are found, and they do not overlap.  A body takes up some of
the text between the opening brace of its header and the next header or the end of the file, so that
the bodies are apart from each other. -/
theorem ofText_eq_calls_behind_headers (t : Text) :
    (∀ p, Method.IsHeaderAt t p ↔ p ∈ (Method.headers t).map Prod.fst) ∧
    (∀ p q, Method.IsHeaderAt t p → Method.IsHeaderAt t q → p.start < q.start →
      p.stop < q.start) ∧
    (∀ h ∈ Method.headers t, t[h.1.stop]? = some '{' ∧ h.1.stop < Method.bodyStop t h ∧
      Method.bodyStop t h ≤ h.2 ∧ h.2 ≤ t.length) ∧
    ((Method.headers t).Pairwise fun h g => Method.bodyStop t h ≤ g.1.start) ∧
    ofText t = (places t).map Reader.Place.value ∧
    ((places t).Pairwise fun p q => p.stop ≤ q.start) ∧
    ∀ p ∈ places t, Call.IsAt 0 t (callAt p) ∧ ∃ h ∈ Method.headers t,
      p.value.method = h.1.value ∧ h.1.stop ≤ p.start ∧ p.stop ≤ Method.bodyStop t h ∧
      ∀ g ∈ Method.headers t, g.1.start ≤ p.start → g.1.start ≤ h.1.start := by
  refine ⟨fun p => ?_, fun p q hp hq => hp.stop_lt_start hq, fun h hmem => ?_,
    Method.pairwise_headers t, (map_value_places t).symm, pairwise_places t, fun p hp => ?_⟩
  · rw [Method.headers, Reader.map_fst_withLimits, Method.mem_places_iff_isHeaderAt]
  · obtain ⟨before, cs, behind, ht, hstop, -⟩ := Method.exists_body hmem
    refine ⟨?_, Method.bodyStop_le hmem⟩
    rw [← hstop]
    nth_rewrite 1 [ht]
    simp
  · obtain ⟨h, hmem, hp⟩ := List.mem_flatMap.mp hp
    obtain ⟨hmethod, ⟨hcall, hstart, hstop⟩, -⟩ := (mem_placesIn_iff hmem p).mp hp
    refine ⟨hcall, h, hmem, hmethod, hstart, hstop, fun g hg hle => ?_⟩
    have hlt := hcall.start_lt_stop
    have hheader := Method.start_lt_stop_of_mem_headers hg
    have hbody := (Method.bodyStop_le hg).1
    dsimp only [callAt] at hstop hlt
    rcases Method.eq_or_apart hmem hg with rfl | hbehind | hbefore
    · exact Nat.le_refl _
    · omega
    · omega

/-- A call in a body is reported for the method of that body unless it lies in another call there,
and only once, since different places at which something is reported do not overlap. -/
theorem reported_iff_outermost (t : Text) :
    ofText t = (places t).map Reader.Place.value ∧
    ((places t).Pairwise fun p q => p.stop ≤ q.start) ∧
    ∀ h ∈ Method.headers t, ∀ p, Call.IsIn t h.1.stop (Method.bodyStop t h) p →
      (⟨p.start, p.stop, ⟨h.1.value, p.value.kind, p.value.target⟩⟩ ∈ places t ↔
        ∀ q, Call.IsIn t h.1.stop (Method.bodyStop t h) q →
          q.start ≤ p.start → p.stop ≤ q.stop → q = p) := by
  refine ⟨(map_value_places t).symm, pairwise_places t, fun h hmem p hp => ⟨fun hreported => ?_,
    fun houtermost => ?_⟩⟩
  · obtain ⟨g, hg, hplace⟩ := List.mem_flatMap.mp hreported
    obtain ⟨-, ⟨-, hstart, hstop⟩, houtermost⟩ := (mem_placesIn_iff hg _).mp hplace
    have hlt := hp.1.start_lt_stop
    -- The body is that of the header, because bodies do not overlap.
    obtain rfl : h = g := by
      have hh := Method.start_lt_stop_of_mem_headers hmem
      have hg' := Method.start_lt_stop_of_mem_headers hg
      obtain ⟨-, hhstart, hhstop⟩ := hp
      dsimp only [callAt] at hstart hstop
      rcases Method.eq_or_apart hmem hg with heq | hbehind | hbefore
      · exact heq
      · omega
      · omega
    exact houtermost
  · exact List.mem_flatMap.mpr ⟨h, hmem, (mem_placesIn_iff hmem _).mpr ⟨rfl, hp, houtermost⟩⟩

/-- Is each call of a class by its name, in the body of a method, reported for that method? -/
def ReportsEveryCall (t : Text) : Prop :=
  ∀ h ∈ Method.headers t, ∀ p, Call.IsIn t h.1.stop (Method.bodyStop t h) p →
    (∀ c ∈ p.value.target, Name.isNameChar c = true) →
      ⟨h.1.value, p.value.kind, p.value.target⟩ ∈ ofText t

/-- A method in which one call is written as the target of another. -/
def nestedCalls : Text :=
  "public function posts() \x7b return $this->hasOne($this->hasMany(Post::class)); \x7d".toList

/-- The inner one of the two calls. -/
def innerCall : WrittenCall :=
  ⟨.empty, .hasMany, .empty, .empty,
    ⟨"Post".toList, by decide, List.all_eq_true.mp (by decide +kernel)⟩⟩

/-- The inner one of two calls is not reported. -/
theorem not_reportsEveryCall_nestedCalls : ¬ ReportsEveryCall nestedCalls := by
  intro hreports
  have hheaders : (Method.headers nestedCalls).map
      (fun h => (h.1.value, h.1.stop, Method.bodyStop nestedCalls h)) =
        [("posts".toList, 24, 78)] := by
    decide +kernel
  have hrelationships : ofText nestedCalls =
      [⟨"posts".toList, .hasOne, "$this->hasMany(Post".toList⟩] := by
    decide +kernel
  obtain ⟨h, hmem, heq⟩ := List.mem_map.mp (hheaders ▸ List.mem_singleton_self _)
  simp only [Prod.mk.injEq] at heq
  obtain ⟨hname, hstart, hstop⟩ := heq
  have hinner : Call.IsAt 0 nestedCalls ⟨52, 73, innerCall.call⟩ :=
    ⟨innerCall, "public function posts() \x7b return $this->hasOne($this".toList, ")); \x7d".toList,
      by decide +kernel, by rw [Reader.Place.mk.injEq]; decide +kernel⟩
  have hinside : Call.IsIn nestedCalls h.1.stop (Method.bodyStop nestedCalls h)
      ⟨52, 73, innerCall.call⟩ :=
    ⟨hinner, by rw [hstart]; decide, by rw [hstop]; decide⟩
  have hreported := hreports h hmem _ hinside (List.all_eq_true.mp (by decide +kernel))
  rw [hrelationships, hname] at hreported
  exact absurd hreported (by decide +kernel)

end Relationship

end RelationAtlas
