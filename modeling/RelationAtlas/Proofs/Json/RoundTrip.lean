import RelationAtlas.Graph.Payload
import RelationAtlas.Proofs.Json.Strings

/-!
# Reading what has been written

A value of strings, arrays and objects that has been written is read with the pairs in its strings
joined (`ofText_text`).  A payload has texts for strings, in which there are no pairs, and is read back
as it was (`Payload.ofText_text_iff`), whatever characters its names and paths hold.

That a value is read back from its text at every level (`ReadsBack`) passes from the members of an array
or an object to the whole.  The reader is given two steps of its recursion for each character, and a
member is never read with less.
-/

namespace RelationAtlas.Json

open Text

/-! ## Gaps -/

lemma dropGap_cons {c : Char} (h : isGap c = false) (t : Text) : dropGap (c :: t) = c :: t := by
  simp [dropGap, h]

/-- The end of a line and the indentation of the next one are a gap. -/
lemma dropGap_line (depth : Nat) (t : Text) :
    dropGap ('\n' :: indent depth ++ t) = dropGap t := by
  have hindent : ∀ c ∈ '\n' :: indent depth, isGap c = true := by
    intro c hc
    rcases List.mem_cons.mp hc with rfl | hspace
    · rfl
    · rw [List.eq_of_mem_replicate hspace]
      rfl
  exact List.dropWhile_append_of_pos hindent

/-! ## Members -/

/-- What follows the first of the members between brackets, up to what follows the brackets. -/
def following (depth : Nat) (closing : Char) (rest : Text) : List Text → Text
  | [] => '\n' :: indent depth ++ closing :: rest
  | m :: ms => ',' :: ('\n' :: indent (depth + 1) ++ (m ++ following depth closing rest ms))

lemma join_following (depth : Nat) (closing : Char) (rest m : Text) (ms : List Text) :
    Text.join [',', '\n'] ((m :: ms).map (indent (depth + 1) ++ ·)) ++
      ('\n' :: indent depth ++ closing :: rest) =
        indent (depth + 1) ++ (m ++ following depth closing rest ms) := by
  induction ms generalizing m with
  | nil => simp [Text.join, following]
  | cons next ms ih =>
    rw [List.map_cons, List.map_cons, Text.join, ← List.map_cons, List.append_assoc, ih, following]
    simp

lemma bracketed_append (depth : Nat) (opening closing : Char) (m : Text) (ms : List Text)
    (rest : Text) : bracketed depth opening closing (m :: ms) ++ rest =
      opening :: ('\n' :: indent (depth + 1) ++ (m ++ following depth closing rest ms)) := by
  rw [List.cons_append, ← join_following]
  simp [bracketed]

/-- The first member is long enough for two steps of the reader, and so is what follows it. -/
lemma length_bracketed (depth : Nat) (opening closing : Char) (m : Text) (ms : List Text) :
    m.length + (following depth closing [] ms).length + 2 ≤
      (bracketed depth opening closing (m :: ms)).length := by
  have htext := congrArg List.length (bracketed_append depth opening closing m ms [])
  simp only [List.append_nil, List.length_append, List.length_cons] at htext
  omega

/-! ## Steps of the reader -/

lemma value_quote (n room : Nat) (t : Text) :
    value (n + 1) room ('"' :: t) = found (plain? ('"' :: t)) := by
  rw [value]
  all_goals
    intros
    simp_all

lemma value_array {n room : Nat} {t : Text} {c : Char} {rest : Text} (h : dropGap t = c :: rest)
    (hc : c ≠ ']') : value (n + 1) (room + 1) ('[' :: t) =
      (items n room (c :: rest)).map fun (vs, rest) => (array vs, rest) := by
  rw [value, h]
  split
  · next hbracket => exact absurd (List.cons.inj hbracket).1 hc
  · cases items n room (c :: rest) <;> rfl

lemma value_object {n room : Nat} {t : Text} {c : Char} {rest : Text} (h : dropGap t = c :: rest)
    (hc : c ≠ '\x7d') : value (n + 1) (room + 1) ('\x7b' :: t) =
      (fields n room (c :: rest)).map fun (fs, rest) => (object fs, rest) := by
  rw [value, h]
  split
  · next hbracket => exact absurd (List.cons.inj hbracket).1 hc
  · cases fields n room (c :: rest) <;> rfl

section Members

variable {n room : Nat} {t u name rest : Text} {v : Json}

lemma items_last (hv : value n room t = .ok (v, u)) (hu : dropGap u = ']' :: rest) :
    items (n + 1) room t = .ok ([v], rest) := by
  simp [items, hv, hu, bind, Except.bind, pure, Except.pure]

lemma items_next (hv : value n room t = .ok (v, u)) (hu : dropGap u = ',' :: rest) :
    items (n + 1) room t =
      (items n room (dropGap rest)).map fun (vs, rest) => (v :: vs, rest) := by
  simp only [items, hv, hu, bind, Except.bind]
  cases items n room (dropGap rest) <;> rfl

lemma fields_last (hname : fieldName? t = some (name, u)) {w : Text}
    (hv : value n room u = .ok (v, w)) (hw : dropGap w = '\x7d' :: rest) :
    fields (n + 1) room t = .ok ([(name, v)], rest) := by
  simp [fields, hname, found, hv, hw, bind, Except.bind, pure, Except.pure]

lemma fields_next (hname : fieldName? t = some (name, u)) {w : Text}
    (hv : value n room u = .ok (v, w)) (hw : dropGap w = ',' :: rest) :
    fields (n + 1) room t =
      (fields n room (dropGap rest)).map fun (fs, rest) => ((name, v) :: fs, rest) := by
  simp only [fields, hname, found, hv, hw, bind, Except.bind]
  cases fields n room (dropGap rest) <;> rfl

end Members

/-! ## Values -/

mutual

/-- The value with the pairs in its strings joined. -/
def pairsJoined : Json → Json
  | null => null
  | bool b => bool b
  | number literal => number literal
  | string codes => string (joinPairs codes)
  | array vs => array (itemsJoined vs)
  | object fs => object (fieldsJoined fs)

/-- The items of an array with the pairs in their strings joined. -/
def itemsJoined : List Json → List Json
  | [] => []
  | v :: vs => v.pairsJoined :: itemsJoined vs

/-- The fields of an object with the pairs in their strings joined. -/
def fieldsJoined : List (Text × Json) → List (Text × Json)
  | [] => []
  | (name, v) :: fs => (name, v.pairsJoined) :: fieldsJoined fs

end

/-- The value is read back from its text at any level, with the pairs in its strings joined, when so many
more arrays and objects may be opened.  The text is told from a gap and from a closing bracket by its
first character. -/
structure ReadsBack (room : Nat) (v : Json) : Prop where
  front : ∀ depth, ∃ c t, v.textAt depth = c :: t ∧ isGap c = false ∧ c ≠ ']'
  read : ∀ depth n rest, 2 * (v.textAt depth).length ≤ n →
    value n room (v.textAt depth ++ rest) = .ok (v.pairsJoined, rest)

namespace ReadsBack

variable {room : Nat} {v : Json}

/-- No gap is dropped in front of a value. -/
lemma dropGap_append (hv : ReadsBack room v) (depth : Nat) (rest : Text) :
    dropGap (v.textAt depth ++ rest) = v.textAt depth ++ rest := by
  obtain ⟨c, t, htext, hgap, -⟩ := hv.front depth
  rw [htext, List.cons_append, dropGap_cons hgap]

lemma string (room : Nat) {codes : List Nat} (hcodes : ∀ n ∈ codes, n < 0x110000) :
    ReadsBack room (.string codes) where
  front depth := ⟨'"', codes.flatMap escape ++ ['"'], rfl, rfl, by decide⟩
  read depth n rest hn := by
    have htext : (Json.string codes).textAt depth ++ rest =
        '"' :: (codes.flatMap escape ++ '"' :: rest) := by
      simp [textAt, stringText]
    obtain ⟨n, rfl⟩ : ∃ m, n = m + 1 := by
      refine Nat.exists_eq_succ_of_ne_zero ?_
      rintro rfl
      simp [textAt, stringText] at hn
    rw [htext, value_quote, plain?, string?_escapes hcodes]
    rfl

/-- The items of an array are read one after another. -/
lemma items_eq {vs : List Json} (hv : ReadsBack room v) (hvs : ∀ w ∈ vs, ReadsBack room w)
    (depth : Nat) (rest : Text) {n : Nat} (hn : 2 * ((v.textAt (depth + 1)).length +
      (following depth ']' [] (itemTexts (depth + 1) vs)).length) + 1 ≤ n) :
    items n room (v.textAt (depth + 1) ++ following depth ']' rest (itemTexts (depth + 1) vs)) =
      .ok (itemsJoined (v :: vs), rest) := by
  induction vs generalizing v n with
  | nil =>
    obtain ⟨n, rfl⟩ : ∃ m, n = m + 1 := Nat.exists_eq_succ_of_ne_zero (by omega)
    refine items_last (hv.read _ _ _ (by omega)) ?_
    rw [itemTexts, following, dropGap_line]
    rfl
  | cons w vs ih =>
    obtain ⟨n, rfl⟩ : ∃ m, n = m + 1 := Nat.exists_eq_succ_of_ne_zero (by omega)
    have hw : ReadsBack room w := hvs w (by simp)
    have hcomma : dropGap (following depth ']' rest (itemTexts (depth + 1) (w :: vs))) =
        ',' :: ('\n' :: indent (depth + 1) ++ (w.textAt (depth + 1) ++
          following depth ']' rest (itemTexts (depth + 1) vs))) := rfl
    have hvs' : ∀ x ∈ vs, ReadsBack room x := fun x hx => hvs x (by simp [hx])
    simp only [itemTexts, following, List.length_append, List.length_cons] at hn
    have hrest := ih hw hvs' (n := n) (by omega)
    rw [items_next (hv.read _ _ _ (by omega)) hcomma, dropGap_line, hw.dropGap_append, hrest]
    rfl

/-- An array is read back when its items are. -/
lemma array {vs : List Json} (hvs : ∀ v ∈ vs, ReadsBack room v) :
    ReadsBack (room + 1) (.array vs) where
  front depth := by
    cases vs with
    | nil => exact ⟨'[', [']'], rfl, rfl, by decide⟩
    | cons v vs => exact ⟨'[', _, rfl, rfl, by decide⟩
  read depth n rest hn := by
    cases vs with
    | nil =>
      obtain ⟨n, rfl⟩ : ∃ m, n = m + 1 := by
        refine Nat.exists_eq_succ_of_ne_zero ?_
        rintro rfl
        cases hn
      rfl
    | cons v vs =>
      have hv : ReadsBack room v := hvs v (by simp)
      have hlength := length_bracketed depth '[' ']' (v.textAt (depth + 1))
        (itemTexts (depth + 1) vs)
      rw [textAt, itemTexts] at hn ⊢
      obtain ⟨n, rfl⟩ : ∃ m, n = m + 1 := Nat.exists_eq_succ_of_ne_zero (by omega)
      have hvs' : ∀ w ∈ vs, ReadsBack room w := fun w hw => hvs w (by simp [hw])
      have hitems := items_eq hv hvs' depth rest (n := n) (by omega)
      obtain ⟨c, t, htext, -, hbracket⟩ := hv.front (depth + 1)
      have hgap : dropGap ('\n' :: indent (depth + 1) ++ (v.textAt (depth + 1) ++
          following depth ']' rest (itemTexts (depth + 1) vs))) =
            c :: (t ++ following depth ']' rest (itemTexts (depth + 1) vs)) := by
        rw [dropGap_line, hv.dropGap_append, htext, List.cons_append]
      rw [htext, List.cons_append] at hitems
      rw [bracketed_append, value_array hgap hbracket, hitems]
      rfl

/-! ### Objects -/

/-- The text of a field. -/
def fieldText (depth : Nat) (name : Text) (v : Json) : Text :=
  stringText (codesOf name) ++ [':', ' '] ++ v.textAt depth

lemma length_le_fieldText (depth : Nat) (name : Text) (v : Json) :
    (v.textAt depth).length ≤ (fieldText depth name v).length := by
  rw [fieldText, List.length_append]
  exact Nat.le_add_left _ _

/-- The name of a field is read, and the gap behind its colon. -/
lemma fieldName?_fieldText (hv : ReadsBack room v) (depth : Nat) (name rest : Text) :
    fieldName? (fieldText depth name v ++ rest) = some (name, v.textAt depth ++ rest) := by
  have htext : fieldText depth name v ++ rest =
      '"' :: ((codesOf name).flatMap escape ++ '"' :: ':' :: ' ' :: (v.textAt depth ++ rest)) := by
    simp [fieldText, stringText]
  have hcolon : dropGap (':' :: ' ' :: (v.textAt depth ++ rest)) =
      ':' :: ' ' :: (v.textAt depth ++ rest) := rfl
  have hgap : dropGap (' ' :: (v.textAt depth ++ rest)) = v.textAt depth ++ rest :=
    hv.dropGap_append depth rest
  have hquote : after? ['"'] (fieldText depth name v ++ rest) =
      some ((codesOf name).flatMap escape ++ '"' :: ':' :: ' ' :: (v.textAt depth ++ rest)) := by
    rw [htext]
    rfl
  have hname : string? ((codesOf name).flatMap escape ++
      '"' :: ':' :: ' ' :: (v.textAt depth ++ rest)) =
        some (codesOf name, ':' :: ' ' :: (v.textAt depth ++ rest)) := by
    rw [string?_escapes lt_of_mem_codesOf, joinPairs_codesOf]
  simp only [fieldName?, hquote, hname, hcolon, bind, Option.bind]
  simp only [after?, pure, if_true, hgap, textOf_codesOf]

/-- The fields of an object are read one after another. -/
lemma fields_eq (hv : ReadsBack room v) (name : Text) {fs : List (Text × Json)}
    (hfs : ∀ f ∈ fs, ReadsBack room f.2) (depth : Nat) (rest : Text) {n : Nat}
    (hn : 2 * ((fieldText (depth + 1) name v).length +
      (following depth '\x7d' [] (fieldTexts (depth + 1) fs)).length) + 1 ≤ n) :
    fields n room (fieldText (depth + 1) name v ++
      following depth '\x7d' rest (fieldTexts (depth + 1) fs)) =
        .ok (fieldsJoined ((name, v) :: fs), rest) := by
  have hvalue := length_le_fieldText (depth + 1) name v
  induction fs generalizing v name n with
  | nil =>
    obtain ⟨n, rfl⟩ : ∃ m, n = m + 1 := Nat.exists_eq_succ_of_ne_zero (by omega)
    refine fields_last (fieldName?_fieldText hv _ _ _) (hv.read _ _ _ (by omega)) ?_
    rw [fieldTexts, following, dropGap_line]
    rfl
  | cons f fs ih =>
    obtain ⟨next, w⟩ := f
    obtain ⟨n, rfl⟩ : ∃ m, n = m + 1 := Nat.exists_eq_succ_of_ne_zero (by omega)
    have hw : ReadsBack room w := hfs (next, w) (by simp)
    have hfs' : ∀ g ∈ fs, ReadsBack room g.2 := fun g hg => hfs g (by simp [hg])
    have hcomma : dropGap (following depth '\x7d' rest (fieldTexts (depth + 1) ((next, w) :: fs))) =
        ',' :: ('\n' :: indent (depth + 1) ++ (fieldText (depth + 1) next w ++
          following depth '\x7d' rest (fieldTexts (depth + 1) fs))) := rfl
    have hgap : dropGap (fieldText (depth + 1) next w ++
        following depth '\x7d' rest (fieldTexts (depth + 1) fs)) =
          fieldText (depth + 1) next w ++ following depth '\x7d' rest (fieldTexts (depth + 1) fs) :=
      rfl
    rw [fieldTexts, ← fieldText] at hn
    simp only [following, List.length_append, List.length_cons] at hn
    have hrest := ih hw next hfs' (n := n) (by omega) (length_le_fieldText (depth + 1) next w)
    rw [fields_next (fieldName?_fieldText hv _ _ _) (hv.read _ _ _ (by omega)) hcomma, dropGap_line,
      hgap, hrest]
    rfl

/-- An object is read back when the values of its fields are. -/
lemma object {fs : List (Text × Json)} (hfs : ∀ f ∈ fs, ReadsBack room f.2) :
    ReadsBack (room + 1) (.object fs) where
  front depth := by
    cases fs with
    | nil => exact ⟨'\x7b', ['\x7d'], rfl, rfl, by decide⟩
    | cons f fs => exact ⟨'\x7b', _, rfl, rfl, by decide⟩
  read depth n rest hn := by
    cases fs with
    | nil =>
      obtain ⟨n, rfl⟩ : ∃ m, n = m + 1 := by
        refine Nat.exists_eq_succ_of_ne_zero ?_
        rintro rfl
        cases hn
      rfl
    | cons f fs =>
      obtain ⟨name, v⟩ := f
      have hv : ReadsBack room v := hfs (name, v) (by simp)
      have hfs' : ∀ g ∈ fs, ReadsBack room g.2 := fun g hg => hfs g (by simp [hg])
      have hlength := length_bracketed depth '\x7b' '\x7d' (fieldText (depth + 1) name v)
        (fieldTexts (depth + 1) fs)
      rw [textAt, fieldTexts, ← fieldText] at hn ⊢
      obtain ⟨n, rfl⟩ : ∃ m, n = m + 1 := Nat.exists_eq_succ_of_ne_zero (by omega)
      have hfields := fields_eq hv name hfs' depth rest (n := n) (by omega)
      have hgap : dropGap ('\n' :: indent (depth + 1) ++ (fieldText (depth + 1) name v ++
          following depth '\x7d' rest (fieldTexts (depth + 1) fs))) =
            fieldText (depth + 1) name v ++
              following depth '\x7d' rest (fieldTexts (depth + 1) fs) := by
        rw [dropGap_line]
        rfl
      rw [bracketed_append, value_object hgap (by decide)]
      exact congrArg (Except.map _) hfields

end ReadsBack

/-- The value is made up of strings, arrays and objects, and opens at most so many arrays and objects
inside each other. -/
inductive IsPlain : Nat → Json → Prop
  | string {room : Nat} {codes : List Nat} (hcodes : ∀ n ∈ codes, n < 0x110000) :
      IsPlain room (.string codes)
  | array {room : Nat} {vs : List Json} (hvs : ∀ v ∈ vs, IsPlain room v) :
      IsPlain (room + 1) (.array vs)
  | object {room : Nat} {fs : List (Text × Json)} (hfs : ∀ f ∈ fs, IsPlain room f.2) :
      IsPlain (room + 1) (.object fs)

lemma IsPlain.readsBack {room : Nat} {v : Json} (h : IsPlain room v) : ReadsBack room v := by
  induction h with
  | string hcodes => exact ReadsBack.string _ hcodes
  | array _ ih => exact ReadsBack.array ih
  | object _ ih => exact ReadsBack.object ih

lemma isPlain_codesOf (room : Nat) (t : Text) : IsPlain room (.string (codesOf t)) :=
  .string lt_of_mem_codesOf

/-- A value that is written with a line feed behind it is read with the pairs in its strings joined. -/
theorem ofText_text {v : Json} (hv : IsPlain nestingLimit v) :
    ofText (v.text ++ ['\n']) = .ok v.pairsJoined := by
  have hfuel : 2 * v.text.length ≤ 2 * (v.text ++ ['\n']).length + 2 := by
    rw [List.length_append]
    omega
  have hread := hv.readsBack.read 0 _ ['\n'] hfuel
  have hgap := hv.readsBack.dropGap_append 0 ['\n']
  rw [← text] at hread hgap
  rw [ofText, hgap, hread]
  rfl

lemma itemsJoined_eq_self {vs : List Json} (h : ∀ v ∈ vs, v.pairsJoined = v) :
    itemsJoined vs = vs := by
  induction vs with
  | nil => rfl
  | cons v vs ih =>
    obtain ⟨hv, hvs⟩ := List.forall_mem_cons.mp h
    rw [itemsJoined, hv, ih hvs]

end Json

/-! ## Payloads -/

lemma NodeView.isPlain (n : NodeView) (room : Nat) : Json.IsPlain (room + 1) n.json := by
  refine .object ?_
  simp [Json.isPlain_codesOf]

lemma EdgeView.isPlain (e : EdgeView) (room : Nat) : Json.IsPlain (room + 1) e.json := by
  refine .object ?_
  simp [Json.isPlain_codesOf]

lemma Payload.isPlain (p : Payload) (room : Nat) : Json.IsPlain (room + 3) p.json := by
  have hnodes : Json.IsPlain (room + 2) (.array (p.nodes.map NodeView.json)) := by
    refine .array ?_
    simp [NodeView.isPlain]
  have hedges : Json.IsPlain (room + 2) (.array (p.edges.map EdgeView.json)) := by
    refine .array ?_
    simp [EdgeView.isPlain]
  refine .object ?_
  simp [hnodes, hedges]

lemma NodeView.pairsJoined_json (n : NodeView) : n.json.pairsJoined = n.json := by
  simp [NodeView.json, Json.pairsJoined, Json.fieldsJoined, Json.joinPairs_codesOf]

lemma EdgeView.pairsJoined_json (e : EdgeView) : e.json.pairsJoined = e.json := by
  simp [EdgeView.json, Json.pairsJoined, Json.fieldsJoined, Json.joinPairs_codesOf]

/-- The strings of a payload are texts, so there are no pairs in them. -/
lemma Payload.pairsJoined_json (p : Payload) : p.json.pairsJoined = p.json := by
  have hnodes : Json.itemsJoined (p.nodes.map NodeView.json) = p.nodes.map NodeView.json :=
    Json.itemsJoined_eq_self (by simp [NodeView.pairsJoined_json])
  have hedges : Json.itemsJoined (p.edges.map EdgeView.json) = p.edges.map EdgeView.json :=
    Json.itemsJoined_eq_self (by simp [EdgeView.pairsJoined_json])
  simp only [Payload.json, Json.pairsJoined, Json.fieldsJoined, hnodes, hedges]

lemma NodeView.json_injective : Function.Injective NodeView.json := by
  rintro ⟨id, label, path, title⟩ ⟨id', label', path', title'⟩ h
  simpa [NodeView.json, Json.codesOf_injective.eq_iff] using h

lemma EdgeView.json_injective : Function.Injective EdgeView.json := by
  rintro ⟨source, target, label, title⟩ ⟨source', target', label', title'⟩ h
  simpa [EdgeView.json, Json.codesOf_injective.eq_iff] using h

/-- Payloads that are written as the same value are the same. -/
lemma Payload.json_injective : Function.Injective Payload.json := by
  rintro ⟨nodes, edges⟩ ⟨nodes', edges'⟩ h
  have hlists : nodes.map NodeView.json = nodes'.map NodeView.json ∧
      edges.map EdgeView.json = edges'.map EdgeView.json := by
    simpa [Payload.json] using h
  have hnodes : nodes = nodes' := List.map_injective_iff.mpr NodeView.json_injective hlists.1
  have hedges : edges = edges' := List.map_injective_iff.mpr EdgeView.json_injective hlists.2
  rw [hnodes, hedges]

/-- From the text of a payload, this payload is read and no other. -/
lemma Payload.ofText_text_iff (p q : Payload) :
    Json.ofText (p.json.text ++ ['\n']) = .ok q.json ↔ q = p := by
  rw [Json.ofText_text (p.isPlain 977), p.pairsJoined_json, Except.ok.injEq,
    Payload.json_injective.eq_iff, eq_comm]

end RelationAtlas
