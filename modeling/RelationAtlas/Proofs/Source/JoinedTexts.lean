import RelationAtlas.Proofs.Source.Attribution
import RelationAtlas.Proofs.Source.MethodLayout
import RelationAtlas.Proofs.Text.Sealed

/-!
# The relationships of joined texts

No header holds a semicolon or a closing brace, so a text that ends with one of them is sealed for the
reader of headers (`Method.sealed_header`).  In front of another text it has the methods that it has by
itself, the last of which goes on up to the first header behind (`Method.ofText_append_of_concat`).

A body ends with the brace that balances it.  If this brace is found in a text, it is found there
whatever follows (`Body.ofText_append_of_isFinished`), because every token in front of it is complete
(`Body.isPrefix_tokens_append`).
So a text that ends with a closing brace, with the body of its last method finished, has its
relationships by itself, and what follows it has its own
(`Relationship.ofText_append_of_finished`).
-/

namespace RelationAtlas

open Text

/-! ## Headers -/

/-- A header holds no character but blanks, those of types, and its signs. -/
lemma Heading.notMem_text {d : Char} (hblank : isBlank d = false)
    (htype : Method.isTypeChar d = false) (hsign : d ∉ ['(', ')', ':', '?']) (h : Heading) :
    d ∉ h.text := by
  have hblanks (s : Blanks) : d ∉ s.text := fun hd => by simp [s.isBlank d hd] at hblank
  have htypes {t : Text} (ht : ∀ c ∈ t, Method.isTypeChar c = true) : d ∉ t := fun hd => by
    simp [ht d hd] at htype
  have hpublic : d ∉ "public".toList := htypes (List.all_eq_true.mp (by decide +kernel))
  have hfunction : d ∉ "function".toList := htypes (List.all_eq_true.mp (by decide +kernel))
  have hname : d ∉ h.name.text := htypes fun c hc => by
    simp [Method.isTypeChar, Name.isNameChar_of_isWord (h.name.isWord c hc)]
  simp only [List.mem_cons, List.not_mem_nil, or_false, not_or] at hsign
  obtain ⟨hopening, hclosing, hcolon, hmark⟩ := hsign
  have hreturns : d ∉ h.returnText := by
    cases hr : h.returns with
    | none => simp [returnText, hr]
    | some r =>
      have hoptional : d ∉ if r.isOptional then ['?'] else [] := by
        split <;> simp [hmark]
      simp [returnText, hr, ReturnType.text, hblanks, htypes r.isTypeChar, hoptional, hcolon]
  unfold Heading.text
  simp only [List.mem_append, List.mem_cons, not_or]
  exact ⟨hpublic, hblanks _, hfunction, hblanks _, hname, hblanks _, hopening, hblanks _, hclosing,
    hblanks _, hreturns⟩

namespace Method

/-- In front of a character that no header holds, a header is read as it is without. -/
lemma header?_append_cons {d : Char} (hheading : ∀ h : Heading, d ∉ h.text) (hbrace : d ≠ '{')
    (u v : Text) :
    header? (u ++ d :: v) = (header? u).map fun found => (found.1, found.2 ++ d :: v) := by
  let Writes : Text → Text → Text → Prop := fun name part rest =>
    ∃ h : Heading, h.name.text = name ∧ h.text = part ∧ rest.head? = some '{'
  refine read?_append_cons Writes ?_ ?_ ?_ u v
  · intro t name rest
    rw [header?_eq_some_iff]
    constructor
    · rintro ⟨h, hname, rfl, hopen⟩
      exact ⟨h.text, ⟨h, hname, rfl, hopen⟩, rfl⟩
    · rintro ⟨_, ⟨h, hname, rfl, hopen⟩, rfl⟩
      exact ⟨h, hname, rfl, hopen⟩
  · rintro name _ rest ⟨h, -, rfl, -⟩
    exact hheading h
  · intro name part b v
    have hhead : (b ++ d :: v).head? = some '{' ↔ b.head? = some '{' := by
      cases b <;> simp [hbrace]
    simp only [Writes, hhead]

/-- A text with a character that no header holds, and with a sealed text behind it, is sealed for the
reader of headers. -/
lemma sealed_header {d : Char} (hd : d ∈ [';', '}']) {t : Text} (ht : Sealed header? t) (s : Text) :
    Sealed header? (s ++ d :: t) := by
  have hkind : isBlank d = false ∧ isTypeChar d = false ∧ d ∉ ['(', ')', ':', '?'] ∧ d ≠ '{' := by
    rcases List.mem_pair.mp hd with rfl | rfl <;> decide +kernel
  obtain ⟨hblank, htype, hsign, hbrace⟩ := hkind
  have hread := header?_append_cons (fun h => h.notMem_text hblank htype hsign) hbrace
  refine sealed_append_cons ht (fun u v => ?_) s
  rw [hread, hread, Option.map_map]
  simp [Function.comp_def]

/-! ## Methods -/

lemma ofText_cons_of_none {c : Char} {cs : Text} (h : header? (c :: cs) = none) :
    ofText (c :: cs) = ofText cs :=
  Reader.all_cons_of_none (by simp [reader, h])

lemma ofText_of_header? {t name rest : Text} (h : header? t = some (name, rest)) :
    ofText t = ⟨name, untilHeader rest⟩ :: ofText rest :=
  Reader.all_of_read? (by simp [reader, h])

/-- The headers that are found are the names of the methods. -/
lemma all_headerReader (t : Text) : headerReader.all t = (ofText t).map Method.name := by
  rw [ofText_eq_map_headers, List.map_map, ← Reader.map_value_places headerReader 0 t,
    ← Reader.map_fst_withLimits t.length (headerReader.places 0 t), List.map_map]
  rfl

/-- A sealed text without methods is passed over. -/
lemma passed_of_ofText_eq_nil {t : Text} (ht : Sealed header? t) (hnone : ofText t = []) (v : Text) :
    Passed header? t v :=
  Reader.passed_of_sealed (r := headerReader) ht (by rw [all_headerReader, hnone]; rfl) v

/-- The text up to the first header is the same whatever follows a sealed text with a method. -/
lemma untilHeader_append_of_ne_nil {t : Text} (ht : Sealed header? t) (hsome : ofText t ≠ [])
    (v : Text) : untilHeader (t ++ v) = untilHeader t := by
  induction t with
  | nil => exact absurd (Reader.all_nil reader) hsome
  | cons c cs ih =>
    have hfront := ht _ List.suffix_rfl (by simp) v
    rw [List.cons_append] at hfront
    rw [List.cons_append, untilHeader, untilHeader, hfront]
    cases hread : header? (c :: cs) with
    | some found => simp
    | none =>
      rw [ofText_cons_of_none hread] at hsome
      simp [ih (ht.of_suffix (List.suffix_cons c cs)) hsome]

/-- The method with more text behind its span. -/
def extend (m : Method) (t : Text) : Method := { m with span := m.span ++ t }

/-- A sealed text has its methods whatever follows it, except that the last one goes on up to the first
header behind the text; this last one is an end of the text. -/
theorem ofText_append_of_concat {t : Text} (ht : Sealed header? t) {ms : List Method} {m : Method}
    (hms : ofText t = ms ++ [m]) : m.span <:+ t ∧
      ∀ v, ofText (t ++ v) = ms ++ m.extend (untilHeader v) :: ofText v := by
  induction hn : t.length using Nat.strongRecOn generalizing t ms with
  | _ n ih =>
    subst hn
    cases t with
    | nil => simp [ofText] at hms
    | cons c cs =>
      have hfront := ht _ List.suffix_rfl (by simp)
      cases hread : header? (c :: cs) with
      | none =>
        have hall : ∀ v, ofText (c :: cs ++ v) = ofText (cs ++ v) := fun v =>
          ofText_cons_of_none ((hfront v).trans (by rw [hread]; rfl))
        have hnil := hall []
        rw [List.append_nil, List.append_nil] at hnil
        obtain ⟨hspan, hjoined⟩ :=
          ih _ (by simp) (ht.of_suffix (List.suffix_cons c cs)) (hnil ▸ hms) rfl
        exact ⟨hspan.trans (List.suffix_cons c cs), fun v => (hall v).trans (hjoined v)⟩
      | some found =>
        obtain ⟨name, rest⟩ := found
        have hall : ∀ v, ofText (c :: cs ++ v) =
            ⟨name, untilHeader (rest ++ v)⟩ :: ofText (rest ++ v) := fun v =>
          ofText_of_header? ((hfront v).trans (by rw [hread]; rfl))
        have hnil := hall []
        rw [List.append_nil, List.append_nil, hms] at hnil
        have hsuffix : rest <:+ c :: cs := (suffix_of_header? hread).1
        have hrest := ht.of_suffix hsuffix
        -- The method at the front is the last one, or the last one stands behind it.
        cases ms with
        | nil =>
          obtain ⟨rfl, hlast⟩ := List.cons.inj hnil
          have hpassed := passed_of_ofText_eq_nil hrest hlast.symm
          have huntil := fun v => untilHeader_of_passed (hpassed v)
          have hwhole := huntil []
          rw [List.append_nil, untilHeader, List.append_nil] at hwhole
          refine ⟨by rwa [hwhole], fun v => ?_⟩
          rw [hall v, huntil v, ofText, Reader.all_of_passed (passed_reader (hpassed v)), extend,
            hwhole]
          rfl
        | cons first ms =>
          obtain ⟨rfl, hlast⟩ := List.cons.inj hnil
          obtain ⟨hspan, hjoined⟩ := ih _ (header?_length hread) hrest hlast.symm rfl
          have hsome : ofText rest ≠ [] := by simp [← hlast]
          refine ⟨hspan.trans hsuffix, fun v => ?_⟩
          rw [hall v, hjoined v, untilHeader_append_of_ne_nil hrest hsome]
          rfl

end Method

/-! ## Bodies -/

namespace Body

/-- A text that is shorter than a word is not cut behind it. -/
lemma cutAfter_of_length_lt {word t : Text} (h : t.length < word.length) :
    cutAfter word t = (t, []) := by
  induction t with
  | nil => rfl
  | cons c cs ih =>
    rw [List.length_cons] at h
    rw [cutAfter, ih (by omega)]
    cases hafter : after? word (c :: cs) with
    | none => rfl
    | some rest =>
      have hlength := after?_length hafter
      rw [List.length_cons] at hlength
      omega

/-- A text with something behind a word is cut there whatever follows the text. -/
lemma cutAfter_append_of_ne_nil {word t : Text} (h : (cutAfter word t).2 ≠ []) (v : Text) :
    cutAfter word (t ++ v) = ((cutAfter word t).1, (cutAfter word t).2 ++ v) := by
  induction t with
  | nil => simp [cutAfter] at h
  | cons c cs ih =>
    rw [cutAfter] at h ⊢
    rw [List.cons_append, cutAfter]
    cases hafter : after? word (c :: cs) with
    | some rest =>
      have hjoined : after? word (c :: (cs ++ v)) = some (rest ++ v) := by
        rw [after?_eq_some_iff, ← List.cons_append, after?_eq_some_iff.mp hafter,
          List.append_assoc]
      rw [hjoined]
    | none =>
      rw [hafter] at h
      -- A word that begins here and ends in what follows leaves no room for another one behind.
      have hjoined : after? word (c :: (cs ++ v)) = none := by
        cases hread : after? word (c :: (cs ++ v)) with
        | none => rfl
        | some rest =>
          have hcut : (c :: cs) ++ v = word ++ rest := after?_eq_some_iff.mp hread
          rcases List.append_eq_append_iff.mp hcut with ⟨a, rfl, -⟩ | ⟨a, ha, -⟩
          · have hlength : cs.length < (c :: cs ++ a).length := by
              rw [List.length_append, List.length_cons]
              omega
            rw [cutAfter_of_length_lt hlength] at h
            exact absurd rfl h
          · rw [ha, after?_append] at hafter
            cases hafter
      rw [hjoined, ih h]

/-- A character that takes none along ends the string or goes on with it. -/
lemma cutAfterQuote_cons (quote : Char) {c : Char} (hc : c ≠ '\\') (cs : Text) :
    cutAfterQuote quote (c :: cs) = if c = quote then ([c], cs)
      else (c :: (cutAfterQuote quote cs).1, (cutAfterQuote quote cs).2) := by
  simp [cutAfterQuote, hc]

/-- A text with something behind a quote is cut there whatever follows the text. -/
lemma cutAfterQuote_append_of_ne_nil {quote : Char} {t : Text} (h : (cutAfterQuote quote t).2 ≠ [])
    (v : Text) : cutAfterQuote quote (t ++ v) =
      ((cutAfterQuote quote t).1, (cutAfterQuote quote t).2 ++ v) := by
  fun_induction cutAfterQuote quote t with
  | case1 => simp at h
  | case2 => simp at h
  | case3 c cs ih => simp [cutAfterQuote, ih h]
  | case4 cs hlast hescape =>
    have hne : quote ≠ '\\' := fun heq => by
      obtain ⟨d, ds, rfl⟩ := List.exists_cons_of_ne_nil h
      exact hescape d ds heq rfl
    rw [List.cons_append, cutAfterQuote_cons quote hne, if_pos rfl]
  | case5 c cs hlast hescape hquote ih =>
    have hne : c ≠ '\\' := fun heq => by
      cases cs with
      | nil => exact hlast heq rfl
      | cons d ds => exact hescape d ds heq rfl
    rw [List.cons_append, cutAfterQuote_cons quote hne, if_neg hquote, ih h]

/-- A token with something behind it is the same whatever follows the text. -/
lemma firstToken_append_of_ne_nil {c : Char} {cs : Text} (h : (firstToken c cs).2 ≠ [])
    (v : Text) : firstToken c (cs ++ v) = ((firstToken c cs).1, (firstToken c cs).2 ++ v) := by
  have hhead : (cs ++ v).head? = cs.head? := by
    cases cs with
    | nil =>
      have hnil : (firstToken c []).2 = [] := by
        unfold firstToken
        split_ifs <;> simp [cutAfter, cutAfterQuote]
      exact absurd hnil h
    | cons d ds => rfl
  unfold firstToken at h ⊢
  rw [hhead]
  split_ifs at h ⊢ with hquote hblock hline
  · rw [cutAfterQuote_append_of_ne_nil h]
  · obtain ⟨ds, rfl⟩ := List.head?_eq_some_iff.mp hblock.2
    simp only [List.cons_append, List.tail_cons] at h ⊢
    rw [cutAfter_append_of_ne_nil h]
  · rw [cutAfter_append_of_ne_nil h]
  · rfl

/-- Tokens up to a closing brace are the same whatever follows the text. -/
lemma isPrefix_tokens_append {front : List Token} {t : Text} (h : front <+: tokens t)
    (hlast : front.getLast? = some (.single '}')) (v : Text) : front <+: tokens (t ++ v) := by
  induction front generalizing t with
  | nil => simp at hlast
  | cons token front ih =>
    cases t with
    | nil => simp at h
    | cons c cs =>
      rw [tokens_cons] at h
      obtain ⟨rfl, hrest⟩ := List.cons_prefix_cons.mp h
      by_cases hempty : front = []
      · -- The last token is the brace, which is a token by itself.
        subst hempty
        have hbrace : (firstToken c cs).1 = .single '}' := by simpa using hlast
        obtain ⟨hfirst, -⟩ := extent_code_single 0 hbrace
        rw [hfirst] at hbrace
        obtain rfl : c = '}' := Token.single.inj hbrace
        have hjoined : firstToken '}' (cs ++ v) = (.single '}', cs ++ v) :=
          firstToken_of_single (by simp) (by simp) (by simp)
        rw [List.cons_append, tokens_cons, hjoined, hfirst]
        exact List.cons_prefix_cons.mpr ⟨rfl, List.nil_prefix⟩
      · have hbehind : (firstToken c cs).2 ≠ [] := fun hnil => hempty (by simpa [hnil] using hrest)
        rw [List.cons_append, tokens_cons, firstToken_append_of_ne_nil hbehind]
        refine List.cons_prefix_cons.mpr ⟨rfl, ih hrest ?_⟩
        rwa [List.getLast?_cons_of_ne_nil hempty] at hlast

/-- Is the body at the front of the text finished inside it: do tokens of the text close all braces? -/
def IsFinished (t : Text) : Prop := ∃ front ∈ (tokens t).inits, closes 0 front = true

instance (t : Text) : Decidable (IsFinished t) := inferInstanceAs (Decidable (∃ front ∈ _, _))

/-- If a front part of tokens closes all braces, what stands behind it does not matter. -/
lemma balancedFront_of_isPrefix {depth : Nat} {front ts : List Token}
    (hcloses : closes depth front = true) (h : front <+: ts) :
    balancedFront depth ts = balancedFront depth front := by
  obtain ⟨rest, rfl⟩ := h
  have hsome : (front.inits.find? (closes depth)).isSome :=
    List.find?_isSome.mpr ⟨front, (List.mem_inits _ _).mpr List.prefix_rfl, hcloses⟩
  obtain ⟨first, hfirst⟩ := Option.isSome_iff_exists.mp hsome
  rw [balancedFront, balancedFront, List.inits_append, List.find?_append, hfirst]
  rfl

/-- A body that is finished inside a text is the same whatever follows the text. -/
theorem ofText_append_of_isFinished {cs : Text} (h : IsFinished ('{' :: cs)) (v : Text) :
    ofText ('{' :: cs ++ v) = ofText ('{' :: cs) := by
  obtain ⟨front, hmem, hcloses⟩ := h
  have hfront : front <+: tokens ('{' :: cs) := (List.mem_inits _ _).mp hmem
  have hlast : front.getLast? = some (.single '}') := by
    simp only [closes, decide_eq_true_eq] at hcloses
    exact hcloses.1
  have hjoined := isPrefix_tokens_append hfront hlast v
  rw [List.cons_append] at hjoined ⊢
  rw [ofText_eq, ofText_eq, balancedFront_of_isPrefix hcloses hjoined,
    balancedFront_of_isPrefix hcloses hfront]

end Body

namespace Relationship

/-- A method whose body is finished has the same relationships with more text behind it. -/
lemma ofMethodWith_extend {t : Text} {m : Method} (hm : m ∈ Method.ofText t)
    (hfinished : Body.IsFinished m.span) (kinds : List RelationKind) (v : Text) :
    ofMethodWith kinds (m.extend v) = ofMethodWith kinds m := by
  obtain ⟨cs, hspan⟩ := Method.exists_span_eq hm
  have hbody : Body.ofText (m.span ++ v) = Body.ofText m.span := by
    rw [hspan] at hfinished ⊢
    exact Body.ofText_append_of_isFinished hfinished v
  rw [ofMethodWith, ofMethodWith, Method.extend, hbody]

/-- The relationships of a text that ends with a closing brace, with the body of its last method
finished, are found whatever follows, and what follows has its own. -/
theorem ofText_append_of_finished {s : Text}
    (hfinished : ∀ m ∈ (Method.ofText (s ++ ['}'])).getLast?, Body.IsFinished m.span) (t : Text) :
    ofText (s ++ ['}'] ++ t) = ofText (s ++ ['}']) ++ ofText t := by
  have hsealed : Sealed Method.header? (s ++ ['}']) := Method.sealed_header (by simp) sealed_nil s
  unfold ofText
  rcases List.eq_nil_or_concat' (Method.ofText (s ++ ['}'])) with hnone | ⟨ms, m, hms⟩
  · rw [ofTextWith_of_passed (Method.passed_of_ofText_eq_nil hsealed hnone t),
      ofTextWith, ofTextWith, hnone, List.flatMap_nil, List.nil_append]
  · have hlast : Body.IsFinished m.span := hfinished m (by simp [hms])
    obtain ⟨-, hjoined⟩ := Method.ofText_append_of_concat hsealed hms
    -- The last method goes on behind the closing brace, but its body does not.
    have hextend := fun v => ofMethodWith_extend (t := s ++ ['}']) (by simp [hms]) hlast
      RelationKind.all v
    rw [ofTextWith, ofTextWith, hjoined t, hms, List.flatMap_append, List.flatMap_append,
      List.flatMap_cons, hextend, List.flatMap_singleton, List.append_assoc]
    rfl

/-- A method up to the brace that ends its body. -/
def openMethod : Text := "public function user() \x7b return $this->belongsTo(User::class); ".toList

/-- A text that opens a string and closes a brace in front of a method of its own. -/
def looseText : Text :=
  "' \x7d public function tags() \x7b return $this->hasMany(Tag::class); \x7d".toList

/-- What follows may open strings, close braces and declare more: the method in front has its body. -/
theorem ofText_append_of_finished_looseText :
    (∀ m ∈ (Method.ofText (openMethod ++ ['}'])).getLast?, Body.IsFinished m.span) ∧
    ofText (openMethod ++ ['}'] ++ looseText) =
      ofText (openMethod ++ ['}']) ++ ofText looseText := by
  have hfinished : ∀ m ∈ (Method.ofText (openMethod ++ ['}'])).getLast?,
      Body.IsFinished m.span := by
    decide +kernel
  exact ⟨hfinished, ofText_append_of_finished hfinished looseText⟩

end Relationship

end RelationAtlas
