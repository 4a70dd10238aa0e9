import RelationAtlas.Proofs.Source.Blueprint
import RelationAtlas.Proofs.Source.MethodLayout

/-!
# The relationships of written methods

The lines of a list of methods declare exactly the relationships that are called in them
(`MethodPlan.relationships_methodText`): the lines of each method are a `MethodLayout`, whose calls
are those of the method, and between two methods there is only the end of a line.
-/

namespace RelationAtlas

open Text

namespace MethodPlan

/-! ## Lines of calls -/

/-- Code that is made of the characters between two calls. -/
def filler (t : Text) (h : t ⊆ "\n\t$this;".toList) : Filler where
  text := t
  isAllowed c hc hforbidden := by
    have hnone : ['\'', '"', '#', '/', '>'].all (· ∉ "\n\t$this;".toList) = true := by decide
    exact of_decide_eq_true (List.all_eq_true.mp hnone c hforbidden) (h hc)
  noPublic hpublic := absurd (h (hpublic.subset (a := 'p') (by simp))) (by decide)
  balanced := Balanced.of_notMem (fun hc => absurd (h hc) (by decide))
    fun hc => absurd (h hc) (by decide)

/-- What stands in front of the first of some calls, or in front of the closing brace. -/
def lead : List (RelationKind × SpelledName) → Text
  | [] => "\n\t".toList
  | _ :: _ => "\n\t\t$this".toList

lemma lead_subset (calls : List (RelationKind × SpelledName)) :
    lead calls ⊆ "\n\t$this;".toList := by
  cases calls with
  | nil => exact (by decide : "\n\t".toList ⊆ "\n\t$this;".toList)
  | cons call calls => exact (by decide : "\n\t\t$this".toList ⊆ "\n\t$this;".toList)

/-- A call without blanks in front of a parenthesis. -/
def closedCall (call : RelationKind × SpelledName) : ClosedCall where
  call := ⟨.empty, call.1, .empty, .empty, call.2.text, call.2.ne_nil,
    fun c hc => Call.isTargetChar_of_isNameChar (call.2.isNameChar c hc)⟩
  isNameChar := call.2.isNameChar
  closing := ')'
  isClosing := Or.inl rfl

/-- Calls with what stands behind them. -/
def closedCalls : List (RelationKind × SpelledName) → List (ClosedCall × Filler)
  | [] => []
  | call :: calls =>
    (closedCall call, filler (';' :: lead calls)
      (List.cons_subset.mpr ⟨by decide, lead_subset calls⟩)) :: closedCalls calls

/-- The line of a call, with the line end in front of it. -/
lemma callLine_append (call : RelationKind × SpelledName) (t : Text) :
    '\n' :: (callLine call ++ t) =
      "\n\t\t$this".toList ++ ((closedCall call).text ++ ';' :: t) := by
  have hclosed : (closedCall call).text ++ ';' :: t = "->".toList ++ (call.1.word ++
      '(' :: (call.2.text ++ (Call.classSuffix ++ ')' :: ';' :: t))) :=
    (closedCall call).text_append _
  rw [hclosed]
  unfold callLine Call.classSuffix
  simp only [List.append_assoc, List.cons_append]
  rfl

/-- The lines of calls, between a line end and the indentation of the closing brace. -/
lemma callText_eq (calls : List (RelationKind × SpelledName)) :
    '\n' :: ((calls.map callLine).flatMap (· ++ ['\n']) ++ ['\t']) =
      lead calls ++ BodyLayout.callsText (closedCalls calls) := by
  induction calls with
  | nil => rfl
  | cons call calls ih =>
    calc '\n' :: (((call :: calls).map callLine).flatMap (· ++ ['\n']) ++ ['\t'])
        = '\n' :: (callLine call ++
            '\n' :: ((calls.map callLine).flatMap (· ++ ['\n']) ++ ['\t'])) := by simp
      _ = lead (call :: calls) ++ ((closedCall call).text ++
            ';' :: (lead calls ++ BodyLayout.callsText (closedCalls calls))) := by
          rw [ih, callLine_append]
          rfl
      _ = _ := by
          simp only [closedCalls, BodyLayout.callsText, List.flatMap_cons, filler,
            List.append_assoc, List.cons_append]

/-! ## Methods -/

/-- A method as it is written behind the end of a line. -/
def layout (m : MethodPlan) : MethodLayout where
  gap := ⟨['\t'], fun h => absurd (h.subset (a := 'p') (by simp)) (by decide)⟩
  heading :=
    ⟨⟨.ofAll [' '] (by decide), by simp [Blanks.ofAll]⟩,
      ⟨.ofAll [' '] (by decide), by simp [Blanks.ofAll]⟩, m.name, .empty, .empty,
      .ofAll ['\n', '\t'] (by decide), none⟩
  body := ⟨filler (lead m.calls) (lead_subset m.calls), closedCalls m.calls⟩

/-- The lines of the first method, and those of the others. -/
lemma methodText_cons (m : MethodPlan) (methods : List MethodPlan) (t : Text) :
    Blueprint.methodText (m :: methods) ++ t =
      m.layout.text ++ '\n' :: (Blueprint.methodText methods ++ t) := by
  have hheading : m.layout.heading.text =
      "public function ".toList ++ (m.name.text ++ "()\n\t".toList) := by
    unfold Heading.text
    rfl
  have hcontent : m.layout.body.content =
      '\n' :: ((m.calls.map callLine).flatMap (· ++ ['\n']) ++ ['\t']) := (callText_eq m.calls).symm
  rw [MethodLayout.text, hheading, BodyLayout.text, hcontent]
  unfold Blueprint.methodText lines
  simp only [List.flatMap_append, List.flatMap_cons, List.append_assoc, List.nil_append,
    List.cons_append]
  rfl

/-- The relationships of a method as it is written. -/
lemma relationships_layout (m : MethodPlan) : m.layout.relationships =
    m.calls.map fun call => ⟨m.name.text, call.1, call.2.text⟩ := by
  have hcalls : ∀ calls, (closedCalls calls).map (fun c => c.1.call.call) =
      calls.map fun call => ⟨call.1, call.2.text⟩ := by
    intro calls
    induction calls with
    | nil => rfl
    | cons call calls ih =>
      rw [closedCalls, List.map_cons, ih]
      rfl
  have hmap := congrArg (List.map fun c : Call => (⟨m.name.text, c.kind, c.target⟩ : Relationship))
    (hcalls m.calls)
  rwa [List.map_map, List.map_map] at hmap

/-- The relationships of methods that are written down, in front of a text without headers. -/
lemma relationships_methodText {kinds : List RelationKind} (hkinds : ∀ k, k ∈ kinds)
    (methods : List MethodPlan) {t : Text} (ht : 'p' ∉ t) :
    Relationship.ofTextWith kinds (Blueprint.methodText methods ++ t) =
      methods.flatMap fun m => m.calls.map fun call => ⟨m.name.text, call.1, call.2.text⟩ := by
  induction methods with
  | nil =>
    exact Relationship.ofTextWith_interlude kinds
      ⟨t, fun h => ht (h.subset (by simp))⟩
  | cons m methods ih =>
    have hend : Passed Method.header? ['\n'] (Blueprint.methodText methods ++ t) :=
      Method.passed_header (by simp) _
    rw [methodText_cons, m.layout.ofTextWith_append hkinds, relationships_layout, List.flatMap_cons,
      ← ih, ← Relationship.ofTextWith_of_passed hend]
    rfl

end MethodPlan

end RelationAtlas
