import Mathlib.Data.List.TakeWhile
import RelationAtlas.Command.Invocation
import RelationAtlas.Proofs.Text.Numerals

/-!
# Asking for a graph on the command line

The task of writing a graph is asked for by its name, a root, and then any options in any order
(`analysisLine`).  Such a command line is understood as it is meant (`ofArguments_analysisLine`), as
long as neither the root nor the name of a file begins with a dash and no number has too many digits;
a number that has too many is refused (`ofArguments_of_tooLong`).

The arguments are sorted twice, once among the options of the whole command line and once among those
of the task.  In the first sorting it only matters that nothing is refused.
-/

namespace RelationAtlas

namespace Options

variable {σ : Type} {specs : List (Spec σ)}

/-! ## Sorting -/

lemma ne_marker_of_head {t : Text} (h : t.head? ≠ some '-') : t ≠ marker := by
  rintro rfl
  exact h rfl

/-- What does not begin with a dash is positional. -/
lemma role_of_head {t : Text} (h : t.head? ≠ some '-') : role specs t = .ok .positional := by
  unfold role
  split
  · exact absurd rfl h
  · rfl

/-- No option is spelled with a digit behind its dash. -/
def SpellsNoDigit (specs : List (Spec σ)) : Prop :=
  ∀ c : Char, c.isDigit = true → ∀ rest, specOf? specs ('-' :: c :: rest) = none

lemma looksNegative_of_digits {c : Char} {ds : Text} (h : ∀ d ∈ c :: ds, d.isDigit = true) :
    looksNegative ('-' :: c :: ds) = true := by
  have hdigits : ∀ d ∈ c :: ds, (Text.digitValue? d).isSome = true := by
    intro d hd
    rw [(Text.digit_facts (h d hd)).1]
    rfl
  have hlast : (c :: ds).getLast? ≠ some '\n' := by
    intro hlast
    have hfeed := h '\n' (List.mem_of_getLast? hlast)
    exact absurd hfeed (by decide)
  have hdrop : (c :: ds).dropWhile (fun d => (Text.digitValue? d).isSome) = [] :=
    List.dropWhile_eq_nil_iff.mpr hdigits
  simp only [looksNegative, if_neg hlast, hdrop]
  rfl

/-- A number is positional, also when it begins with a minus sign. -/
lemma role_ofInt (h : SpellsNoDigit specs) (n : Int) :
    role specs (Text.ofInt n) = .ok .positional := by
  cases n with
  | ofNat n =>
    refine role_of_head fun hhead => ?_
    have hmem : '-' ∈ Text.ofNat n := List.mem_of_head? hhead
    exact absurd (Text.isDigit_of_mem_ofNat hmem) (by decide)
  | negSucc n =>
    have hdigits : ∀ d ∈ Text.ofNat (n + 1), d.isDigit = true :=
      fun d hd => Text.isDigit_of_mem_ofNat hd
    cases htext : Text.ofNat (n + 1) with
    | nil => exact absurd htext Nat.toDigits_ne_nil
    | cons c ds =>
      rw [htext] at hdigits
      have hc : c.isDigit = true := hdigits c (by simp)
      have hequals : cutAtEquals? ('-' :: c :: ds) = none := by
        have hdrop : ('-' :: c :: ds).dropWhile (· ≠ '=') = [] := by
          refine List.dropWhile_eq_nil_iff.mpr fun d hd => ?_
          rcases List.mem_cons.mp hd with rfl | hd
          · decide
          · exact decide_eq_true (Text.ne_of_isDigit (hdigits d hd) rfl)
        rw [cutAtEquals?, hdrop]
      have hcandidates : candidates specs ('-' :: c :: ds) = [] := by
        rw [candidates, h c hc]
        exact Text.ne_of_isDigit hc rfl
      rw [Text.ofInt, htext]
      simp only [role, dashRole, h c hc, hequals, hcandidates, looksNegative_of_digits hdigits]
      rfl

lemma ofInt_ne_marker (n : Int) : Text.ofInt n ≠ marker := by
  cases n with
  | ofNat n =>
    intro h
    have hmem : '-' ∈ Text.ofNat n := by simp [show Text.ofNat n = marker from h, marker]
    exact absurd (Text.isDigit_of_mem_ofNat hmem) (by decide)
  | negSucc n =>
    intro h
    have hmem : '-' ∈ Text.ofNat (n + 1) := by simp [(List.cons.inj h).2]
    exact absurd (Text.isDigit_of_mem_ofNat hmem) (by decide)

/-- One argument is sorted before the others. -/
lemma sort_cons {t : Text} {r : Role σ} (ht : t ≠ marker) (hr : role specs t = .ok r)
    (rest : List Text) : sort specs (t :: rest) = (sort specs rest).map (⟨t, r⟩ :: ·) := by
  rw [sort, if_neg ht, hr]
  cases sort specs rest <;> rfl

/-- Sorting leaves the arguments as they are written. -/
lemma exists_sort {args : List Text} (h : ∀ t ∈ args, t ≠ marker ∧ ∃ r, role specs t = .ok r) :
    ∃ sorted, sort specs args = .ok sorted ∧ sorted.map (·.text) = args := by
  induction args with
  | nil => exact ⟨[], rfl, rfl⟩
  | cons t rest ih =>
    obtain ⟨ht, r, hr⟩ := h t (by simp)
    obtain ⟨sorted, hsorted, htexts⟩ := ih fun u hu => h u (by simp [hu])
    refine ⟨⟨t, r⟩ :: sorted, ?_, ?_⟩
    · rw [sort_cons ht hr, hsorted]
      rfl
    · rw [List.map_cons, htexts]

/-! ## Taking -/

/-- An option that takes a value takes it from the argument behind it. -/
lemma take_value (g : Grammar σ) {spec : Spec σ} {act : Option Text → σ → Except Ending σ}
    (hspec : spec.effect = .value act) (option spelling value : Text) (more : List (Argument σ))
    {p : Progress σ} (hp : p.awaiting = none) :
    take g (⟨option, .option spec spelling none⟩ :: ⟨value, .positional⟩ :: more) p =
      (act (some value) p.state).bind fun state => take g more { p with state, named := false } := by
  obtain ⟨state, pending, named, awaiting, surplus⟩ := p
  cases hp
  simp only [take, takeOne, takeOption, takeBare, hspec, applyAll, bind, Except.bind, pure,
    Except.pure, List.foldlM]

end Options

namespace Command

open Options

/-! ## The whole command line -/

lemma spellsNoDigit_grammar (settings : Settings) : SpellsNoDigit (grammar settings).specs := by
  intro c hc rest
  have hdash : c ≠ '-' := Text.ne_of_isDigit hc rfl
  have hh : c ≠ 'h' := Text.ne_of_isDigit hc rfl
  simp [specOf?, grammar, helpSpec, hdash, hh]

lemma spellsNoDigit_analysisGrammar : SpellsNoDigit analysisGrammar.specs := by
  intro c hc rest
  have hdash : c ≠ '-' := Text.ne_of_isDigit hc rfl
  have hh : c ≠ 'h' := Text.ne_of_isDigit hc rfl
  have ho : c ≠ 'o' := Text.ne_of_isDigit hc rfl
  simp [specOf?, analysisGrammar, helpSpec, hdash, hh, ho]

/-- What follows the name of the task is left to the task. -/
lemma ofArguments_analyze (settings : Settings) {args : List Text}
    (h : ∀ t ∈ args, t ≠ marker ∧ ∃ r, role (grammar settings).specs t = .ok r) :
    Invocation.ofArguments settings ("analyze".toList :: args) =
      (parse analysisGrammar plainAnalysis args).map fun a =>
        ⟨some settings.logLevel, .analyze a⟩ := by
  obtain ⟨sorted, hsorted, htexts⟩ := exists_sort h
  have hname : role (grammar settings).specs "analyze".toList = .ok .positional :=
    role_of_head (by decide)
  have htask : task settings "analyze".toList (sorted.map (·.text)) =
      (parse analysisGrammar plainAnalysis args).map .analyze := by
    rw [htexts]
    rfl
  rw [Invocation.ofArguments, parse, sort_cons (by decide) hname, hsorted]
  simp only [Except.map, bind, Except.bind, take, grammar, Grammar.asks, htask]
  cases parse analysisGrammar plainAnalysis args <;> rfl

/-! ## The task -/

/-- The option that names a file. -/
def outputSpec : Spec Analysis :=
  ⟨["-o".toList, "--output".toList], .value fun v a => .ok { a with output := v }⟩

/-- The option that asks for a summary. -/
def summarySpec : Spec Analysis :=
  ⟨["--summary".toList], .flag fun a => .ok { a with summary := true }⟩

/-- The option that says how many files may be read at a time. -/
def workersSpec : Spec Analysis :=
  ⟨["--workers".toList], .value fun v a => do return { a with workers := ← v.mapM numberOf }⟩

/-- What has been understood of the task, when no value is awaited and the root has been named. -/
def understood (a : Analysis) (named : Bool) : Progress Analysis := ⟨a, false, named, none, false⟩

/-- An option of the task of writing a graph. -/
inductive Wish where
  | output (file : Text)
  | summary
  | workers (n : Int)

namespace Wish

/-- The arguments that ask for the option. -/
def words : Wish → List Text
  | output file => ["-o".toList, file]
  | summary => ["--summary".toList]
  | workers n => ["--workers".toList, Text.ofInt n]

/-- What the task becomes under the option. -/
def apply : Wish → Analysis → Analysis
  | output file, a => { a with output := some file }
  | summary, a => { a with summary := true }
  | workers n, a => { a with workers := some n }

/-- The words are not taken for another option: the name of a file does not begin with a dash. -/
def IsApart : Wish → Prop
  | output file => file.head? ≠ some '-'
  | summary => True
  | workers _ => True

/-- The words can be read: besides, a number does not have too many digits. -/
def IsPlain : Wish → Prop
  | output file => file.head? ≠ some '-'
  | summary => True
  | workers n => (Text.ofNat n.natAbs).length ≤ Text.digitLimit

lemma IsPlain.isApart {w : Wish} (h : w.IsPlain) : w.IsApart := by
  cases w with
  | output file => exact h
  | summary => trivial
  | workers n => trivial

/-- The arguments that the words are sorted into, each with what it is. -/
def arguments : Wish → List (Argument Analysis)
  | output file => [⟨"-o".toList, .option outputSpec "-o".toList none⟩, ⟨file, .positional⟩]
  | summary => [⟨"--summary".toList, .option summarySpec "--summary".toList none⟩]
  | workers n => [⟨"--workers".toList, .option workersSpec "--workers".toList none⟩,
      ⟨Text.ofInt n, .positional⟩]

/-- The words are sorted into these arguments. -/
lemma sort_words {w : Wish} (h : w.IsApart) (rest : List Text) :
    sort analysisGrammar.specs (w.words ++ rest) =
      (sort analysisGrammar.specs rest).map (w.arguments ++ ·) := by
  cases w with
  | output file =>
    have hoption : role analysisGrammar.specs "-o".toList =
        .ok (.option outputSpec "-o".toList none) := rfl
    rw [words, List.cons_append, List.cons_append, sort_cons (by decide) hoption, List.nil_append,
      sort_cons (ne_marker_of_head h) (role_of_head h)]
    cases sort analysisGrammar.specs rest <;> rfl
  | summary =>
    have hoption : role analysisGrammar.specs "--summary".toList =
        .ok (.option summarySpec "--summary".toList none) := rfl
    rw [words, List.cons_append, List.nil_append, sort_cons (by decide) hoption]
    rfl
  | workers n =>
    have hoption : role analysisGrammar.specs "--workers".toList =
        .ok (.option workersSpec "--workers".toList none) := rfl
    rw [words, List.cons_append, List.cons_append, sort_cons (by decide) hoption, List.nil_append,
      sort_cons (ofInt_ne_marker n) (role_ofInt spellsNoDigit_analysisGrammar n)]
    cases sort analysisGrammar.specs rest <;> rfl

/-- Taking the arguments has the effect of the option. -/
lemma take_arguments {w : Wish} (h : w.IsPlain) (more : List (Argument Analysis)) (a : Analysis)
    (named : Bool) : take analysisGrammar (w.arguments ++ more) (understood a named) =
      take analysisGrammar more (understood (w.apply a) false) := by
  cases w with
  | output file => rfl
  | summary => rfl
  | workers n =>
    have hnumber : numberOf (Text.ofInt n) = .ok n := by
      rw [numberOf, Text.argumentNumber?_ofInt h]
    rw [arguments, List.cons_append, List.cons_append, take_value analysisGrammar rfl _ _ _ _ rfl]
    simp only [understood, Option.mapM_some, hnumber]
    rfl

/-- A number with too many digits is refused. -/
lemma take_workers_of_tooLong {n : Int} (h : Text.digitLimit < (Text.ofNat n.natAbs).length)
    (more : List (Argument Analysis)) (a : Analysis) (named : Bool) :
    take analysisGrammar ((workers n).arguments ++ more) (understood a named) = .error .misuse := by
  have hnumber : numberOf (Text.ofInt n) = .error .misuse := by
    rw [numberOf, Text.argumentNumber?_ofInt_of_lt h]
  rw [arguments, List.cons_append, List.cons_append, take_value analysisGrammar rfl _ _ _ _ rfl]
  simp only [understood, Option.mapM_some, hnumber]
  rfl

end Wish

/-- The command line that asks for the graph of the project at a root. -/
def analysisLine (root : Text) (wishes : List Wish) : List Text :=
  "analyze".toList :: root :: wishes.flatMap Wish.words

/-- The task that it asks for.  Of options that contradict one another the last one counts. -/
def Analysis.asked (root : Text) (wishes : List Wish) : Analysis :=
  wishes.foldl (fun a w => w.apply a) ⟨root, none, false, none⟩

lemma sort_wishes {wishes : List Wish} (h : ∀ w ∈ wishes, w.IsApart) :
    sort analysisGrammar.specs (wishes.flatMap Wish.words) =
      .ok (wishes.flatMap Wish.arguments) := by
  induction wishes with
  | nil => rfl
  | cons w wishes ih =>
    rw [List.flatMap_cons, Wish.sort_words (h w (by simp)), ih fun v hv => h v (by simp [hv])]
    rfl

lemma take_wishes {wishes : List Wish} (h : ∀ w ∈ wishes, w.IsPlain) (a : Analysis) (named : Bool) :
    ∃ named', take analysisGrammar (wishes.flatMap Wish.arguments) (understood a named) =
      .ok (understood (wishes.foldl (fun a w => w.apply a) a) named') := by
  induction wishes generalizing a named with
  | nil => exact ⟨named, rfl⟩
  | cons w wishes ih =>
    obtain ⟨named', hrest⟩ := ih (fun v hv => h v (by simp [hv])) (w.apply a) false
    refine ⟨named', ?_⟩
    rw [List.flatMap_cons, Wish.take_arguments (h w (by simp)), hrest]
    rfl

/-- The root comes first, and is positional. -/
lemma parse_root {root : Text} (hroot : root.head? ≠ some '-') {args : List Text}
    {sorted : List (Argument Analysis)} (h : sort analysisGrammar.specs args = .ok sorted) :
    parse analysisGrammar plainAnalysis (root :: args) =
      (take analysisGrammar sorted (understood ⟨root, none, false, none⟩ true)).bind fun p =>
        if p.pending || p.surplus then .error .misuse else .ok p.state := by
  rw [parse, sort_cons (ne_marker_of_head hroot) (role_of_head hroot), h]
  rfl

/-- In the sorting among the options of the whole command line, none of the words is refused. -/
lemma Wish.role_words (settings : Settings) {w : Wish} (h : w.IsApart) {t : Text}
    (ht : t ∈ w.words) : t ≠ marker ∧ ∃ r, role (grammar settings).specs t = .ok r := by
  cases w with
  | output file =>
    simp only [words, List.mem_cons, List.not_mem_nil, or_false] at ht
    rcases ht with rfl | rfl
    · exact ⟨by decide, .unknown, rfl⟩
    · exact ⟨ne_marker_of_head h, .positional, role_of_head h⟩
  | summary =>
    rw [List.mem_singleton.mp ht]
    exact ⟨by decide, .unknown, rfl⟩
  | workers n =>
    simp only [words, List.mem_cons, List.not_mem_nil, or_false] at ht
    rcases ht with rfl | rfl
    · exact ⟨by decide, .unknown, rfl⟩
    · exact ⟨ofInt_ne_marker n, .positional, role_ofInt (spellsNoDigit_grammar settings) n⟩

lemma ofArguments_eq_parse (settings : Settings) {root : Text} (hroot : root.head? ≠ some '-')
    {wishes : List Wish} (h : ∀ w ∈ wishes, w.IsApart) :
    Invocation.ofArguments settings (analysisLine root wishes) =
      (parse analysisGrammar plainAnalysis (root :: wishes.flatMap Wish.words)).map fun a =>
        ⟨some settings.logLevel, .analyze a⟩ := by
  refine ofArguments_analyze settings fun t ht => ?_
  rcases List.mem_cons.mp ht with rfl | ht
  · exact ⟨ne_marker_of_head hroot, .positional, role_of_head hroot⟩
  · obtain ⟨w, hw, htw⟩ := List.mem_flatMap.mp ht
    exact Wish.role_words settings (h w hw) htw

/-- A command line that asks for a graph is understood as it is meant. -/
lemma ofArguments_analysisLine (settings : Settings) {root : Text} (hroot : root.head? ≠ some '-')
    {wishes : List Wish} (h : ∀ w ∈ wishes, w.IsPlain) :
    Invocation.ofArguments settings (analysisLine root wishes) =
      .ok ⟨some settings.logLevel, .analyze (Analysis.asked root wishes)⟩ := by
  have hapart : ∀ w ∈ wishes, w.IsApart := fun w hw => (h w hw).isApart
  obtain ⟨named, htake⟩ := take_wishes h ⟨root, none, false, none⟩ true
  rw [ofArguments_eq_parse settings hroot hapart, parse_root hroot (sort_wishes hapart), htake]
  rfl

/-- A number of files with too many digits is refused. -/
lemma ofArguments_of_tooLong (settings : Settings) {root : Text} (hroot : root.head? ≠ some '-')
    {n : Int} (h : Text.digitLimit < (Text.ofNat n.natAbs).length) :
    Invocation.ofArguments settings (analysisLine root [.workers n]) = .error .misuse := by
  have hapart : ∀ w ∈ [Wish.workers n], w.IsApart := by simp [Wish.IsApart]
  have hsort : sort analysisGrammar.specs ([Wish.workers n].flatMap Wish.words) =
      .ok ((Wish.workers n).arguments ++ []) := sort_wishes hapart
  rw [ofArguments_eq_parse settings hroot hapart, parse_root hroot hsort,
    Wish.take_workers_of_tooLong h]
  rfl

end Command

end RelationAtlas
