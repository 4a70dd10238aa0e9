import Mathlib.Data.List.Infix
import RelationAtlas.Source.Body

/-!
# Where a method body ends

The reader of bodies goes through a text once, in one of four modes and with a counter.  Here the end
of a body is described in two steps instead.  First the text is cut into *tokens*: strings, comments,
and single characters (`tokens`); the tokens make up the text again (`texts_tokens`).  Then the body
is the first front part of the tokens that ends with a closing brace and has as many closing as
opening braces among its single characters, or everything if there is none (`balancedFront`).

`extent_code` says that both descriptions agree at any depth, and `ofText_eq` that they agree for a
text that begins with an opening brace.
-/

namespace RelationAtlas.Body

open Text

/-! ## Cutting a text into tokens -/

/-- A part of a text in which braces are counted. -/
inductive Token where
  | string (text : Text)
  | comment (text : Text)
  | single (c : Char)
  deriving DecidableEq

/-- What a token takes up of the text. -/
def Token.text : Token → Text
  | .string t => t
  | .comment t => t
  | .single c => [c]

/-- What tokens take up together. -/
def texts (ts : List Token) : Text := ts.flatMap Token.text

/-- The text up to and with the first occurrence of a word, and what follows; without an occurrence
the whole text comes first. -/
def cutAfter (word : Text) : Text → Text × Text
  | [] => ([], [])
  | c :: cs =>
    match after? word (c :: cs) with
    | some rest => (word, rest)
    | none => (c :: (cutAfter word cs).1, (cutAfter word cs).2)

/-- The text up to and with the next quote of the given sort, and what follows.  A backslash takes
the character after it along, and without a quote the whole text comes first. -/
def cutAfterQuote (quote : Char) : Text → Text × Text
  | [] => ([], [])
  | ['\\'] => (['\\'], [])
  | '\\' :: c :: cs =>
    ('\\' :: c :: (cutAfterQuote quote cs).1, (cutAfterQuote quote cs).2)
  | c :: cs =>
    if c = quote then ([c], cs) else (c :: (cutAfterQuote quote cs).1, (cutAfterQuote quote cs).2)

/-- The first token of a text that begins with `c`, and what follows it. -/
def firstToken (c : Char) (cs : Text) : Token × Text :=
  if c = '\'' ∨ c = '"' then
    (.string (c :: (cutAfterQuote c cs).1), (cutAfterQuote c cs).2)
  else if c = '/' ∧ cs.head? = some '*' then
    (.comment ('/' :: '*' :: (cutAfter "*/".toList cs.tail).1), (cutAfter "*/".toList cs.tail).2)
  else if c = '#' ∨ c = '/' ∧ cs.head? = some '/' then
    (.comment (c :: (cutAfter "\n".toList cs).1), (cutAfter "\n".toList cs).2)
  else (.single c, cs)

/-- Nothing is lost where a text is cut after a word. -/
lemma cutAfter_append (word t : Text) : (cutAfter word t).1 ++ (cutAfter word t).2 = t := by
  induction t with
  | nil => rfl
  | cons c cs ih =>
    rw [cutAfter]
    split
    · next rest h => exact (after?_eq_some_iff.mp h).symm
    · simp [ih]

lemma cutAfterQuote_append (quote : Char) (t : Text) :
    (cutAfterQuote quote t).1 ++ (cutAfterQuote quote t).2 = t := by
  fun_induction cutAfterQuote quote t <;> simp_all

/-- Nothing is lost where the first token is taken off. -/
lemma firstToken_append (c : Char) (cs : Text) :
    (firstToken c cs).1.text ++ (firstToken c cs).2 = c :: cs := by
  unfold firstToken
  split
  · simp [Token.text, cutAfterQuote_append]
  · split
    · next h =>
      obtain ⟨rfl, hstar⟩ := h
      obtain ⟨ds, rfl⟩ := List.head?_eq_some_iff.mp hstar
      simp [Token.text, cutAfter_append]
    · split
      · simp [Token.text, cutAfter_append]
      · rfl

lemma firstToken_text_ne_nil (c : Char) (cs : Text) : (firstToken c cs).1.text ≠ [] := by
  unfold firstToken
  split_ifs <;> simp [Token.text]

/-- What follows the first token is shorter than the text. -/
lemma length_firstToken_lt (c : Char) (cs : Text) :
    (firstToken c cs).2.length < (c :: cs).length := by
  have happ := congrArg List.length (firstToken_append c cs)
  have hpos := List.length_pos_iff.mpr (firstToken_text_ne_nil c cs)
  rw [List.length_append] at happ
  omega

/-- The tokens of a text from left to right. -/
def tokens (t : Text) : List Token :=
  match t with
  | [] => []
  | c :: cs => (firstToken c cs).1 :: tokens (firstToken c cs).2
termination_by t.length
decreasing_by exact length_firstToken_lt c cs

@[simp] lemma tokens_nil : tokens [] = [] := by rw [tokens]

lemma tokens_cons (c : Char) (cs : Text) :
    tokens (c :: cs) = (firstToken c cs).1 :: tokens (firstToken c cs).2 := by
  rw [tokens]

/-- The tokens of a text make up the text. -/
lemma texts_tokens (t : Text) : texts (tokens t) = t := by
  induction h : t.length using Nat.strong_induction_on generalizing t with
  | _ n ih =>
    cases t with
    | nil => simp [texts]
    | cons c cs =>
      have hrest := ih _ (h ▸ length_firstToken_lt c cs) (firstToken c cs).2 rfl
      rw [texts] at hrest ⊢
      rw [tokens_cons, List.flatMap_cons, hrest, firstToken_append]

/-! ## The balanced front part -/

/-- Do tokens that follow `depth` open braces close the last of them, at their end? -/
def closes (depth : Nat) (ts : List Token) : Bool :=
  ts.getLast? = some (.single '}') ∧
    depth + ts.count (.single '{') = ts.count (.single '}')

/-- The first front part of the tokens that closes all braces, or all tokens if there is none. -/
def balancedFront (depth : Nat) (ts : List Token) : List Token :=
  (ts.inits.find? (closes depth)).getD ts

@[simp] lemma closes_nil (depth : Nat) : closes depth [] = false := by
  simp [closes]

@[simp] lemma balancedFront_nil (depth : Nat) : balancedFront depth [] = [] := by
  simp [balancedFront]

/-- A first token that does not close the last brace stands in front of the balanced front part of
the other tokens, whose depth takes it into account. -/
lemma balancedFront_cons {depth depth' : Nat} {token : Token} {ts : List Token}
    (h : ∀ front, closes depth (token :: front) = closes depth' front) :
    balancedFront depth (token :: ts) = token :: balancedFront depth' ts := by
  have hfind : List.find? (closes depth) (ts.inits.map (token :: ·)) =
      (List.find? (closes depth') ts.inits).map (token :: ·) := by
    rw [List.find?_map]
    congr 2
    exact funext h
  rw [balancedFront, List.inits, List.find?_cons_of_neg (by simp), hfind, balancedFront]
  cases List.find? (closes depth') ts.inits <;> rfl

/-- An opening brace is one more brace to close. -/
lemma closes_opening (depth : Nat) (front : List Token) :
    closes depth (.single '{' :: front) = closes (depth + 1) front := by
  cases front with
  | nil => simp [closes]
  | cons next front =>
    have hclosing : List.count (.single '}') (.single '{' :: next :: front) =
        List.count (Token.single '}') (next :: front) := List.count_cons_of_ne (by simp)
    simp only [closes, List.getLast?_cons_cons, List.count_cons_self, hclosing]
    congr 2
    simp only [eq_iff_iff]
    omega

/-- A closing brace that is not the last one is one brace less to close. -/
lemma closes_closing {depth : Nat} (h : 2 ≤ depth) (front : List Token) :
    closes depth (.single '}' :: front) = closes (depth - 1) front := by
  cases front with
  | nil =>
    simp [closes]
    omega
  | cons next front =>
    have hopening : List.count (.single '{') (.single '}' :: next :: front) =
        List.count (Token.single '{') (next :: front) := List.count_cons_of_ne (by simp)
    simp only [closes, List.getLast?_cons_cons, List.count_cons_self, hopening]
    congr 2
    simp only [eq_iff_iff]
    omega

/-- Other tokens do not matter. -/
lemma closes_other {depth : Nat} {token : Token} (hopen : token ≠ .single '{')
    (hclose : token ≠ .single '}') (front : List Token) :
    closes depth (token :: front) = closes depth front := by
  cases front with
  | nil => simp [closes, hclose]
  | cons next front =>
    simp only [closes, List.getLast?_cons_cons]
    rw [List.count_cons_of_ne hopen, List.count_cons_of_ne hclose]

/-- The closing brace of the only open brace ends the front part. -/
lemma balancedFront_last (ts : List Token) :
    balancedFront 1 (.single '}' :: ts) = [.single '}'] := by
  cases ts <;> simp [balancedFront, List.inits, closes]

/-! ## Both descriptions agree -/

/-- Inside a string, everything belongs to the body up to and with the closing quote. -/
lemma extent_quoted (quote : Char) (depth : Nat) (t : Text) :
    extent (.quoted quote) depth t =
      (cutAfterQuote quote t).1 ++ extent .code depth (cutAfterQuote quote t).2 := by
  fun_induction cutAfterQuote quote t with
  | case1 => simp [extent]
  | case2 => simp [extent]
  | case3 c cs ih => simp [extent, ih]
  | case4 cs h => simp_all [extent]
  | case5 c cs h1 h2 hne ih => simp_all [extent]

/-- Inside a comment that ends with a star and a slash, everything belongs to the body up to and with
these. -/
lemma extent_blockComment (depth : Nat) (t : Text) :
    extent .blockComment depth t =
      (cutAfter "*/".toList t).1 ++ extent .code depth (cutAfter "*/".toList t).2 := by
  induction t with
  | nil => simp [extent, cutAfter]
  | cons c cs ih =>
    rw [cutAfter]
    split
    · next rest h =>
      rw [after?_eq_some_iff.mp h]
      simp [extent]
    · next h =>
      have hno : ∀ rest, c = '*' → cs = '/' :: rest → False := by
        rintro rest rfl rfl
        simp [after?] at h
      simp [extent, ih]

/-- Inside a comment that ends with the line, everything belongs to the body up to and with the line
end. -/
lemma extent_lineComment (depth : Nat) (t : Text) :
    extent .lineComment depth t =
      (cutAfter "\n".toList t).1 ++ extent .code depth (cutAfter "\n".toList t).2 := by
  induction t with
  | nil => simp [extent, cutAfter]
  | cons c cs ih =>
    by_cases h : c = '\n'
    · subst h
      simp [extent, cutAfter, after?]
    · simp [extent, cutAfter, after?, h, Ne.symm h, ih]

/-- In code, a slash that opens no comment is a character like any other, and so is every character
that opens nothing. -/
lemma extent_code_cons {c : Char} {cs : Text} (depth : Nat)
    (hblock : ¬ (c = '/' ∧ cs.head? = some '*')) (hline : ¬ (c = '/' ∧ cs.head? = some '/')) :
    extent .code depth (c :: cs) =
      if c = '\'' ∨ c = '"' then c :: extent (.quoted c) depth cs
      else if c = '#' then c :: extent .lineComment depth cs
      else if c = '{' then c :: extent .code (depth + 1) cs
      else if c = '}' then if depth = 1 then [c] else c :: extent .code (depth - 1) cs
      else c :: extent .code depth cs := by
  have hb : ∀ rest, c = '/' → cs = '*' :: rest → False := by
    rintro rest rfl rfl
    simp at hblock
  have hl : ∀ rest, c = '/' → cs = '/' :: rest → False := by
    rintro rest rfl rfl
    simp at hline
  simp [extent]

/-- The single tokens are the characters that open neither a string nor a comment. -/
lemma firstToken_of_single {c : Char} {cs : Text} (hquote : ¬ (c = '\'' ∨ c = '"'))
    (hblock : ¬ (c = '/' ∧ cs.head? = some '*'))
    (hline : ¬ (c = '#' ∨ c = '/' ∧ cs.head? = some '/')) :
    firstToken c cs = (.single c, cs) := by
  rw [firstToken, if_neg hquote, if_neg hblock, if_neg hline]

/-- In code, a string belongs to the body as a whole. -/
lemma extent_code_string (depth : Nat) {c : Char} (cs : Text) (hquote : c = '\'' ∨ c = '"') :
    extent .code depth (c :: cs) =
      (firstToken c cs).1.text ++ extent .code depth (firstToken c cs).2 := by
  have hslash : c ≠ '/' := by rintro rfl; simp at hquote
  rw [firstToken, if_pos hquote,
    extent_code_cons depth (fun h => hslash h.1) (fun h => hslash h.1), if_pos hquote, extent_quoted]
  rfl

/-- In code, a comment that ends with a star and a slash belongs to the body as a whole. -/
lemma extent_code_blockComment (depth : Nat) {c : Char} {cs : Text}
    (hblock : c = '/' ∧ cs.head? = some '*') :
    extent .code depth (c :: cs) =
      (firstToken c cs).1.text ++ extent .code depth (firstToken c cs).2 := by
  obtain ⟨rfl, hstar⟩ := hblock
  obtain ⟨ds, rfl⟩ := List.head?_eq_some_iff.mp hstar
  rw [firstToken, if_neg (by simp), if_pos ⟨rfl, rfl⟩, extent, extent_blockComment]
  rfl

/-- In code, a comment that ends with the line belongs to the body as a whole. -/
lemma extent_code_lineComment (depth : Nat) {c : Char} {cs : Text}
    (hline : c = '#' ∨ c = '/' ∧ cs.head? = some '/') :
    extent .code depth (c :: cs) =
      (firstToken c cs).1.text ++ extent .code depth (firstToken c cs).2 := by
  rcases hline with rfl | ⟨rfl, hslash⟩
  · rw [firstToken, if_neg (by simp), if_neg (by simp), if_pos (Or.inl rfl),
      extent_code_cons depth (by simp) (by simp), if_neg (by simp), if_pos rfl, extent_lineComment]
    rfl
  · obtain ⟨ds, rfl⟩ := List.head?_eq_some_iff.mp hslash
    have hcut : cutAfter "\n".toList ('/' :: ds) =
        ('/' :: (cutAfter "\n".toList ds).1, (cutAfter "\n".toList ds).2) := by
      simp [cutAfter, after?]
    rw [firstToken, if_neg (by simp), if_neg (by simp), if_pos (Or.inr ⟨rfl, rfl⟩), extent,
      extent_lineComment, hcut]
    rfl

/-- In code, a string or comment at the front belongs to the body as a whole. -/
lemma extent_code_opened (depth : Nat) {c : Char} {cs : Text}
    (h : ∀ d, (firstToken c cs).1 ≠ .single d) :
    extent .code depth (c :: cs) =
      (firstToken c cs).1.text ++ extent .code depth (firstToken c cs).2 := by
  by_cases hquote : c = '\'' ∨ c = '"'
  · exact extent_code_string depth cs hquote
  by_cases hblock : c = '/' ∧ cs.head? = some '*'
  · exact extent_code_blockComment depth hblock
  by_cases hline : c = '#' ∨ c = '/' ∧ cs.head? = some '/'
  · exact extent_code_lineComment depth hline
  rw [firstToken_of_single hquote hblock hline] at h
  exact absurd rfl (h c)

/-- In code, a single character belongs to the body, which then goes on if no brace is closed or if
another one is open. -/
lemma extent_code_single (depth : Nat) {c d : Char} {cs : Text}
    (h : (firstToken c cs).1 = .single d) :
    firstToken c cs = (.single c, cs) ∧ extent .code depth (c :: cs) =
      if c = '{' then c :: extent .code (depth + 1) cs
      else if c = '}' then if depth = 1 then [c] else c :: extent .code (depth - 1) cs
      else c :: extent .code depth cs := by
  have hopens : ¬ (c = '\'' ∨ c = '"') ∧ ¬ (c = '/' ∧ cs.head? = some '*') ∧
      ¬ (c = '#' ∨ c = '/' ∧ cs.head? = some '/') := by
    unfold firstToken at h
    split_ifs at h with hquote hblock hline
    exact ⟨hquote, hblock, hline⟩
  obtain ⟨hquote, hblock, hline⟩ := hopens
  refine ⟨firstToken_of_single hquote hblock hline, ?_⟩
  rw [extent_code_cons depth hblock (fun h => hline (Or.inr h)), if_neg hquote,
    if_neg fun h => hline (Or.inl h)]

/-- A string or comment stands in front of the balanced front part of what follows. -/
lemma texts_balancedFront_cons {depth : Nat} {token : Token} {ts : List Token}
    (h : ∀ c, token ≠ .single c) :
    texts (balancedFront depth (token :: ts)) = token.text ++ texts (balancedFront depth ts) := by
  rw [balancedFront_cons (closes_other (h _) (h _))]
  rfl

/-- In code that stands behind open braces, the body goes on as far as the balanced front part of the
tokens. -/
lemma extent_code {depth : Nat} (hdepth : 1 ≤ depth) (t : Text) :
    extent .code depth t = texts (balancedFront depth (tokens t)) := by
  -- What follows the first token is shorter, whatever the token is.
  induction h : t.length using Nat.strong_induction_on generalizing t depth with
  | _ n ih =>
    cases t with
    | nil => simp [extent, texts]
    | cons c cs =>
      subst h
      have hrest : ∀ {d : Nat}, 1 ≤ d → extent .code d (firstToken c cs).2 =
          texts (balancedFront d (tokens (firstToken c cs).2)) :=
        fun hd => ih _ (length_firstToken_lt c cs) hd _ rfl
      rw [tokens_cons]
      by_cases hopened : ∀ d, (firstToken c cs).1 ≠ .single d
      · rw [texts_balancedFront_cons hopened, ← hrest hdepth, extent_code_opened depth hopened]
      -- What is left is a single character, of which the braces count.
      obtain ⟨d, hsingle⟩ := not_forall_not.mp hopened
      obtain ⟨hfirst, hextent⟩ := extent_code_single depth hsingle
      rw [hfirst] at hrest ⊢
      rw [hextent]
      by_cases hopen : c = '{'
      · subst hopen
        rw [if_pos rfl, balancedFront_cons (closes_opening depth), hrest (by omega)]
        rfl
      rw [if_neg hopen]
      by_cases hclose : c = '}'
      · subst hclose
        rw [if_pos rfl]
        by_cases hone : depth = 1
        · subst hone
          rw [if_pos rfl, balancedFront_last]
          rfl
        · rw [if_neg hone, balancedFront_cons (closes_closing (by omega)), hrest (by omega)]
          rfl
      · rw [if_neg hclose, balancedFront_cons (closes_other (by simpa) (by simpa)), hrest hdepth]
        rfl

/-- The body at the front of a text that begins with an opening brace is what the balanced front part
of its tokens takes up. -/
lemma ofText_eq (cs : Text) :
    ofText ('{' :: cs) = texts (balancedFront 0 (tokens ('{' :: cs))) := by
  have hfirst : firstToken '{' cs = (.single '{', cs) := firstToken_of_single (by simp) (by simp)
    (by simp)
  rw [tokens_cons, hfirst, balancedFront_cons (closes_opening 0), ofText,
    extent_code_cons 0 (by simp) (by simp), if_neg (by simp), if_neg (by simp), if_pos rfl,
    extent_code (by omega)]
  rfl

/-- The tokens of a balanced front part take up a front part of the text. -/
lemma isPrefix_texts_balancedFront (depth : Nat) (t : Text) :
    texts (balancedFront depth (tokens t)) <+: t := by
  have hfront : balancedFront depth (tokens t) <+: tokens t := by
    rw [balancedFront]
    cases hfind : List.find? (closes depth) (tokens t).inits with
    | none => exact List.prefix_rfl
    | some front => exact (List.mem_inits _ _).mp (List.mem_of_find?_eq_some hfind)
  obtain ⟨rest, hrest⟩ := hfront
  refine ⟨texts rest, ?_⟩
  calc texts (balancedFront depth (tokens t)) ++ texts rest
      = texts (balancedFront depth (tokens t) ++ rest) := List.flatMap_append.symm
    _ = t := by rw [hrest, texts_tokens]

end RelationAtlas.Body
