import RelationAtlas.Assoc
import RelationAtlas.Text.Blank

/-!
# Variable files

A variable file gives values to names, one binding to a line.  A value may be quoted, and then it may
hold escapes and run over several lines; a comment may follow it, or stand in its place.  A name
without an equals sign is bound to nothing.  A statement that makes no sense is passed over, but the
line it begins on is known (`unclearLines`).

A value may refer to other variables, by a dollar sign and a name in braces, with a default that is
used when there is no such variable.  What the file itself has bound so far comes before the
environment.

The file is given with its line ends unified.  A byte order mark at its front does not count.
-/

namespace RelationAtlas.VariableFile

open Text

/-! ## Bindings as they are written -/

/-- Is the character a blank inside a line? -/
def isLineBlank (c : Char) : Bool := isBlank c && c != '\n' && c != '\r'

/-- Can the character stand in a name that is not quoted? -/
def isBareKeyChar (c : Char) : Bool := !isBlank c && c != '=' && c != '#'

/-- Reads quoted text up to the quote that closes it.  A backslash takes the character behind it
along, so that a quote there does not close the text. -/
def quotedSpan? (quote : Char) : Text → Option (Text × Text)
  | [] => none
  | '\\' :: c :: rest => (quotedSpan? quote rest).map fun (body, after) => ('\\' :: c :: body, after)
  | c :: rest =>
    if c = quote then some ([], rest)
    else (quotedSpan? quote rest).map fun (body, after) => (c :: body, after)

/-- The text with its escapes resolved; `escape?` says what a backslash and a character stand
for. -/
def unescape (escape? : Char → Option Char) : Text → Text
  | '\\' :: c :: rest =>
    match escape? c with
    | some d => d :: unescape escape? rest
    | none => '\\' :: unescape escape? (c :: rest)
  | c :: rest => c :: unescape escape? rest
  | [] => []

/-- The escapes between single quotes. -/
def singleEscape? (c : Char) : Option Char := if c = '\\' ∨ c = '\'' then some c else none

/-- The escapes between double quotes. -/
def doubleEscape? : Char → Option Char
  | '\\' => some '\\'
  | '\'' => some '\''
  | '"' => some '"'
  | 'a' => some '\x07'
  | 'b' => some '\x08'
  | 'f' => some '\x0c'
  | 'n' => some '\n'
  | 'r' => some '\r'
  | 't' => some '\t'
  | 'v' => some '\x0b'
  | _ => none

/-- A bare value without the comment that blanks and a number sign begin. -/
def dropComment : Text → Text
  | [] => []
  | c :: rest =>
    if isBlank c && (dropBlanks rest).head? == some '#' then [] else c :: dropComment rest

/-- Reads a value that is not quoted, with the blanks before it. -/
def bareValue (t : Text) : Text × Text :=
  (trim (dropComment (t.takeWhile (· ≠ '\n'))), t.dropWhile (· ≠ '\n'))

/-- Reads a value after the equals sign. -/
def value? (t : Text) : Option (Text × Text) :=
  match t.dropWhile isLineBlank with
  | '\'' :: rest => (quotedSpan? '\'' rest).map fun (v, after) => (unescape singleEscape? v, after)
  | '"' :: rest => (quotedSpan? '"' rest).map fun (v, after) => (unescape doubleEscape? v, after)
  | _ => some (bareValue t)

/-- Reads a name. -/
def key? : Text → Option (Text × Text)
  | '\'' :: rest =>
    match run? (· ≠ '\'') rest with
    | some (k, '\'' :: after) => some (k, after)
    | _ => none
  | t => run? isBareKeyChar t

/-- The text without the word that marks a variable for export. -/
def dropExport (t : Text) : Text :=
  match after? "export".toList t with
  | some (c :: rest) => if isLineBlank c then rest.dropWhile isLineBlank else t
  | _ => t

/-- What follows the end of the line, if only blanks and a comment stand before it. -/
def afterLine? (t : Text) : Option Text :=
  let t := t.dropWhile isLineBlank
  let t := if t.head? = some '#' then t.dropWhile (· ≠ '\n') else t
  match t with
  | [] => some []
  | '\n' :: rest => some rest
  | _ => none

/-- What follows the end of the line, whatever stands before it. -/
def skipLine (t : Text) : Text := (t.dropWhile (· ≠ '\n')).drop 1

/-- A name and what it is bound to. -/
abbrev Binding := Text × Option Text

/-- What a statement says. -/
inductive Statement where
  | binding (b : Binding)
  | comment
  | unclear
  deriving DecidableEq, Repr

/-- The binding of a statement, if it has one. -/
def Statement.binding? : Statement → Option Binding
  | binding b => some b
  | _ => none

/-- Reads what stands behind a name: an equals sign and a value, or nothing.  The second part is
where reading goes on.  If the value makes no sense, the text is given back from there on. -/
def assignment (t : Text) : Except Text (Option Text × Text) :=
  match t.dropWhile isLineBlank with
  | '=' :: rest =>
    match value? rest with
    | some (v, after) => .ok (some v, after)
    | none => .error rest
  | t => .ok (none, t)

/-- Reads one statement and gives what follows it.  The text begins with a character that is not
blank. -/
def statement (t : Text) : Statement × Text :=
  let t := dropExport t
  if t.head? = some '#' then (.comment, skipLine t)
  else match key? t with
    | none => (.unclear, skipLine t)
    | some (k, t) =>
      match assignment t with
      | .error t => (.unclear, skipLine t)
      | .ok (v, t) =>
        match afterLine? t with
        | some rest => (.binding (k, v), rest)
        | none => (.unclear, skipLine t)

/-- How many lines end in the text? -/
def lineEnds (t : Text) : Nat := t.count '\n'

/-- The statements of a text and the lines they begin on, when its first line has the given number.
Blank lines belong to the statement that follows them.  The first argument bounds the number of
statements. -/
def statementsWithin : Nat → Nat → Text → List (Nat × Statement)
  | 0, _, _ => []
  | n + 1, number, t =>
    match dropBlanks t with
    | [] => []
    | c :: cs =>
      let (s, rest) := statement (c :: cs)
      (number, s) :: statementsWithin n (number + (lineEnds t - lineEnds rest)) rest

/-- The text without the byte order mark at its front. -/
def dropMark : Text → Text
  | '\ufeff' :: t => t
  | t => t

/-- The statements of a file and the lines they begin on. -/
def statements (t : Text) : List (Nat × Statement) := statementsWithin t.length 1 (dropMark t)

/-- The bindings of a file in order. -/
def bindings (t : Text) : List Binding := (statements t).filterMap (·.2.binding?)

/-- The lines on which statements begin that make no sense. -/
def unclearLines (t : Text) : List Nat :=
  (statements t).filterMap fun (number, s) => if s = .unclear then some number else none

/-! ## References to other variables -/

/-- Reads a reference after its dollar sign: a name in braces, and a default after a colon and a
minus sign. -/
def reference? : Text → Option (Text × Option Text × Text)
  | '{' :: t =>
    let name := t.takeWhile fun c => c ≠ '}' ∧ c ≠ ':'
    match t.dropWhile fun c => c ≠ '}' ∧ c ≠ ':' with
    | '}' :: rest => some (name, none, rest)
    | ':' :: '-' :: t =>
      match t.dropWhile (· ≠ '}') with
      | _ :: rest => some (name, some (t.takeWhile (· ≠ '}')), rest)
      | [] => none
    | _ => none
  | _ => none

/-- What a reference stands for: a variable that is bound to nothing is empty, and one that is not
bound is its default. -/
def resolve (lookup : Text → Option (Option Text)) (name : Text) (default : Option Text) : Text :=
  match lookup name with
  | some value => value.getD []
  | none => default.getD []

/-- The value with its references resolved; the first argument bounds its length. -/
def expandWithin (lookup : Text → Option (Option Text)) : Nat → Text → Text
  | 0, t => t
  | _ + 1, [] => []
  | n + 1, c :: rest =>
    match if c = '$' then reference? rest else none with
    | some (name, default, rest) => resolve lookup name default ++ expandWithin lookup n rest
    | none => c :: expandWithin lookup n rest

/-- The value with its references resolved. -/
def expand (lookup : Text → Option (Option Text)) (v : Text) : Text :=
  expandWithin lookup v.length v

/-- The variables after one more binding. -/
def bind (environment : Assoc Text Text) (bound : Assoc Text (Option Text)) (b : Binding) :
    Assoc Text (Option Text) :=
  bound.put b.1 (b.2.map (expand fun name =>
    match bound.get? name with
    | some value => some value
    | none => (environment.get? name).map some))

/-- The variables that a file binds in the given environment. -/
def valuesOf (environment : Assoc Text Text) (t : Text) : Assoc Text (Option Text) :=
  (bindings t).foldl (bind environment) []

end RelationAtlas.VariableFile
