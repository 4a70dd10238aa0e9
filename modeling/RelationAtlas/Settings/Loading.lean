import RelationAtlas.Encoding.Utf8
import RelationAtlas.Json.Number
import RelationAtlas.Settings.Basic
import RelationAtlas.Settings.VariableFile
import RelationAtlas.Text.Lines
import RelationAtlas.Text.Numeral
import RelationAtlas.Tree.Disk

/-!
# Where settings come from

A setting is what the caller says it is, or else what a variable of the environment says, or else
what the variable file in the working directory says, or else its default.  A source hides the ones
after it before anything is checked.  Names are compared without regard to case.  Variables hold
text; the text of a list is the text of a structured value, and one that cannot be read is a fault
even where it is hidden.

All values are checked, and all faults are reported, in the order of the settings.  Statements of the
variable file that make no sense are no fault; there is a notice for each of them (`notices`).
-/

namespace RelationAtlas.Settings

/-- What a source says about the settings. -/
abbrev Layer := Setting → Option Json

/-! ## Names -/

/-- A character in lower case, as far as it concerns the letters of variable names.  The sign for
kelvins is one of the two capitals of its letter. -/
def lowerChar (c : Char) : Char := if c = '\u212a' then 'k' else c.toLower

/-- A name in lower case. -/
def lowerName (name : Text) : Text := name.map lowerChar

/-- What the caller says about the settings.  Of values that are given under the same name, the first
one counts. -/
def callerLayer (given : Assoc Text Json) : Layer := fun s =>
  (given.find? fun (name, _) => lowerName name = s.name).map (·.2)

/-! ## Variables -/

/-- The variables with their names in lower case, later ones replacing earlier ones. -/
def lowered (bound : Assoc Text (Option Text)) : Assoc Text (Option Text) :=
  Assoc.ofPairs (bound.map fun (name, value) => (lowerName name, value))

/-- The variable that holds a setting. -/
def variableName (s : Setting) : Text := "modelgraph_".toList ++ s.name

/-- The text that a setting has among the variables. -/
def textOf? (bound : Assoc Text (Option Text)) (s : Setting) : Option Text :=
  (bound.get? (variableName s)).join

/-- The structured value of a list among the variables; a null counts as nothing. -/
def structured? (source : TextSource) (bound : Assoc Text (Option Text)) (s : Setting) :
    Except SettingsFault (Option Json) :=
  match textOf? bound s with
  | none => .ok none
  | some t =>
    match Json.ofText t with
    | .error .malformed => .error (.unstructured s source)
    | .error (.tooDeep n) => .error (.tooDeep n)
    | .ok .null => .ok none
    | .ok v => .ok (some v)

/-- What the variables say about the settings. -/
def layer (source : TextSource) (bound : Assoc Text (Option Text)) :
    Except SettingsFault Layer := do
  let globs ← structured? source bound .candidateGlobs
  let dirs ← structured? source bound .excludeDirs
  return fun
    | .candidateGlobs => globs
    | .excludeDirs => dirs
    | s => (textOf? bound s).map fun t => .string (Json.codesOf t)

/-- The name of the variable file. -/
def variableFileName : Text := ".env".toList

/-- The text of the variable file in the working directory; it is empty where there is no such
file. -/
def fileText (d : Disk) : Except SettingsFault Text :=
  match d.reach variableFileName with
  | .ok (_, .file bytes) =>
    match Utf8.decode bytes with
    | .error f => .error (.undecodable f)
    | .ok t => .ok (Text.unifyLineEnds t)
  | .ok _ => .ok []
  | .error f => if f.meansAbsent then .ok [] else .error (.blocked f variableFileName)

/-- What is said about a statement of the variable file that makes no sense. -/
def notice (line : Nat) : Text :=
  "python-dotenv could not parse statement starting at line ".toList ++ Text.ofNat line

/-- What is said about the variable file while the settings are loaded. -/
def notices (d : Disk) : List Text :=
  match fileText d with
  | .ok t => (VariableFile.unclearLines t).map notice
  | .error _ => []

/-! ## Checking -/

/-- A value that has been checked: what it is taken for, and what is wrong with it. -/
abbrev Checked (α : Type) := α × List Problem

/-- The members of a list that are text, and problems for those that are not, from an index on. -/
def checkMembers (s : Setting) : Nat → List Json → Checked (List Text)
  | _, [] => ([], [])
  | i, v :: rest =>
    let (texts, problems) := checkMembers s (i + 1) rest
    match v with
    | .string codes => (Json.textOf codes :: texts, problems)
    | _ => (texts, ⟨s, some i, .notText⟩ :: problems)

/-- Checks a list of texts. -/
def checkTexts (s : Setting) (default : List Text) : Option Json → Checked (List Text)
  | none => (default, [])
  | some (.array items) => checkMembers s 0 items
  | some _ => (default, [⟨s, none, .notList⟩])

/-- Checks a text. -/
def checkText (s : Setting) (default : Text) : Option Json → Checked Text
  | none => (default, [])
  | some (.string codes) => (Json.textOf codes, [])
  | some _ => (default, [⟨s, none, .notText⟩])

/-- Numbers of other kinds are taken for integers only below this bound. -/
def wordBound : Int := 0x8000000000000000

/-- The integer that a number is taken for, or what is wrong with it. -/
def integerOf : Json.Number → Except ValueFlaw Int
  | .integer n => .ok n
  | .whole n => if -wordBound < n ∧ n < wordBound then .ok n else .error .tooLarge
  | .fractional => .error .fractional
  | .notFinite => .error .notFinite

/-- The integer that a value is taken for, or what is wrong with it. -/
def integer : Json → Except ValueFlaw Int
  | .string codes =>
    match Text.settingNumber (Json.textOf codes) with
    | .ok n => .ok n
    | .error .unreadable => .error .unreadableInteger
    | .error .tooLong => .error .tooLarge
  | .number literal => integerOf (.ofLiteral literal)
  | .bool b => .ok (if b then 1 else 0)
  | _ => .error .notInteger

/-- Checks an integer. -/
def checkInteger (s : Setting) (default : Int) : Option Json → Checked Int
  | none => (default, [])
  | some v =>
    match integer v with
    | .ok n => (n, [])
    | .error flaw => (default, [⟨s, none, flaw⟩])

/-- Checks a value that may also be null. -/
def checkOptional {α : Type} (check : Option Json → Checked α) : Option Json → Checked (Option α)
  | none => (none, [])
  | some .null => (none, [])
  | v => let (a, problems) := check v; (some a, problems)

/-- Checks what is said about all settings. -/
def check (said : Layer) : Except SettingsFault Settings :=
  let globs := checkTexts .candidateGlobs default.candidateGlobs (said .candidateGlobs)
  let dirs := checkTexts .excludeDirs default.excludeDirs (said .excludeDirs)
  let encoding := checkText .encoding default.encoding (said .encoding)
  let workers := checkOptional (checkInteger .maxWorkers 0) (said .maxWorkers)
  let level := checkText .logLevel default.logLevel (said .logLevel)
  let file := checkOptional (checkText .logFile []) (said .logFile)
  let host := checkText .host default.host (said .host)
  let port := checkInteger .port default.port (said .port)
  match globs.2 ++ dirs.2 ++ encoding.2 ++ workers.2 ++ level.2 ++ file.2 ++ host.2 ++ port.2 with
  | [] => .ok ⟨globs.1, dirs.1, encoding.1, workers.1, level.1, file.1, host.1, port.1⟩
  | problems => .error (.invalid problems)

/-- The settings that the caller, the environment and the disk ask for. -/
def load (d : Disk) (environment : Assoc Text Text) (given : Assoc Text Json) :
    Except SettingsFault Settings := do
  let file := VariableFile.valuesOf environment (← fileText d)
  let outer ← layer .environment (lowered (environment.map fun (name, value) => (name, some value)))
  let inner ← layer .variableFile (lowered file)
  check fun s => callerLayer given s <|> outer s <|> inner s

end RelationAtlas.Settings
