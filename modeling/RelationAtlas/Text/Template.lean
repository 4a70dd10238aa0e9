import RelationAtlas.Text.Numeral
import RelationAtlas.Text.Quoted
import RelationAtlas.Assoc

/-!
# Templates

A template is a text with fields in braces.  A field names a value, and a specification after a colon
says how the value is written; a conversion between an exclamation mark and the colon asks for the
value's plain text instead.  A brace that is meant as such is written twice.

The specification is a template itself, but there it ends: a field in the specification of a field in
a specification is refused.  Values are known by name only, neither by position nor by their parts.

A template is taken apart from left to right (`parts`).  When something is wrong with it, the parts
before that place are known, so that whoever fills the template can say what is wrong first.
-/

namespace RelationAtlas

/-- Why a template cannot be filled. -/
inductive TemplateFault where
  | loneOpening
  | loneClosing
  | unclosed
  | braceInName
  | noConversion
  | noColon
  | unclosedSpecification
  | positional
  | tooManyDigits
  | tooNested
  | unknownName (name : Text)
  | namelessPart
  | unknownPart (kind name : Text)
  | noMembers (kind : Text)
  | unknownConversion (c : Char)
  | tooPrecise
  deriving DecidableEq, Repr

/-- The fault in words. -/
def TemplateFault.message : TemplateFault → Text
  | loneOpening => "Single '\x7b' encountered in format string".toList
  | loneClosing => "Single '\x7d' encountered in format string".toList
  | unclosed => "expected '\x7d' before end of string".toList
  | braceInName => "unexpected '\x7b' in field name".toList
  | noConversion => "end of string while looking for conversion specifier".toList
  | noColon => "expected ':' after conversion specifier".toList
  | unclosedSpecification => "unmatched '\x7b' in format spec".toList
  | positional => "Format string contains positional fields".toList
  | tooManyDigits => "Too many decimal digits in format string".toList
  | tooNested => "Max string recursion exceeded".toList
  | unknownName name => Text.quoted name
  | namelessPart => "Empty attribute in format string".toList
  | unknownPart kind name =>
    '\'' :: kind ++ "' object has no attribute '".toList ++ name ++ ['\'']
  | noMembers kind => '\'' :: kind ++ "' object is not subscriptable".toList
  | unknownConversion c =>
    "Unknown conversion specifier ".toList
      ++ if '!' ≤ c ∧ c ≤ '~' then [c] else '\\' :: 'x' :: Nat.toDigits 16 c.toNat
  | tooPrecise =>
    ("Invalid time format: the provided format string contains more than six successive 'S' " ++
      "characters. This may be due to an attempt to use nanosecond precision, which is not " ++
      "supported.").toList

namespace Template

/-! ## Parts -/

/-- A field of a template. -/
structure Field where
  name : Text
  conversion : Option Char
  specification : Text
  deriving DecidableEq, Repr

/-- A part of a template. -/
inductive Part where
  | text (t : Text)
  | field (f : Field)
  deriving DecidableEq, Repr

/-- Reads a name up to the character that ends it.  Between square brackets every character is part
of the name; the first argument says whether reading is there. -/
def nameSpan : Bool → Text → Except TemplateFault (Text × Char × Text)
  | _, [] => .error .unclosed
  | true, c :: cs => (nameSpan (c ≠ ']') cs).map fun (name, stop) => (c :: name, stop)
  | false, c :: cs =>
    if c = '{' then .error .braceInName
    else if c = '}' ∨ c = ':' ∨ c = '!' then .ok ([], c, cs)
    else (nameSpan (c = '[') cs).map fun (name, stop) => (c :: name, stop)

/-- Reads a specification up to the brace that closes its field, when the given number of braces is
open in it. -/
def specificationSpan : Nat → Text → Except TemplateFault (Text × Text)
  | _, [] => .error .unclosedSpecification
  | depth, c :: cs =>
    if c = '}' ∧ depth = 0 then .ok ([], cs)
    else
      let depth := if c = '{' then depth + 1 else if c = '}' then depth - 1 else depth
      (specificationSpan depth cs).map fun (body, rest) => (c :: body, rest)

/-- Reads a field after its opening brace. -/
def field (t : Text) : Except TemplateFault (Field × Text) := do
  let (name, stop, rest) ← nameSpan false t
  if stop = '}' then return (⟨name, none, []⟩, rest)
  else if stop = ':' then
    let (body, rest) ← specificationSpan 0 rest
    return (⟨name, none, body⟩, rest)
  else match rest with
    | [] => .error .noConversion
    | c :: '}' :: rest => return (⟨name, some c, []⟩, rest)
    | [_] => .error .unclosedSpecification
    | c :: ':' :: rest =>
      let (body, rest) ← specificationSpan 0 rest
      return (⟨name, some c, body⟩, rest)
    | _ => .error .noColon

/-- One more part before the others. -/
def after (p : Part) (found : List Part × Option TemplateFault) :
    List Part × Option TemplateFault :=
  (p :: found.1, found.2)

/-- The parts of a template up to the first fault; the first argument bounds their number. -/
def partsWithin : Nat → Text → List Part × Option TemplateFault
  | 0, _ => ([], none)
  | n + 1, t =>
    match t with
    | [] => ([], none)
    | ['{'] => ([], some .loneOpening)
    | '{' :: '{' :: rest => after (.text ['{']) (partsWithin n rest)
    | '}' :: '}' :: rest => after (.text ['}']) (partsWithin n rest)
    | '}' :: _ => ([], some .loneClosing)
    | '{' :: rest =>
      match field rest with
      | .ok (f, rest) => after (.field f) (partsWithin n rest)
      | .error fault => ([], some fault)
    | c :: rest => after (.text [c]) (partsWithin n rest)

/-- The parts of a template up to the first fault, and the fault. -/
def parts (t : Text) : List Part × Option TemplateFault := partsWithin t.length t

/-! ## Filling -/

/-- A value that a template can name: what it is called in faults, and how it is written where a
specification asks for it. -/
structure Value where
  kind : Text
  write : Text → Except TemplateFault Text

/-- The highest position that can be written. -/
def positionLimit : Nat := 0x7fffffffffffffff

/-- Is the text a position?  It is if it consists of digits, and too many digits are a fault even if
something else follows. -/
def isPosition : Nat → Text → Except TemplateFault Bool
  | _, [] => .ok true
  | n, c :: cs =>
    match Text.digitValue? c with
    | none => .ok false
    | some d =>
      if positionLimit < 10 * n + d then .error .tooManyDigits else isPosition (10 * n + d) cs

/-- Checks what is asked for behind the name of a value. -/
def checkParts (v : Value) : Text → Except TemplateFault Unit
  | [] => .ok ()
  | '.' :: t =>
    match t.takeWhile fun c => c ≠ '.' ∧ c ≠ '[' with
    | [] => .error .namelessPart
    | name => .error (.unknownPart v.kind name)
  | _ :: t => do
    let name := t.takeWhile (· ≠ ']')
    let _ ← isPosition 0 name
    if name = [] then .error .namelessPart else .error (.noMembers v.kind)

/-- The value that a field names. -/
def valueOf (values : Assoc Text Value) (name : Text) : Except TemplateFault Value := do
  let first := name.takeWhile fun c => c ≠ '.' ∧ c ≠ '['
  if ← isPosition 0 first then .error .positional
  else match values.get? first with
    | none => .error (.unknownName first)
    | some v =>
      checkParts v (name.drop first.length)
      return v

/-- The text of a field; `fill` fills its specification. -/
def fieldText (values : Assoc Text Value) (fill : Text → Except TemplateFault Text) (f : Field) :
    Except TemplateFault Text := do
  let v ← valueOf values f.name
  match f.conversion with
  | none => v.write (← if f.specification.any (· = '{') then fill f.specification
      else .ok f.specification)
  | some c =>
    if c = 's' ∨ c = 'r' ∨ c = 'a' then v.write [] else .error (.unknownConversion c)

/-- The text of a part. -/
def partText (values : Assoc Text Value) (fill : Text → Except TemplateFault Text) :
    Part → Except TemplateFault Text
  | .text t => .ok t
  | .field f => fieldText values fill f

/-- Fills a template in which fields may be nested to the given depth. -/
def fillWithin (values : Assoc Text Value) : Nat → Text → Except TemplateFault Text
  | 0, _ => .error .tooNested
  | n + 1, t => do
    let (ps, fault) := parts t
    let texts ← ps.mapM (partText values (fillWithin values n))
    match fault with
    | none => return texts.flatten
    | some f => .error f

/-- Fills a template.  A template that is not well formed is refused before its fields are looked
at. -/
def fill (values : Assoc Text Value) (t : Text) : Except TemplateFault Text :=
  match (parts t).2 with
  | some f => .error f
  | none => fillWithin values 2 t

end Template

end RelationAtlas
