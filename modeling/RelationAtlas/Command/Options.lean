import RelationAtlas.Text.Numeral

/-!
# Options on a command line

A grammar lists the options that a command knows.  An option is a flag or takes a value; a long
option may be shortened as long as only one option begins that way, and its value may follow an
equals sign; the value of a short option may follow the letter at once, and so may the letter of
another option if the first one is a flag.  After a double dash everything is positional, and a double
dash that is attached to an option is no value.

The arguments are first sorted into options and positional ones, and then taken in order.  Taking
them ends early when help is asked for or something does not fit, so the first such argument decides
how the command ends.
-/

namespace RelationAtlas.Options

/-- How a command ends that is not run. -/
inductive Ending where
  | help
  | misuse
  deriving DecidableEq, Repr

/-- The status with which the command ends. -/
def Ending.status : Ending → Nat
  | help => 0
  | misuse => 2

/-- What an option does to what has been understood so far.  A value that an option takes is left out
by a double dash. -/
inductive Effect (σ : Type) where
  | flag (act : σ → Except Ending σ)
  | value (act : Option Text → σ → Except Ending σ)

/-- An option. -/
structure Spec (σ : Type) where
  names : List Text
  effect : Effect σ

/-- The option that asks for help. -/
def helpSpec {σ : Type} : Spec σ := ⟨["-h".toList, "--help".toList], .flag fun _ => .error .help⟩

/-- What a grammar does with positional arguments: none is expected, or one, or the first one takes
all arguments that follow. -/
inductive Positional (σ : Type) where
  | none
  | one (act : Text → σ → σ)
  | rest (act : Text → List Text → σ → Except Ending σ)

/-- The arguments that a command understands. -/
structure Grammar (σ : Type) where
  specs : List (Spec σ)
  positional : Positional σ

/-- What an argument is: positional, the double dash that makes what follows positional, an option
under one of its spellings with what is written together with it, or something that looks like an
option and is none. -/
inductive Role (σ : Type) where
  | positional
  | marker
  | option (spec : Spec σ) (spelling : Text) (attached : Option Text)
  | unknown

/-- An argument and what it is. -/
structure Argument (σ : Type) where
  text : Text
  role : Role σ

/-- The double dash. -/
def marker : Text := ['-', '-']

/-! ## Sorting -/

/-- Cuts a text at its first equals sign. -/
def cutAtEquals? (t : Text) : Option (Text × Text) :=
  match t.dropWhile (· ≠ '=') with
  | [] => none
  | _ :: value => some (t.takeWhile (· ≠ '='), value)

/-- The spelling that is shortened to `start`, and its option, in all possible ways. -/
def completions {σ : Type} (specs : List (Spec σ)) (start : Text) : List (Spec σ × Text) :=
  specs.flatMap fun s => (s.names.filter start.isPrefixOf).map fun n => (s, n)

/-- The option of a spelling. -/
def specOf? {σ : Type} (specs : List (Spec σ)) (spelling : Text) : Option (Spec σ) :=
  specs.find? fun s => s.names.contains spelling

/-- Does the text read as a number below zero? -/
def looksNegative (t : Text) : Bool :=
  let digit := fun c => (Text.digitValue? c).isSome
  match t with
  | '-' :: rest =>
    let rest := if rest.getLast? = some '\n' then rest.dropLast else rest
    match rest.dropWhile digit with
    | [] => !rest.isEmpty
    | '.' :: fraction => !fraction.isEmpty && fraction.all digit
    | _ => false
  | _ => false

/-- The ways in which an argument that is no spelling of an option can be taken for one. -/
def candidates {σ : Type} (specs : List (Spec σ)) (t : Text) :
    List (Spec σ × Text × Option Text) :=
  match t with
  | '-' :: '-' :: _ =>
    match cutAtEquals? t with
    | some (start, value) => (completions specs start).map fun (s, n) => (s, n, some value)
    | none => (completions specs t).map fun (s, n) => (s, n, none)
  | '-' :: c :: rest =>
    match specOf? specs ['-', c] with
    | some s => [(s, ['-', c], some rest)]
    | none => []
  | _ => []

/-- What an argument is that begins with a dash. -/
def dashRole {σ : Type} (specs : List (Spec σ)) (t : Text) : Except Ending (Role σ) :=
  match specOf? specs t with
  | some s => .ok (.option s t none)
  | none =>
    match (cutAtEquals? t).bind fun (n, v) => (specOf? specs n).map fun s => (s, n, v) with
    | some (s, n, v) => .ok (.option s n (some v))
    | none =>
      match candidates specs t with
      | [(s, n, v)] => .ok (.option s n v)
      | _ :: _ => .error .misuse
      | [] => .ok (if looksNegative t || t.contains ' ' then .positional else .unknown)

/-- What an argument is. -/
def role {σ : Type} (specs : List (Spec σ)) (t : Text) : Except Ending (Role σ) :=
  match t with
  | '-' :: _ :: _ => dashRole specs t
  | _ => .ok .positional

/-- Sorts the arguments. -/
def sort {σ : Type} (specs : List (Spec σ)) : List Text → Except Ending (List (Argument σ))
  | [] => .ok []
  | t :: rest =>
    if t = marker then .ok (⟨t, .marker⟩ :: rest.map fun u => ⟨u, .positional⟩)
    else do
      let r ← role specs t
      let more ← sort specs rest
      return ⟨t, r⟩ :: more

/-! ## Taking -/

/-- What an option comes to: its effects on what has been understood, and what is done with the value
that still has to follow. -/
structure Taken (σ : Type) where
  acts : List (σ → Except Ending σ)
  awaiting : Option (Option Text → σ → Except Ending σ)

/-- An option that nothing is attached to. -/
def takeBare {σ : Type} (spec : Spec σ) : Taken σ :=
  match spec.effect with
  | .flag act => ⟨[act], none⟩
  | .value act => ⟨[], some act⟩

/-- One more effect before the others. -/
def Taken.after {σ : Type} (act : σ → Except Ending σ) (t : Taken σ) : Taken σ :=
  { t with acts := act :: t.acts }

/-- The value that a text attached to an option stands for. -/
def attachedValue (t : Text) : Option Text := if t = marker then none else some t

/-- Takes an option with what is attached to it.  Behind the letter of a short flag only the letter of
another option may follow. -/
def takeAttached {σ : Type} (specs : List (Spec σ)) (spec : Spec σ) (spelling : Text) :
    Text → Except Ending (Taken σ)
  | [] =>
    match spec.effect with
    | .value act => .ok ⟨[act (some [])], none⟩
    | .flag _ => .error .misuse
  | c :: rest =>
    match spec.effect with
    | .value act => .ok ⟨[act (attachedValue (c :: rest))], none⟩
    | .flag act =>
      if marker.isPrefixOf spelling then .error .misuse
      else match specOf? specs ['-', c] with
        | none => .error .misuse
        | some next =>
          if rest = [] then .ok ((takeBare next).after act)
          else (takeAttached specs next ['-', c] rest).map (·.after act)

/-- Takes an option. -/
def takeOption {σ : Type} (specs : List (Spec σ)) (spec : Spec σ) (spelling : Text) :
    Option Text → Except Ending (Taken σ)
  | some attached => takeAttached specs spec spelling attached
  | none => .ok (takeBare spec)

/-- Applies effects one after another. -/
def applyAll {σ : Type} (acts : List (σ → Except Ending σ)) (state : σ) : Except Ending σ :=
  acts.foldlM (fun state act => act state) state

/-- Where the taking of arguments stands: what has been understood, whether the positional argument is
still to come and whether it was the last one taken, what an option does with the value that it
waits for, and whether something was met that no one asked for. -/
structure Progress (σ : Type) where
  state : σ
  pending : Bool
  named : Bool
  awaiting : Option (Option Text → σ → Except Ending σ)
  surplus : Bool

/-- Takes one argument that is not the value of an option.  A double dash may stand before and right
after the positional argument.  Options that are written together have their effects together, once
the value of the last one has come. -/
def takeOne {σ : Type} (g : Grammar σ) (p : Progress σ) (a : Argument σ) :
    Except Ending (Progress σ) :=
  let p' := { p with named := false }
  match a.role with
  | .positional =>
    match g.positional, p.pending with
    | .one act, true => .ok { p' with state := act a.text p.state, pending := false, named := true }
    | _, _ => .ok { p' with surplus := true }
  | .marker =>
    match g.positional, p.pending with
    | .one _, pending => .ok { p' with surplus := p.surplus || !(pending || p.named) }
    | .rest _, true => .error .misuse
    | _, _ => .ok { p' with surplus := true }
  | .unknown => .ok { p' with surplus := true }
  | .option spec spelling attached => do
    let taken ← takeOption g.specs spec spelling attached
    match taken.awaiting with
    | some act => return { p' with awaiting := some fun v s => do act v (← applyAll taken.acts s) }
    | none => return { p' with state := ← applyAll taken.acts p.state }

/-- Takes the arguments in order. -/
def take {σ : Type} (g : Grammar σ) : List (Argument σ) → Progress σ → Except Ending (Progress σ)
  | [], p => if p.awaiting.isSome then .error .misuse else .ok p
  | a :: rest, p =>
    match p.awaiting, a.role, g.positional, p.pending with
    | some act, .positional, _, _ => do
      take g rest { p with state := ← act (some a.text) p.state, awaiting := none, named := false }
    | some _, _, _, _ => .error .misuse
    | none, .positional, .rest act, true => do
      return { p with state := ← act a.text (rest.map (·.text)) p.state, pending := false }
    | none, _, _, _ => do take g rest (← takeOne g p a)

/-- Does the grammar ask for a positional argument? -/
def Grammar.asks {σ : Type} (g : Grammar σ) : Bool :=
  match g.positional with
  | .none => false
  | _ => true

/-- What the arguments say, starting from `state`. -/
def parse {σ : Type} (g : Grammar σ) (state : σ) (args : List Text) : Except Ending σ := do
  let sorted ← sort g.specs args
  let p ← take g sorted ⟨state, g.asks, false, none, false⟩
  if p.pending || p.surplus then .error .misuse else return p.state

end RelationAtlas.Options
