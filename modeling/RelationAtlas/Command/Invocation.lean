import RelationAtlas.Command.Options
import RelationAtlas.Settings.Basic

/-!
# What the command line asks for

The command line names a task.  One task writes the graph of a project, the other serves it; each
has options of its own, and the level of the log is chosen before the task.  What is not said is
taken from the settings.  A double dash in the place of a value takes the value away without putting
another one there.
-/

namespace RelationAtlas.Command

open Options

/-- The task of writing the graph of a project. -/
structure Analysis where
  path : Text
  output : Option Text
  summary : Bool
  workers : Option Int
  deriving DecidableEq, Repr

/-- The task of serving graphs. -/
structure Service where
  host : Option Text
  port : Option Int
  reload : Bool
  deriving DecidableEq, Repr

/-- What a run is for. -/
inductive Task where
  | analyze (a : Analysis)
  | serve (s : Service)
  deriving DecidableEq, Repr

/-- A run of the command line. -/
structure Invocation where
  logLevel : Option Text
  task : Task
  deriving DecidableEq, Repr

/-! ## The tasks -/

/-- The integer that an argument has to be. -/
def numberOf (t : Text) : Except Ending Int :=
  match Text.argumentNumber? t with
  | some n => .ok n
  | none => .error .misuse

/-- The arguments of the task of writing a graph. -/
def analysisGrammar : Grammar Analysis where
  specs := [helpSpec,
    ⟨["-o".toList, "--output".toList], .value fun v a => .ok { a with output := v }⟩,
    ⟨["--summary".toList], .flag fun a => .ok { a with summary := true }⟩,
    ⟨["--workers".toList], .value fun v a => do return { a with workers := ← v.mapM numberOf }⟩]
  positional := .one fun t a => { a with path := t }

/-- The task of writing a graph before its arguments have been read. -/
def plainAnalysis : Analysis := ⟨[], none, false, none⟩

/-- The arguments of the task of serving graphs. -/
def serviceGrammar : Grammar Service where
  specs := [helpSpec,
    ⟨["--host".toList], .value fun v s => .ok { s with host := v }⟩,
    ⟨["--port".toList], .value fun v s => do return { s with port := ← v.mapM numberOf }⟩,
    ⟨["--reload".toList], .flag fun s => .ok { s with reload := true }⟩]
  positional := .none

/-- The task of serving graphs before its arguments have been read. -/
def plainService (settings : Settings) : Service :=
  ⟨some settings.host, some settings.port, false⟩

/-- The task of a name, with its arguments. -/
def task (settings : Settings) (name : Text) (args : List Text) : Except Ending Task :=
  if name = "analyze".toList then (parse analysisGrammar plainAnalysis args).map .analyze
  else if name = "serve".toList then
    (parse serviceGrammar (plainService settings) args).map .serve
  else .error .misuse

/-! ## The whole command line -/

/-- What has been understood of a command line. -/
structure Draft where
  logLevel : Option Text
  task : Option Task

/-- The arguments of the command line. -/
def grammar (settings : Settings) : Grammar Draft where
  specs := [helpSpec, ⟨["--log-level".toList], .value fun v d => .ok { d with logLevel := v }⟩]
  positional := .rest fun name args d => do
    return { d with task := some (← task settings name args) }

/-- What a list of arguments asks for. -/
def Invocation.ofArguments (settings : Settings) (args : List Text) :
    Except Ending Invocation := do
  let draft ← parse (grammar settings) ⟨some settings.logLevel, none⟩ args
  match draft.task with
  | some t => return ⟨draft.logLevel, t⟩
  | none => .error .misuse

end RelationAtlas.Command
