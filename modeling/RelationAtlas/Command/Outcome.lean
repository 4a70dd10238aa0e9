import RelationAtlas.Command.Invocation
import RelationAtlas.Command.Journal
import RelationAtlas.Graph.Payload
import RelationAtlas.Graph.Summary
import RelationAtlas.Scan
import RelationAtlas.Session

/-!
# What a run of the command line comes to

A run writes the graph to standard output, or to a file if one is named, and everything that is for
the reader alone to standard error: the remarks that are shown, and the summary after them.  It ends
with a status, which is 2 when there is no project at the root.  Faults of any other kind end the run
where they arise; what has been written to the disk until then stays there.
-/

namespace RelationAtlas.Command

/-- How a run ends. -/
inductive Outcome where
  | ended (e : Options.Ending)
  | done (status : Nat) (output errors : Text)
  | served (s : Service) (errors : Text)
  deriving DecidableEq, Repr

/-- What stops a run. -/
inductive Fault where
  | settings (f : SettingsFault)
  | noLevel (name : Text)
  | namelessLevel
  | journal (f : JournalFault)
  | write (f : WriteFault)
  | scan (f : ScanFault)
  deriving DecidableEq, Repr

/-- The fault in words. -/
def Fault.message : Fault → Text
  | settings f => f.message
  | noLevel name => "Level '".toList ++ name ++ "' does not exist".toList
  | namelessLevel => "Invalid level, it should be an integer or a string, not: 'list'".toList
  | journal f => f.message
  | write f => f.message
  | scan f => f.message

/-- The level of a name. -/
def levelOf : Option Text → Except Fault Log.Level
  | none => .error .namelessLevel
  | some name =>
    match Log.Level.named? name with
    | some l => .ok l
    | none => .error (.noLevel name)

/-! ## Writing a graph -/

/-- The text of the graph, as it is written. -/
def graphText (g : Graph) : Text := g.payload.json.text ++ ['\n']

/-- The file that the graph goes to; an empty name means standard output. -/
def Analysis.file? (a : Analysis) : Option Text := a.output.filter (· ≠ [])

/-- The settings of a run, in which the command line has a say. -/
def Analysis.settle (a : Analysis) (s : Settings) : Settings :=
  match a.workers with
  | some n => { s with maxWorkers := some n }
  | none => s

/-- The summary of a graph as lines. -/
def summaryText (g : Graph) (root : Text) : Text :=
  let s := g.summary (some root)
  (s.overview :: (s.message.toList ++ g.nodeIds.map g.modelSummary)).flatMap (· ++ ['\n'])

/-- The summary, if it is wanted. -/
def Analysis.summaryText (a : Analysis) (g : Graph) (root : Text) : Text :=
  if a.summary then Command.summaryText g root else []

/-- The remark on a root where there is no project. -/
def noRootRecord (root : Text) : Log.Record :=
  ⟨.error, (SearchFault.noRoot root).message⟩

/-- The remark on a graph that has been written to a file. -/
def writtenRecord (file : Text) : Log.Record := ⟨.info, "Wrote graph to ".toList ++ file⟩

/-- The task of writing a graph, on a disk where the journal has been begun. -/
def Analysis.run (a : Analysis) (codecs : Codecs) (s : Settings) (j : Journal) (d : Disk) :
    Disk × Except Fault Outcome :=
  let root := d.absolute a.path
  let report := Scan.project codecs d root (a.settle s)
  let kept := j.keep d report.remarks
  match report.result with
  | .error (.search (.noRoot _)) =>
    (j.keep kept [noRootRecord root],
      .ok (.done 2 [] (j.text (report.remarks ++ [noRootRecord root]))))
  | .error f => (kept, .error (.scan f))
  | .ok g =>
    match a.file? with
    | none =>
      (kept, .ok (.done 0 (graphText g) (j.text report.remarks ++ a.summaryText g root)))
    | some file =>
      match writeText kept file (graphText g) with
      | .error f => (kept, .error (.write f))
      | .ok written =>
        (j.keep written [writtenRecord file],
          .ok (.done 0 [] (j.text (report.remarks ++ [writtenRecord file])
            ++ a.summaryText g root)))

/-! ## Runs -/

/-- A run whose arguments have been understood, begun at some moment. -/
def Invocation.run (i : Invocation) (codecs : Codecs) (s : Settings) (now : Moment) (d : Disk) :
    Disk × Except Fault Outcome :=
  match levelOf i.logLevel with
  | .error f => (d, .error f)
  | .ok level =>
    match Journal.start now d level s.logFile with
    | (d, .error f) => (d, .error (.journal f))
    | (d, .ok j) =>
      match i.task with
      | .analyze a => a.run codecs s j d
      | .serve service => (d, .ok (.served service []))

/-- A run that has written something to standard error before everything else. -/
def Outcome.saidFirst (said : Text) : Outcome → Outcome
  | ended e => .ended e
  | done status output errors => .done status output (said ++ errors)
  | served s errors => .served s (said ++ errors)

/-- The session after a run of the command line, and how the run ends. -/
def run (s : Session) (args : List Text) : Session × Except Fault Outcome :=
  match s.settings with
  | .error f => (s, .error (.settings f))
  | .ok settings =>
    match Invocation.ofArguments settings args with
    | .error e => (s.settle, .ok (.ended e))
    | .ok i =>
      let (d, result) := i.run s.codecs settings s.now s.disk
      let said := s.notices.flatMap (· ++ ['\n'])
      (s.settle.withDisk d, result.map (·.saidFirst said))

/-- A run leaves loaded what it has found, whatever its arguments are and however it ends. -/
theorem loaded_run (s : Session) (args : List Text) :
    (run s args).1.loaded = s.settings.toOption := by
  unfold run
  cases hsettings : s.settings with
  | error f => exact Session.loaded_eq_none hsettings
  | ok v =>
    have hsettle : s.settle.loaded = some v := by rw [Session.settle, hsettings]; rfl
    dsimp only
    cases Invocation.ofArguments v args with
    | error e => exact hsettle
    | ok i => exact hsettle

end RelationAtlas.Command
