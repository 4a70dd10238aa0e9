import RelationAtlas.Log
import RelationAtlas.Moment
import RelationAtlas.Text.Template
import RelationAtlas.Tree.Directory

/-!
# The journal of a run

A run keeps the remarks it shows in a journal, if it has been given the name of a file for that.  The
file is begun before anything else is done, and what it says already is kept.

The name of the file is a template, which may ask for the time at which the journal is begun.  The
directory of the name is made before the template is filled, and the directory of the file after
that.
-/

namespace RelationAtlas.Command

/-- Where the remarks of a run go. -/
structure Journal where
  threshold : Log.Level
  path : Option Text

/-- Why a file cannot be written. -/
inductive WriteFault where
  | nulInPath
  | blocked (f : FileFault) (path : Text)
  deriving DecidableEq, Repr

/-- The fault in words. -/
def WriteFault.message : WriteFault → Text
  | nulInPath => "embedded null byte".toList
  | blocked f path => f.report path

/-- A change to the disk whose fault is blamed on a path. -/
def blame (path : Text) (change : Except FileFault Disk) : Except WriteFault Disk :=
  change.mapError (.blocked · path)

/-- The disk after a text has been written to a file. -/
def writeText (d : Disk) (path t : Text) : Except WriteFault Disk :=
  if Disk.hasNul path then .error .nulInPath else blame path (d.write path (Utf8.encode t))

/-- Why a journal cannot be begun. -/
inductive JournalFault where
  | template (f : TemplateFault)
  | write (f : WriteFault)
  deriving DecidableEq, Repr

/-- The fault in words. -/
def JournalFault.message : JournalFault → Text
  | template f => f.message
  | write f => f.message

namespace Journal

/-- The lines of the given records that are shown, each with its line feed. -/
def text (j : Journal) (records : List Log.Record) : Text :=
  (Log.shown j.threshold records).flatMap fun r => r.line ++ ['\n']

/-- What the name of a file may ask for. -/
def nameValues (now : Moment) : Assoc Text Template.Value :=
  [("time".toList, ⟨"FileDateFormatter".toList, fun pattern =>
    match now.write? (if pattern = [] then Moment.fileNamePattern else pattern) with
    | some t => .ok t
    | none => .error .tooPrecise⟩)]

/-- Begins a journal in a file that is given by an absolute path. -/
def startAt (d : Disk) (threshold : Log.Level) (file : Text) :
    Disk × Except JournalFault Journal :=
  match d.completeParent file with
  | (d, some (f, path)) => (d, .error (.write (.blocked f path)))
  | (d, none) =>
    if Disk.hasNul file then (d, .error (.write .nulInPath))
    else match d.append file [] with
      | .ok d => (d, .ok ⟨threshold, some file⟩)
      | .error f => (d, .error (.write (.blocked f file)))

/-- Begins a journal in a file of the given name. -/
def startNamed (now : Moment) (d : Disk) (threshold : Log.Level) (name : Text) :
    Disk × Except JournalFault Journal :=
  if (Path.parentNames name).any Disk.hasNul then (d, .error (.write .nulInPath))
  else match d.makeParent name with
    | (d, some (f, path)) => (d, .error (.write (.blocked f path)))
    | (d, none) =>
      match Template.fill (nameValues now) name with
      | .error f => (d, .error (.template f))
      | .ok name => startAt d threshold (d.absolute name)

/-- Begins a journal on a disk.  An empty name means that there is no file. -/
def start (now : Moment) (d : Disk) (threshold : Log.Level) :
    Option Text → Disk × Except JournalFault Journal
  | none | some [] => (d, .ok ⟨threshold, none⟩)
  | some name => startNamed now d threshold name

/-- The disk after records have been kept. -/
def keep (j : Journal) (d : Disk) (records : List Log.Record) : Disk :=
  match j.path with
  | none => d
  | some file =>
    match d.append file (Utf8.encode (j.text records)) with
    | .ok d => d
    | .error _ => d

/-- A journal without a file leaves the disk alone. -/
theorem keep_of_path {j : Journal} (h : j.path = none) (d : Disk) (records : List Log.Record) :
    j.keep d records = d := by
  simp [keep, h]

end Journal

end RelationAtlas.Command
