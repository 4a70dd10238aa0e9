import RelationAtlas.Command.Outcome

/-!
# The program

The program copies what a run may look at onto a disk of the library: the working directory with its
variable file, the project, and the files that are going to be written.  It then runs the command
line there, writes back the files that the run has changed, and prints what the run says.
-/

namespace RelationAtlas.Program

/-! ## Copying -/

/-- The disk after a change; a change that is not possible changes nothing. -/
def orSame (d : Disk) (change : Except FileFault Disk) : Disk :=
  match change with
  | .ok d => d
  | .error _ => d

/-- Copies a file, if there is one that can be read. -/
def copyFile (d : Disk) (path : String) : IO Disk := do
  try
    let bytes ← IO.FS.readBinFile path
    let (d, _) := d.makeParent path.toList
    return orSame d (d.write path.toList bytes.toList)
  catch _ => return d

/-- Copies a directory, if there is one, without what is in it. -/
def copyDirectory (d : Disk) (path : String) : IO Disk := do
  let place := (← IO.currentDir) / path
  if ← place.isDir then return (d.makeDirectory path.toList).1 else return d

/-- Copies a directory with everything in it, and everything that links in it lead to. -/
partial def copyBelow (d : Disk) (path : String) : IO Disk := do
  let place := (← IO.currentDir) / path
  if !(← place.isDir) then return ← copyFile d path
  let mut d := (d.makeDirectory path.toList).1
  for entry in ← place.readDir do
    let inner := path ++ "/" ++ entry.fileName
    match (← (place / entry.fileName).symlinkMetadata).type with
    | .dir => d ← copyBelow d inner
    | .file => d ← copyFile d inner
    | .symlink =>
      try
        let target := (← IO.FS.realPath inner).toString
        d := orSame d (d.link inner.toList target.toList)
        if !d.isDirectory target.toList then d ← copyBelow d target
      catch _ => pure ()
    | .other => pure ()
  return d

/-- The variables of the environment that hold settings. -/
def environment : IO (Assoc Text Text) := do
  let mut found : Assoc Text Text := []
  for s in Setting.all do
    let lower := String.ofList (Settings.variableName s)
    for name in [lower.toUpper, lower] do
      if let some value ← IO.getEnv name then found := found.put name.toList value.toList
  return found

/-- The time, as the system notes it for a file that has just been written. -/
def now : IO Moment := do
  let (handle, path) ← IO.FS.createTempFile
  handle.putStr "now"
  handle.flush
  let time := (← path.metadata).modified
  IO.FS.removeFile path
  return ⟨time.sec.toNat, time.nsec.toNat / 1000⟩

/-! ## Running -/

/-- The file of the journal, if there is one. -/
def journalFile? (s : Session) (settings : Settings) : Option Text := do
  let name ← settings.logFile
  let file ← (Template.fill (Command.Journal.nameValues s.now) name).toOption
  return s.disk.absolute file

/-- The directory that a path leads into. -/
def parent (path : Text) : Text := Path.ofNames path (Path.parentNames path)

/-- The root that a run looks below, and the files that it may write. -/
def reach (s : Session) (args : List Text) : Option Text × List Text :=
  match s.settings with
  | .error _ => (none, [])
  | .ok settings =>
    match Command.Invocation.ofArguments settings args with
    | .ok ⟨_, .analyze a⟩ =>
      (some (s.disk.absolute a.path), a.file?.toList ++ (journalFile? s settings).toList)
    | .ok ⟨_, .serve _⟩ => (none, (journalFile? s settings).toList)
    | .error _ => (none, [])

/-- The session of a run with the given arguments. -/
def session (args : List Text) : IO Session := do
  let here := (← IO.currentDir).toString
  let mut d ← copyDirectory ⟨FileTree.empty, Path.names here.toList, true⟩ here
  d ← copyFile d (String.ofList Settings.variableFileName)
  let s : Session := ⟨d, Codecs.standard, ← environment, ← now, none⟩
  let (root, files) := reach s args
  for path in root do d ← copyBelow d (String.ofList path)
  for path in files do
    let file := s.disk.absolute path
    d ← copyDirectory d (String.ofList (parent file))
    d ← copyBelow d (String.ofList file)
  return s.withDisk d

/-- Writes back the files that a run has changed. -/
def writeBack (before after : Disk) (files : List Text) : IO Unit := do
  for path in files do
    let file := after.absolute path
    match after.bytes file with
    | .error _ => pure ()
    | .ok bytes =>
      if (before.bytes file).toOption ≠ some bytes then
        IO.FS.createDirAll (String.ofList (parent file))
        IO.FS.writeBinFile (String.ofList file) ⟨bytes.toArray⟩

/-- How the program is used. -/
def usage : String :=
  "usage: [--log-level LEVEL] analyze PATH [-o FILE] [--summary] [--workers N]\n" ++
  "       [--log-level LEVEL] serve [--host HOST] [--port PORT] [--reload]"

/-- Prints what a run says and gives its status. -/
def announce : Except Command.Fault Command.Outcome → IO UInt32
  | .ok (.ended e) => do
    IO.eprintln usage
    return UInt32.ofNat e.status
  | .ok (.done status output errors) => do
    IO.eprint (String.ofList errors)
    IO.print (String.ofList output)
    return UInt32.ofNat status
  | .ok (.served _ errors) => do
    IO.eprint (String.ofList errors)
    IO.eprintln "There is no server in this program."
    return 0
  | .error f => do
    IO.eprintln (String.ofList f.message)
    return 1

end RelationAtlas.Program

/-- Runs the command line. -/
def main (args : List String) : IO UInt32 := do
  let args := args.map String.toList
  let before ← RelationAtlas.Program.session args
  let (after, result) := RelationAtlas.Command.run before args
  RelationAtlas.Program.writeBack before.disk after.disk (RelationAtlas.Program.reach before args).2
  RelationAtlas.Program.announce result
