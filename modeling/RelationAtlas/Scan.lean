import RelationAtlas.Discovery.Search
import RelationAtlas.Graph.Assembly
import RelationAtlas.Report
import RelationAtlas.Settings.Basic
import RelationAtlas.Tree.Reading

/-!
# Scanning a project

A scan finds the model files below a root, reads them, and assembles the graph of what they say.
Files that cannot be read are passed over with a remark; a request that makes no sense stops the
scan.

Files are read in turn, or several at a time when there is more than one file and more than one
worker (`readsTogether`).  In either case the texts are collected in the order of the files, so both
ways come to the same result (`loadTogether_eq`).
-/

namespace RelationAtlas

/-- Why a scan fails. -/
inductive ScanFault where
  | search (f : SearchFault)
  | read (f : ReadFault)
  deriving DecidableEq, Repr

/-- The fault in words. -/
def ScanFault.message : ScanFault → Text
  | search f => f.message
  | read f => f.message

namespace Scan

/-! ## Reading many files -/

/-- The text of a file, or nothing if the file cannot be read. -/
def load (codecs : Codecs) (d : Disk) (encoding path : Text) : Report ReadFault (Option Text) :=
  match d.read codecs path encoding with
  | .ok t => ⟨[], .ok (some t)⟩
  | .error (.unreadable p why) =>
    ⟨[⟨.warning, "Skipping file: ".toList ++ (ReadFault.unreadable p why).message⟩], .ok none⟩
  | .error f => ⟨[], .error f⟩

/-- The results of finished work in order, or the first fault. -/
def gather {ε α : Type} : List (Report ε α) → Report ε (List α)
  | [] => Report.pure []
  | r :: rest => do
    let a ← r
    let as ← gather rest
    return a :: as

/-- The texts of files that are read one after another. -/
def loadInTurn (codecs : Codecs) (d : Disk) (encoding : Text) :
    List Text → Report ReadFault (List (Option Text))
  | [] => Report.pure []
  | path :: rest => do
    let t ← load codecs d encoding path
    let ts ← loadInTurn codecs d encoding rest
    return t :: ts

/-- The texts of files that are all read first and then collected in order. -/
def loadTogether (codecs : Codecs) (d : Disk) (encoding : Text) (paths : List Text) :
    Report ReadFault (List (Option Text)) :=
  gather (paths.map (load codecs d encoding))

/-- Collecting texts in order is reading the files in turn. -/
theorem loadTogether_eq (codecs : Codecs) (d : Disk) (encoding : Text) (paths : List Text) :
    loadTogether codecs d encoding paths = loadInTurn codecs d encoding paths := by
  induction paths with
  | nil => rfl
  | cons path rest ih =>
    simp only [loadTogether, List.map_cons, gather, loadInTurn] at ih ⊢
    rw [ih]

/-- Are the files read several at a time? -/
def readsTogether (workers : Option Int) (paths : List Text) : Bool :=
  match workers with
  | some n => 1 < n && 1 < paths.length
  | none => false

/-- The texts of files, in their order. -/
def loadAll (codecs : Codecs) (d : Disk) (workers : Option Int) (encoding : Text)
    (paths : List Text) : Report ReadFault (List (Option Text)) :=
  if readsTogether workers paths then loadTogether codecs d encoding paths
  else loadInTurn codecs d encoding paths

/-- The files whose texts could be read. -/
def readable (paths : List Text) (texts : List (Option Text)) : List SourceFile :=
  (paths.zip texts).filterMap fun (path, t) => t.map fun t => ⟨path, t⟩

/-! ## Graphs of files and projects -/

/-- The remark that closes a scan of so many files. -/
def tallyMessage (files : Nat) (g : Graph) : Text :=
  "Scanned ".toList ++ Text.ofNat files ++ " files: ".toList ++ Text.ofNat g.nodes.length
    ++ " models, ".toList ++ Text.ofNat g.edges.length ++ " relationships".toList

/-- The graph of the files at the given paths. -/
def graphOfPaths (codecs : Codecs) (d : Disk) (paths : List Text) (workers : Option Int)
    (encoding : Text) : Report ReadFault Graph := do
  let candidates := paths.map d.absolute
  let texts ← loadAll codecs d workers encoding candidates
  let files := readable candidates texts
  Report.noteAll (Graph.remarks files)
  Report.note .info (tallyMessage candidates.length (Graph.ofFiles files))
  return Graph.ofFiles files

/-- The graph of the project below a root. -/
def project (codecs : Codecs) (d : Disk) (root : Text) (s : Settings) : Report ScanFault Graph := do
  let files ← (Report.ofExcept (Search.modelFiles d root s.candidateGlobs s.excludeDirs)).mapError
    .search
  if files.isEmpty then
    Report.note .info ("No candidate model files under ".toList ++ root)
  (graphOfPaths codecs d files s.maxWorkers s.encoding).mapError .read

end Scan

end RelationAtlas
