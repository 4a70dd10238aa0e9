import RelationAtlas.Graph.Payload
import RelationAtlas.Graph.Summary
import RelationAtlas.Scan
import RelationAtlas.Session

/-!
# What a viewer asks for

A viewer asks for two things: the graph of a project with its summary, and the text of a model file
so that it can be opened from its node.  A request that cannot be met is refused with a status and a
detail; faults that are not the request's own go through.
-/

namespace RelationAtlas.Viewer

/-- What is wrong with the body of a request. -/
inductive BodyFlaw where
  | missing
  | notText
  deriving DecidableEq, Repr

/-- Why a request is not answered. -/
inductive Fault where
  | body (flaw : BodyFlaw)
  | refused (status : Nat) (detail : Text)
  | settings (f : SettingsFault)
  | scan (f : ScanFault)
  | read (f : ReadFault)

/-- A graph and what is said about it. -/
structure Analysis where
  graph : Payload
  summary : Summary
  deriving DecidableEq, Repr

/-- The text of a model file. -/
structure SourceView where
  path : Text
  content : Text
  totalLines : Nat
  deriving DecidableEq, Repr

/-- The name of the field that holds the root of a project. -/
def rootField : Text := "root_path".toList

/-- The root that the body of a request names. -/
def rootOf (body : Assoc Text Json) : Except Fault Text :=
  match body.get? rootField with
  | none => .error (.body .missing)
  | some (.string codes) => .ok (Json.textOf codes)
  | some _ => .error (.body .notText)

/-- The graph of the project at a root. -/
def analyze (s : Session) (path : Text) : Except Fault Analysis := do
  let root := s.disk.absolute path
  let settings ← s.settings.mapError .settings
  match (Scan.project s.codecs s.disk root settings).result with
  | .ok g => .ok ⟨g.payload, g.summary (some root)⟩
  | .error (.search (.noRoot _)) =>
    .error (.refused 400 ("Invalid root_path: ".toList ++ root))
  | .error f => .error (.scan f)

/-- How the name of a file ends that can be opened. -/
def sourceSuffix : Text := ".php".toList

/-- The text of the file at a path. -/
def source (s : Session) (path : Text) : Except Fault SourceView :=
  if !s.disk.isFile path then .error (.refused 404 "File not found".toList)
  else if !Text.endsWith path sourceSuffix then
    .error (.refused 400 "Only PHP sources can be opened".toList)
  else do
    let settings ← s.settings.mapError .settings
    match s.disk.read s.codecs path settings.encoding with
    | .ok content => .ok ⟨path, content, Text.lineCount content⟩
    | .error (.unreadable p why) => .error (.refused 400 (ReadFault.unreadable p why).message)
    | .error f => .error (.read f)

/-- Does asking for the source at a path look at the settings? -/
def sourceSettles (s : Session) (path : Text) : Bool :=
  s.disk.isFile path && Text.endsWith path sourceSuffix

/-- The session after a request for the source at a path. -/
def afterSource (s : Session) (path : Text) : Session :=
  if sourceSettles s path then s.settle else s

end RelationAtlas.Viewer
