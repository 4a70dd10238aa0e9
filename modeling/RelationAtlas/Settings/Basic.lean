import RelationAtlas.Encoding.Fault
import RelationAtlas.Json.Reader
import RelationAtlas.Tree.Fault

/-!
# Settings

The settings say where model files are looked for, how they are read, what is logged, and where a
server listens.  A fault in the settings names the setting, and for a list the member, that is at
fault.
-/

namespace RelationAtlas

/-- The settings of the atlas. -/
structure Settings where
  candidateGlobs : List Text
  excludeDirs : List Text
  encoding : Text
  maxWorkers : Option Int
  logLevel : Text
  logFile : Option Text
  host : Text
  port : Int
  deriving DecidableEq, Repr

/-- One of the settings. -/
inductive Setting where
  | candidateGlobs
  | excludeDirs
  | encoding
  | maxWorkers
  | logLevel
  | logFile
  | host
  | port
  deriving DecidableEq, Repr

/-- The name of a setting. -/
def Setting.name : Setting → Text
  | candidateGlobs => "candidate_globs".toList
  | excludeDirs => "exclude_dirs".toList
  | encoding => "encoding".toList
  | maxWorkers => "max_workers".toList
  | logLevel => "log_level".toList
  | logFile => "log_file".toList
  | host => "host".toList
  | port => "port".toList

/-- All settings in order. -/
def Setting.all : List Setting :=
  [.candidateGlobs, .excludeDirs, .encoding, .maxWorkers, .logLevel, .logFile, .host, .port]

/-- The settings that hold when nothing is said about them. -/
def Settings.default : Settings where
  candidateGlobs := ["app/Models/**/*.php".toList, "app/*.php".toList]
  excludeDirs := ["vendor".toList, "node_modules".toList, ".git".toList]
  encoding := "utf-8".toList
  maxWorkers := none
  logLevel := "INFO".toList
  logFile := none
  host := "127.0.0.1".toList
  port := 8000

/-- What is wrong with a value.  A number is too large as text of an integer with too many digits, or
as a number beyond all integers that are taken. -/
inductive ValueFlaw where
  | notText
  | notList
  | notInteger
  | unreadableInteger
  | tooLarge
  | fractional
  | notFinite
  deriving DecidableEq, Repr

/-- A value that a setting cannot have. -/
structure Problem where
  setting : Setting
  index : Option Nat
  flaw : ValueFlaw
  deriving DecidableEq, Repr

/-- Where the text of a setting comes from. -/
inductive TextSource where
  | environment
  | variableFile
  deriving DecidableEq, Repr

/-- The name of a source in messages. -/
def TextSource.name : TextSource → Text
  | environment => "EnvSettingsSource".toList
  | variableFile => "DotEnvSettingsSource".toList

/-- Why there are no settings. -/
inductive SettingsFault where
  | blocked (f : FileFault) (path : Text)
  | undecodable (f : DecodeFault)
  | unstructured (setting : Setting) (source : TextSource)
  | tooDeep (n : Json.Nest)
  | invalid (problems : List Problem)
  deriving DecidableEq, Repr

namespace ValueFlaw

/-- The flaw in words. -/
def wording : ValueFlaw → Text
  | notText => "not a text".toList
  | notList => "not a list".toList
  | notInteger => "not an integer".toList
  | unreadableInteger => "not the text of an integer".toList
  | tooLarge => "too large an integer".toList
  | fractional => "not a whole number".toList
  | notFinite => "not a finite number".toList

end ValueFlaw

/-- The problem in words: the setting, the member if one is at fault, and the flaw. -/
def Problem.message (p : Problem) : Text :=
  p.setting.name ++ (p.index.map fun i => '.' :: Text.ofNat i).getD [] ++ ": ".toList
    ++ p.flaw.wording

/-- The fault in words. -/
def SettingsFault.message : SettingsFault → Text
  | blocked f path => f.report path
  | undecodable f => f.message
  | unstructured setting source =>
    "error parsing value for field \"".toList ++ setting.name ++ "\" from source \"".toList
      ++ source.name ++ "\"".toList
  | tooDeep n => (Json.Fault.tooDeep n).message
  | invalid problems => Text.join "; ".toList (problems.map Problem.message)

end RelationAtlas
