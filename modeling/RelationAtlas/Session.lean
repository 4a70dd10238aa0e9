import RelationAtlas.Encoding.Registry
import RelationAtlas.Moment
import RelationAtlas.Settings.Loading

/-!
# Sessions

A session is what a run of the atlas sees of the world: a disk, the variables of the environment,
the time, and the settings once they have been loaded.  The first load that succeeds fixes the
settings for the rest of the session; a load that fails leaves nothing behind.

Not every text can be a variable of the environment: a NUL ends a text there, and the first equals
sign ends a name.
-/

namespace RelationAtlas

/-- What a run of the atlas sees of the world: the disk, the encodings that are installed, the
variables of the environment, the time, and the settings once they have been loaded. -/
structure Session where
  disk : Disk
  codecs : Codecs
  environment : Assoc Text Text
  now : Moment
  loaded : Option Settings

/-- Why the environment cannot hold a variable. -/
inductive VariableFault where
  | holdsNul
  | holdsEqualsSign
  | nameless
  deriving DecidableEq, Repr

namespace VariableFault

/-- The fault in words. -/
def message : VariableFault → Text
  | holdsNul => "embedded null byte".toList
  | holdsEqualsSign => "illegal environment variable name".toList
  | nameless => "[Errno 22] Invalid argument".toList

/-- What is wrong with a variable of the given name and value, if something is. -/
def of? (name value : Text) : Option VariableFault :=
  if name.contains '\x00' || value.contains '\x00' then some holdsNul
  else if name.contains '=' then some holdsEqualsSign
  else if name.isEmpty then some nameless
  else none

end VariableFault

namespace Session

/-- The settings of the session: those that have been loaded, or those that are found now. -/
def settings (s : Session) : Except SettingsFault Settings :=
  match s.loaded with
  | some settings => .ok settings
  | none => Settings.load s.disk s.environment []

/-- What is said while the settings are asked for: only where they have not been loaded yet. -/
def notices (s : Session) : List Text :=
  match s.loaded with
  | some _ => []
  | none => Settings.notices s.disk

/-- The session after its settings have been asked for. -/
def settle (s : Session) : Session := { s with loaded := s.settings.toOption }

/-- The session with a variable of the environment set, or taken out.  Nothing is wrong with taking
out a variable that cannot be there. -/
def setVariable (s : Session) (name : Text) : Option Text → Except VariableFault Session
  | some value =>
    match VariableFault.of? name value with
    | some f => .error f
    | none => .ok { s with environment := s.environment.put name value }
  | none => .ok { s with environment := s.environment.erase (· = name) }

/-- The session with another disk. -/
def withDisk (s : Session) (d : Disk) : Session := { s with disk := d }

/-- Settings that have been loaded do not depend on the disk or the environment any more. -/
theorem settings_of_loaded {s : Session} {v : Settings} (h : s.loaded = some v) :
    s.settings = .ok v := by
  simp [settings, h]

/-- Settings that cannot be found have not been loaded. -/
theorem loaded_eq_none {s : Session} {f : SettingsFault} (h : s.settings = .error f) :
    s.loaded = none := by
  cases hloaded : s.loaded with
  | none => rfl
  | some v =>
    rw [settings_of_loaded hloaded] at h
    cases h

/-- Once the settings have been found, they are the settings of the session. -/
theorem settings_settle {s : Session} {v : Settings} (h : s.settings = .ok v) :
    s.settle.settings = .ok v := by
  simp [settle, settings_of_loaded, h, Except.toOption]

end Session

end RelationAtlas
