import RelationAtlas.Text.Basic

/-!
# Log records

While it works, the atlas remarks on what it meets: files it cannot use, classes declared twice, the
size of the result.  A remark has a level, and a run shows the remarks from some level upwards.
-/

namespace RelationAtlas.Log

/-- How much a remark matters, least first. -/
inductive Level where
  | trace
  | debug
  | info
  | success
  | warning
  | error
  | critical
  deriving DecidableEq, Repr

namespace Level

/-- All levels, least first. -/
def all : List Level := [trace, debug, info, success, warning, error, critical]

/-- The name of a level. -/
def name : Level → Text
  | trace => "TRACE".toList
  | debug => "DEBUG".toList
  | info => "INFO".toList
  | success => "SUCCESS".toList
  | warning => "WARNING".toList
  | error => "ERROR".toList
  | critical => "CRITICAL".toList

/-- The weight by which levels are compared. -/
def severity : Level → Nat
  | trace => 5
  | debug => 10
  | info => 20
  | success => 25
  | warning => 30
  | error => 40
  | critical => 50

/-- The level of a name, written as it is. -/
def named? (name : Text) : Option Level := all.find? (·.name == name)

end Level

/-- A remark and its level. -/
structure Record where
  level : Level
  message : Text
  deriving DecidableEq, Repr

/-- The line that shows a remark. -/
def Record.line (r : Record) : Text := r.level.name ++ ": ".toList ++ r.message

/-- The remarks that are shown when those below `threshold` are not. -/
def shown (threshold : Level) (records : List Record) : List Record :=
  records.filter fun r => threshold.severity ≤ r.level.severity

end RelationAtlas.Log
