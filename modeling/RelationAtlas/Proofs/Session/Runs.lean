import Mathlib.Control.Monad.Basic
import Mathlib.Tactic.Lemma
import RelationAtlas.Command.Outcome
import RelationAtlas.Viewer

/-!
# What happens in a session

In a session the world changes and the atlas is called, in any order.  Most calls ask for the
settings.  As long as there are none to be found, asking leaves nothing behind, so that the next
call looks at the environment and the variable file as they are then.  The first call that finds
settings fixes them: every later call does and answers what it would do and answer with these
settings and no environment at all (`settings_after`).

What a call leaves loaded is told once for all calls (`loaded_afterCall`); everything about runs
follows from it by induction over the events.
-/

namespace RelationAtlas.Session

/-! ## Events -/

/-- A change of the world. -/
inductive Change where
  | setVariable (name : Text) (value : Option Text)
  | disk (d : Disk)
  | codecs (codecs : Codecs)
  | time (now : Moment)

/-- A call of the atlas. -/
inductive Call where
  | settings
  | scan (root : Text)
  | analyze (body : Assoc Text Json)
  | source (path : Text)
  | command (args : List Text)

/-- Something that happens in a session. -/
inductive Event where
  | change (c : Change)
  | call (c : Call)

/-- What a call answers. -/
inductive Answer where
  | settings (result : Except SettingsFault Settings)
  | scan (result : Except SettingsFault (Report ScanFault Graph))
  | analysis (result : Except Viewer.Fault Viewer.Analysis)
  | source (result : Except Viewer.Fault Viewer.SourceView)
  | command (result : Except Command.Fault Command.Outcome)

/-- The session after a change of the world.  A variable that the environment cannot hold changes
nothing. -/
def afterChange (s : Session) : Change → Session
  | .setVariable name value =>
    match s.setVariable name value with
    | .ok s' => s'
    | .error _ => s
  | .disk d => s.withDisk d
  | .codecs codecs => { s with codecs }
  | .time now => { s with now := now }

/-- The session after a call. -/
def afterCall (s : Session) : Call → Session
  | .settings => s.settle
  | .scan _ => s.settle
  | .analyze body =>
    match Viewer.rootOf body with
    | .ok _ => s.settle
    | .error _ => s
  | .source path => Viewer.afterSource s path
  | .command args => (Command.run s args).1

/-- What a call answers. -/
def answer (s : Session) : Call → Answer
  | .settings => .settings s.settings
  | .scan root => .scan (s.settings.map (Scan.project s.codecs s.disk root))
  | .analyze body => .analysis (Viewer.rootOf body >>= Viewer.analyze s)
  | .source path => .source (Viewer.source s path)
  | .command args => .command (Command.run s args).2

/-- The session after something has happened. -/
def perform (s : Session) : Event → Session
  | .change c => s.afterChange c
  | .call c => s.afterCall c

/-- The session after some things have happened one after another. -/
def after (s : Session) (events : List Event) : Session := events.foldl perform s

/-- Does the call look at the settings?  A request that is refused before does not. -/
def Call.asks (s : Session) : Call → Bool
  | .settings => true
  | .scan _ => true
  | .analyze body => (Viewer.rootOf body).isOk
  | .source path => Viewer.sourceSettles s path
  | .command _ => true

/-- Does the world change? -/
def Event.isChange : Event → Bool
  | .change _ => true
  | .call _ => false

/-- What a call does to the disk and what it answers, when these are the settings and nothing is
said in the environment. -/
def Call.under (v : Settings) (codecs : Codecs) (d : Disk) (now : Moment) (c : Call) :
    Disk × Answer :=
  let s : Session := ⟨d, codecs, [], now, some v⟩
  ((s.afterCall c).disk, s.answer c)

/-- The event is a call that asks for the settings and finds them. -/
def Loads (s : Session) (v : Settings) : Event → Prop
  | .change _ => False
  | .call c => c.asks s = true ∧ s.settings = .ok v

/-- No call finds any settings. -/
def NeverLoads (s : Session) : List Event → Prop
  | [] => True
  | e :: events => (∀ v, ¬ s.Loads v e) ∧ (s.perform e).NeverLoads events

variable {s : Session} {v : Settings} {e : Event} {events : List Event}

@[simp] lemma after_nil : s.after [] = s := rfl

@[simp] lemma after_cons : s.after (e :: events) = (s.perform e).after events := rfl

lemma after_append (before later : List Event) :
    s.after (before ++ later) = (s.after before).after later :=
  List.foldl_append

/-! ## What one event does -/

/-- No change of the world has an effect on what has been loaded. -/
lemma loaded_afterChange (s : Session) (c : Change) : (s.afterChange c).loaded = s.loaded := by
  cases c with
  | disk d => rfl
  | codecs codecs => rfl
  | time now => rfl
  | setVariable name value =>
    cases value with
    | none => rfl
    | some value =>
      simp only [afterChange, setVariable]
      cases VariableFault.of? name value <;> rfl

/-- A call that asks for the settings leaves loaded what it has found, and any other call leaves
things as they were. -/
lemma loaded_afterCall (s : Session) (c : Call) :
    (s.afterCall c).loaded = if c.asks s then s.settings.toOption else s.loaded := by
  cases c with
  | settings => rfl
  | scan root => rfl
  | command args => exact Command.loaded_run s args
  | analyze body =>
    rw [afterCall, Call.asks]
    cases Viewer.rootOf body <;> rfl
  | source path =>
    rw [afterCall, Call.asks, Viewer.afterSource]
    cases Viewer.sourceSettles s path <;> rfl

/-- What a change of the world makes of the environment does not depend on anything else. -/
lemma environment_afterChange_congr {s' : Session} (h : s.environment = s'.environment)
    (c : Change) : (s.afterChange c).environment = (s'.afterChange c).environment := by
  cases c with
  | disk d => exact h
  | codecs codecs => exact h
  | time now => exact h
  | setVariable name value =>
    cases value with
    | none =>
      change s.environment.erase (· = name) = s'.environment.erase (· = name)
      rw [h]
    | some value =>
      simp only [afterChange, setVariable]
      cases VariableFault.of? name value with
      | some f => exact h
      | none =>
        change s.environment.put name value = s'.environment.put name value
        rw [h]

/-- No call has an effect on the environment. -/
lemma environment_afterCall (s : Session) (c : Call) :
    (s.afterCall c).environment = s.environment := by
  cases c with
  | settings => rfl
  | scan root => rfl
  | analyze body =>
    rw [afterCall]
    cases Viewer.rootOf body <;> rfl
  | source path =>
    rw [afterCall, Viewer.afterSource]
    cases Viewer.sourceSettles s path <;> rfl
  | command args =>
    rw [afterCall, Command.run]
    cases s.settings with
    | error f => rfl
    | ok v =>
      dsimp only
      cases Command.Invocation.ofArguments v args <;> rfl

/-- Settings that have been loaded are not looked for again. -/
lemma settle_of_loaded (h : s.loaded = some v) : s.settle = s := by
  rw [settle, settings_of_loaded h]
  exact congrArg (Session.mk s.disk s.codecs s.environment s.now) h.symm

/-- A run of the command line by settings that have been loaded. -/
lemma run_of_loaded (h : s.loaded = some v) (args : List Text) : Command.run s args =
    match Command.Invocation.ofArguments v args with
    | .error e => (s, .ok (.ended e))
    | .ok i => (s.withDisk (i.run s.codecs v s.now s.disk).1,
        (i.run s.codecs v s.now s.disk).2.map (·.saidFirst [])) := by
  have hnotices : s.notices = [] := by rw [notices, h]
  unfold Command.run
  cases hargs : Command.Invocation.ofArguments v args with
  | error e => simp only [settings_of_loaded h, settle_of_loaded h, hargs]
  | ok i => simp only [settings_of_loaded h, settle_of_loaded h, hargs, hnotices, List.flatMap_nil]

lemma disk_afterSource (s : Session) (path : Text) :
    (Viewer.afterSource s path).disk = s.disk := by
  unfold Viewer.afterSource
  split <;> rfl

/-- Once they have been loaded, the settings are all that a call sees of the session apart from the
disk, the encodings and the time. -/
lemma effect_of_loaded (h : s.loaded = some v) (c : Call) :
    ((s.afterCall c).disk, s.answer c) = c.under v s.codecs s.disk s.now := by
  have hunder : Session.loaded ⟨s.disk, s.codecs, [], s.now, some v⟩ = some v := rfl
  have hrun := run_of_loaded h
  obtain ⟨d, codecs, environment, now, loaded⟩ := s
  obtain rfl : loaded = some v := h
  cases c with
  | settings => rfl
  | scan root => rfl
  | analyze body =>
    simp only [Call.under, afterCall, answer]
    cases Viewer.rootOf body <;> rfl
  | source path =>
    simp only [Call.under, afterCall, answer, disk_afterSource]
    rfl
  | command args =>
    simp only [Call.under, afterCall, answer, hrun, run_of_loaded hunder]
    cases Command.Invocation.ofArguments v args <;> rfl

/-! ## Runs -/

/-- What has been loaded stays loaded, whatever happens. -/
lemma loaded_perform (h : s.loaded = some v) (e : Event) : (s.perform e).loaded = some v := by
  cases e with
  | change c => exact (loaded_afterChange s c).trans h
  | call c =>
    rw [perform, loaded_afterCall, settings_of_loaded h, h]
    split <;> rfl

lemma loaded_after (h : s.loaded = some v) (events : List Event) :
    (s.after events).loaded = some v := by
  induction events generalizing s with
  | nil => exact h
  | cons e events ih => exact ih (loaded_perform h e)

/-- A call that finds settings leaves them loaded. -/
lemma Loads.loaded_perform (h : s.Loads v e) : (s.perform e).loaded = some v := by
  cases e with
  | change c => exact h.elim
  | call c =>
    obtain ⟨hasks, hsettings⟩ := h
    rw [perform, loaded_afterCall, if_pos hasks, hsettings]
    rfl

/-- Nothing is left behind by an event that finds no settings. -/
lemma loaded_perform_eq_none (hloaded : s.loaded = none) (h : ∀ v, ¬ s.Loads v e) :
    (s.perform e).loaded = none := by
  cases e with
  | change c => exact (loaded_afterChange s c).trans hloaded
  | call c =>
    rw [perform, loaded_afterCall]
    split
    · next hasks =>
      cases hsettings : s.settings with
      | error f => rfl
      | ok v => exact absurd ⟨hasks, hsettings⟩ (h v)
    · exact hloaded

/-- The environment is what the changes of the world make of it, whatever is called meanwhile. -/
lemma environment_after {s' : Session} (h : s.environment = s'.environment)
    (events : List Event) :
    (s.after events).environment = (s'.after (events.filter Event.isChange)).environment := by
  induction events generalizing s s' with
  | nil => exact h
  | cons e events ih =>
    cases e with
    | change c =>
      have hnext : (s.afterChange c).environment = (s'.afterChange c).environment :=
        environment_afterChange_congr h c
      exact ih hnext
    | call c =>
      have hnext : (s.afterCall c).environment = s'.environment :=
        (environment_afterCall s c).trans h
      exact ih hnext

/-- As long as no call finds settings, nothing is left behind. -/
lemma NeverLoads.loaded_after (h : s.NeverLoads events) (hloaded : s.loaded = none) :
    (s.after events).loaded = none := by
  induction events generalizing s with
  | nil => exact hloaded
  | cons e events ih => exact ih h.2 (loaded_perform_eq_none hloaded h.1)

/-- Settings that have not been loaded are looked for in the environment and on the disk. -/
lemma settings_of_loaded_eq_none (h : s.loaded = none) :
    s.settings = Settings.load s.disk s.environment [] := by
  rw [settings, h]

/-- Either no call finds settings, or one of them is the first to do so. -/
lemma neverLoads_or_exists_first (s : Session) (events : List Event) : s.NeverLoads events ∨
    ∃ before e later v, events = before ++ e :: later ∧ s.NeverLoads before ∧
      (s.after before).Loads v e := by
  induction events generalizing s with
  | nil => exact Or.inl trivial
  | cons e events ih =>
    by_cases hloads : ∃ v, s.Loads v e
    · obtain ⟨v, hv⟩ := hloads
      exact Or.inr ⟨[], e, events, v, rfl, trivial, hv⟩
    have hnone : ∀ v, ¬ s.Loads v e := not_exists.mp hloads
    rcases ih (s.perform e) with hnever | ⟨before, e', later, v, rfl, hnever, hv⟩
    · exact Or.inl ⟨hnone, hnever⟩
    · exact Or.inr ⟨e :: before, e', later, v, rfl, ⟨hnone, hnever⟩, hv⟩

/-- The settings of a session in which nothing has been loaded at first, whatever happens in it.  As
long as no call finds any, the next one looks at the disk and the environment as they are then, and
the environment is what the changes of the world have made of it.  What the first call finds, each
later one goes by, whatever else has changed. -/
theorem settings_after (d : Disk) (codecs : Codecs) (environment : Assoc Text Text) (now : Moment)
    (events : List Event) :
    let start : Session := ⟨d, codecs, environment, now, none⟩
    let s := start.after events
    (start.NeverLoads events →
      s.loaded = none ∧ s.settings = Settings.load s.disk s.environment []) ∧
    s.environment = (start.after (events.filter Event.isChange)).environment ∧
    (¬ start.NeverLoads events → ∃ before e later v, events = before ++ e :: later ∧
      start.NeverLoads before ∧ (start.after before).Loads v e ∧
      Settings.load (start.after before).disk (start.after before).environment [] = .ok v) ∧
    ∀ before e later v, events = before ++ e :: later → (start.after before).Loads v e →
      s.settings = .ok v ∧
        ∀ c, ((s.afterCall c).disk, s.answer c) = c.under v s.codecs s.disk s.now := by
  intro start s
  refine ⟨fun hnever => ?_, environment_after rfl events, fun hloads => ?_, ?_⟩
  · have hnone : s.loaded = none := hnever.loaded_after rfl
    exact ⟨hnone, settings_of_loaded_eq_none hnone⟩
  · obtain ⟨before, e, later, v, hevents, hbefore, hv⟩ :=
      (neverLoads_or_exists_first start events).resolve_left hloads
    have hnone : (start.after before).loaded = none := hbefore.loaded_after rfl
    refine ⟨before, e, later, v, hevents, hbefore, hv, ?_⟩
    rw [← settings_of_loaded_eq_none hnone]
    cases e with
    | change c => exact hv.elim
    | call c => exact hv.2
  · intro before e later v hevents hv
    have hloaded : s.loaded = some v := by
      change (start.after events).loaded = some v
      rw [hevents, after_append, after_cons]
      exact Session.loaded_after hv.loaded_perform later
    exact ⟨settings_of_loaded hloaded, effect_of_loaded hloaded⟩

/-- What happens until settings are found: a port that is no number is corrected after it has been
noticed. -/
def portCorrected : List Event :=
  [.change (.setVariable "MODELGRAPH_PORT".toList (some "x".toList)), .call .settings,
    .change (.setVariable "MODELGRAPH_PORT".toList (some "9000".toList))]

/-- What happens after that: the port is changed again, and a run of the command line is given a
number of workers. -/
def portChanged : List Event :=
  [.change (.setVariable "MODELGRAPH_PORT".toList (some "1".toList)),
    .call (.command ["analyze".toList, "/".toList, "--workers".toList, "8".toList])]

/-- The settings are those of the first call that finds any. -/
theorem settings_after_portChanged :
    let start : Session := ⟨⟨FileTree.empty, [], false⟩, Codecs.standard, [], ⟨0, 0⟩, none⟩
    (start.after (portCorrected.take 2)).settings.isOk = false ∧
    (start.after portCorrected).Loads { Settings.default with port := 9000 } (.call .settings) ∧
    (start.after (portCorrected ++ .call .settings :: portChanged)).settings =
      .ok { Settings.default with port := 9000 } := by
  intro start
  have hloads : (start.after portCorrected).Loads { Settings.default with port := 9000 }
      (.call .settings) :=
    ⟨rfl, by decide +kernel⟩
  have hafter := settings_after ⟨FileTree.empty, [], false⟩ Codecs.standard [] ⟨0, 0⟩
    (portCorrected ++ .call .settings :: portChanged)
  exact ⟨by decide +kernel, hloads, (hafter.2.2.2 _ _ _ _ rfl hloads).1⟩

end RelationAtlas.Session
