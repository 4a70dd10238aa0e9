import Mathlib.Algebra.GroupWithZero.Nat
import Mathlib.Data.List.Perm.Basic
import Mathlib.Logic.Relation
import RelationAtlas.Proofs.Scan.Reading

/-!
# Reading several files at a time

When files are read several at a time, a pool of workers takes them up and brings them to an end in
any order, while the results are collected by position: the one of the first file first.  A fault
stops the collecting where it is met, and what no worker has taken up by then may be withdrawn.  The
pool is left when no worker is busy any more and nothing waits.

Here a pool is a state (`Pool`), and each thing that can happen to it is a step (`Pool.Step`).
What a step keeps (`Pool.IsReadingOf`) says that what has been collected is what reading in turn
has brought for the same files, so a pool that is left has come to the same result
(`Pool.IsReadingOf.result_of_isOver`), whatever the order of its steps was.  No pool gets stuck
(`Pool.IsReadingOf.exists_step`), and every step leaves less to be done (`Pool.effort_lt_of_step`),
so every pool is left in the end.
-/

namespace RelationAtlas.Scan

/-! ## Pools -/

/-- How far the reading of a file has come.  A file is withdrawn when it is not going to be read. -/
inductive Stage where
  | waiting
  | running
  | finished (r : Report ReadFault (Option Text))
  | withdrawn

/-- A file that is to be read. -/
structure Job where
  path : Text
  stage : Stage

/-- What has been collected of the results. -/
inductive Collected where
  | texts (ts : List (Option Text))
  | stopped (f : ReadFault)

/-- Files that are read several at a time. -/
structure Pool where
  jobs : List Job
  collected : Collected
  remarks : List Log.Record

/-- Is a worker busy with the file? -/
def Job.isRunning (job : Job) : Bool :=
  match job.stage with
  | .running => true
  | _ => false

/-- Has the reading of the file come to an end? -/
def Job.IsSettled (job : Job) : Prop := job.stage = .withdrawn ∨ ∃ r, job.stage = .finished r

/-- The remarks made by the reading of a file, as far as it has come. -/
def Job.remarks (job : Job) : List Log.Record :=
  match job.stage with
  | .finished r => r.remarks
  | _ => []

namespace Pool

/-- The pool in which every file waits. -/
def start (paths : List Text) : Pool := ⟨paths.map fun path => ⟨path, .waiting⟩, .texts [], []⟩

/-- One thing that can happen to a pool with some number of workers. -/
inductive Step (codecs : Codecs) (d : Disk) (encoding : Text) (workers : Nat) : Pool → Pool → Prop
  | takeUp {before after : List Job} {path : Text} {collected : Collected}
      {remarks : List Log.Record} (hfree : (before ++ after).countP Job.isRunning < workers) :
      Step codecs d encoding workers ⟨before ++ ⟨path, .waiting⟩ :: after, collected, remarks⟩
        ⟨before ++ ⟨path, .running⟩ :: after, collected, remarks⟩
  | finish {before after : List Job} {path : Text} {collected : Collected}
      {remarks : List Log.Record} :
      Step codecs d encoding workers ⟨before ++ ⟨path, .running⟩ :: after, collected, remarks⟩
        ⟨before ++ ⟨path, .finished (load codecs d encoding path)⟩ :: after, collected,
          remarks ++ (load codecs d encoding path).remarks⟩
  | collect {before after : List Job} {path : Text} {r : Report ReadFault (Option Text)}
      {ts : List (Option Text)} {t : Option Text} {remarks : List Log.Record}
      (hnext : ts.length = before.length) (hr : r.result = .ok t) :
      Step codecs d encoding workers ⟨before ++ ⟨path, .finished r⟩ :: after, .texts ts, remarks⟩
        ⟨before ++ ⟨path, .finished r⟩ :: after, .texts (ts ++ [t]), remarks⟩
  | stop {before after : List Job} {path : Text} {r : Report ReadFault (Option Text)}
      {ts : List (Option Text)} {f : ReadFault} {remarks : List Log.Record}
      (hnext : ts.length = before.length) (hr : r.result = .error f) :
      Step codecs d encoding workers ⟨before ++ ⟨path, .finished r⟩ :: after, .texts ts, remarks⟩
        ⟨before ++ ⟨path, .finished r⟩ :: after, .stopped f, remarks⟩
  | withdraw {before after : List Job} {path : Text} {f : ReadFault} {remarks : List Log.Record} :
      Step codecs d encoding workers ⟨before ++ ⟨path, .waiting⟩ :: after, .stopped f, remarks⟩
        ⟨before ++ ⟨path, .withdrawn⟩ :: after, .stopped f, remarks⟩

/-- The things that happen to a pool one after another. -/
abbrev Run (codecs : Codecs) (d : Disk) (encoding : Text) (workers : Nat) : Pool → Pool → Prop :=
  Relation.ReflTransGen (Step codecs d encoding workers)

/-- Everything has been collected, or the collecting has stopped. -/
def IsCollected (s : Pool) : Prop :=
  match s.collected with
  | .texts ts => ts.length = s.jobs.length
  | .stopped _ => True

/-- The pool can be left. -/
structure IsOver (s : Pool) : Prop where
  settled : ∀ job ∈ s.jobs, job.IsSettled
  collected : s.IsCollected

/-- What the reading in a pool has come to. -/
def report (s : Pool) : Report ReadFault (List (Option Text)) where
  remarks := s.remarks
  result :=
    match s.collected with
    | .texts ts => .ok ts
    | .stopped f => .error f

variable {codecs : Codecs} {d : Disk} {encoding : Text} {workers : Nat} {paths : List Text}
  {s s' : Pool}

/-! ## What a step keeps -/

/-- What has been collected is what reading in turn brings for the same files. -/
def CollectsInTurn (codecs : Codecs) (d : Disk) (encoding : Text) (paths : List Text) :
    Collected → Prop
  | .texts ts => ∃ front rest, paths = front ++ rest ∧
    (loadInTurn codecs d encoding front).result = .ok ts
  | .stopped f => (loadInTurn codecs d encoding paths).result = .error f

/-- The pool reads the files at the given paths. -/
structure IsReadingOf (codecs : Codecs) (d : Disk) (encoding : Text) (paths : List Text) (s : Pool) :
    Prop where
  paths_eq : s.jobs.map Job.path = paths
  finished_eq : ∀ job ∈ s.jobs, ∀ r, job.stage = .finished r → r = load codecs d encoding job.path
  inTurn : CollectsInTurn codecs d encoding paths s.collected
  not_withdrawn : ∀ ts, s.collected = .texts ts → ∀ job ∈ s.jobs, job.stage ≠ .withdrawn
  remarks_perm : s.remarks.Perm (s.jobs.flatMap Job.remarks)

lemma isReadingOf_start (codecs : Codecs) (d : Disk) (encoding : Text) (paths : List Text) :
    (start paths).IsReadingOf codecs d encoding paths where
  paths_eq := by
    rw [start, List.map_map]
    exact List.map_id paths
  finished_eq := by
    intro job hjob r hr
    obtain ⟨path, -, rfl⟩ := List.mem_map.mp hjob
    cases hr
  inTurn := ⟨[], paths, rfl, rfl⟩
  not_withdrawn := by
    intro ts _ job hjob
    obtain ⟨path, -, rfl⟩ := List.mem_map.mp hjob
    simp
  remarks_perm := by
    have hnone : (start paths).jobs.flatMap Job.remarks = [] := by
      simp [start, Job.remarks]
    rw [hnone]
    exact .refl []

/-- What is said about all files stays true when it is true of the one that is changed. -/
lemma forall_mem_exchange {P : Job → Prop} {before after : List Job} {job job' : Job}
    (h : ∀ j ∈ before ++ job :: after, P j) (hjob' : P job') :
    ∀ j ∈ before ++ job' :: after, P j := by
  intro j hj
  rcases List.mem_append.mp hj with hbefore | hrest
  · exact h j (by simp [hbefore])
  rcases List.mem_cons.mp hrest with rfl | hafter
  · exact hjob'
  · exact h j (by simp [hafter])

/-- What has been collected comes from the files in front of the next one. -/
lemma IsReadingOf.front_eq {before after : List Job} {job : Job} {ts : List (Option Text)}
    {remarks : List Log.Record}
    (h : IsReadingOf codecs d encoding paths ⟨before ++ job :: after, .texts ts, remarks⟩)
    (hnext : ts.length = before.length) :
    (loadInTurn codecs d encoding (before.map Job.path)).result = .ok ts ∧
      paths = before.map Job.path ++ job.path :: after.map Job.path := by
  obtain ⟨front, rest, hpaths, hfront⟩ := h.inTurn
  have hall : before.map Job.path ++ job.path :: after.map Job.path = paths := by
    simpa using h.paths_eq
  have hlength : (before.map Job.path).length = front.length := by
    rw [List.length_map, ← hnext, eq_of_result_loadInTurn hfront, List.length_map]
  obtain ⟨rfl, -⟩ := List.append_inj (hall.trans hpaths) hlength
  exact ⟨hfront, hall.symm⟩

/-- A step goes on with the reading of the same files. -/
lemma IsReadingOf.step (h : s.IsReadingOf codecs d encoding paths)
    (hstep : Step codecs d encoding workers s s') : s'.IsReadingOf codecs d encoding paths := by
  cases hstep with
  | @takeUp before after path collected remarks hfree =>
    refine ⟨by simpa using h.paths_eq, ?_, h.inTurn, fun ts hts => ?_, ?_⟩
    · exact forall_mem_exchange h.finished_eq (by rintro r ⟨⟩)
    · exact forall_mem_exchange (h.not_withdrawn ts hts) (by simp)
    · simpa [Job.remarks] using h.remarks_perm
  | @finish before after path collected remarks =>
    refine ⟨by simpa using h.paths_eq, ?_, h.inTurn, fun ts hts => ?_, ?_⟩
    · exact forall_mem_exchange h.finished_eq (by rintro r ⟨⟩; rfl)
    · exact forall_mem_exchange (h.not_withdrawn ts hts) (by simp)
    · have hbefore : remarks.Perm (before.flatMap Job.remarks ++ after.flatMap Job.remarks) := by
        simpa [Job.remarks] using h.remarks_perm
      have hmoved := hbefore.append_right (load codecs d encoding path).remarks
      rw [List.append_assoc] at hmoved
      have hswapped := hmoved.trans (List.perm_append_comm.append_left _)
      simpa [Job.remarks] using hswapped
  | @collect before after path r ts t remarks hnext hr =>
    obtain ⟨hfront, hpaths⟩ := h.front_eq hnext
    refine ⟨h.paths_eq, h.finished_eq, ?_, fun _ _ => h.not_withdrawn ts rfl, h.remarks_perm⟩
    have hload : r = load codecs d encoding path := h.finished_eq ⟨path, .finished r⟩ (by simp) r rfl
    refine ⟨before.map Job.path ++ [path], after.map Job.path, by simpa using hpaths, ?_⟩
    rw [result_loadInTurn_append, hfront, result_loadInTurn_cons, ← hload, hr]
    rfl
  | @stop before after path r ts f remarks hnext hr =>
    obtain ⟨hfront, hpaths⟩ := h.front_eq hnext
    refine ⟨h.paths_eq, h.finished_eq, ?_, by rintro _ ⟨⟩, h.remarks_perm⟩
    have hload : r = load codecs d encoding path := h.finished_eq ⟨path, .finished r⟩ (by simp) r rfl
    rw [CollectsInTurn, hpaths, result_loadInTurn_append, hfront, result_loadInTurn_cons, ← hload,
      hr]
    rfl
  | @withdraw before after path f remarks =>
    refine ⟨by simpa using h.paths_eq, ?_, h.inTurn, by rintro _ ⟨⟩, ?_⟩
    · exact forall_mem_exchange h.finished_eq (by rintro r ⟨⟩)
    · simpa [Job.remarks] using h.remarks_perm

/-- A run goes on with the reading of the same files. -/
lemma IsReadingOf.run (h : s.IsReadingOf codecs d encoding paths)
    (hrun : Run codecs d encoding workers s s') : s'.IsReadingOf codecs d encoding paths := by
  induction hrun with
  | refl => exact h
  | tail _ hstep ih => exact ih.step hstep

/-! ## Pools that are left -/

/-- A pool that can be left has come to what reading in turn comes to. -/
lemma IsReadingOf.result_of_isOver (h : s.IsReadingOf codecs d encoding paths) (hover : s.IsOver) :
    s.report.result = (loadInTurn codecs d encoding paths).result := by
  have hinTurn := h.inTurn
  have hcollected := hover.collected
  unfold IsCollected at hcollected
  unfold report
  cases hc : s.collected with
  | stopped f =>
    rw [hc] at hinTurn
    exact hinTurn.symm
  | texts ts =>
    rw [hc] at hinTurn hcollected
    obtain ⟨front, rest, hpaths, hfront⟩ := hinTurn
    -- As many texts have been collected as there are files, so the front is all of them.
    have hlength : front.length = paths.length := by
      rw [← h.paths_eq, List.length_map, ← hcollected, eq_of_result_loadInTurn hfront,
        List.length_map]
    have hrest : rest = [] := by simpa [hpaths] using hlength
    rw [hpaths, hrest, List.append_nil, hfront]

/-- When there is no fault, the remarks made in a pool are those made in turn, up to their order. -/
lemma IsReadingOf.remarks_of_isOver (h : s.IsReadingOf codecs d encoding paths) (hover : s.IsOver)
    {ts : List (Option Text)} (hresult : s.report.result = .ok ts) :
    s.report.remarks.Perm (loadInTurn codecs d encoding paths).remarks := by
  have hts : s.collected = .texts ts := by
    unfold report at hresult
    cases hc : s.collected with
    | stopped f =>
      rw [hc] at hresult
      cases hresult
    | texts us =>
      rw [hc] at hresult
      cases hresult
      rfl
  have hjob : ∀ job ∈ s.jobs, job.remarks = (load codecs d encoding job.path).remarks := by
    intro job hmem
    rcases hover.settled job hmem with hwithdrawn | ⟨r, hr⟩
    · exact absurd hwithdrawn (h.not_withdrawn ts hts job hmem)
    · rw [Job.remarks, hr, h.finished_eq job hmem r hr]
  have hall : s.jobs.flatMap Job.remarks =
      paths.flatMap fun path => (load codecs d encoding path).remarks := by
    rw [← h.paths_eq, List.flatMap_map]
    exact List.flatMap_congr hjob
  rw [h.result_of_isOver hover] at hresult
  rw [remarks_loadInTurn hresult, ← hall]
  exact h.remarks_perm

/-! ## Going on -/

/-- There are no more texts than files. -/
lemma IsReadingOf.length_le {jobs : List Job} {ts : List (Option Text)}
    {remarks : List Log.Record} (h : IsReadingOf codecs d encoding paths ⟨jobs, .texts ts, remarks⟩) :
    ts.length ≤ jobs.length := by
  obtain ⟨front, rest, hpaths, hfront⟩ := h.inTurn
  have hlength : ts.length = front.length := by
    rw [eq_of_result_loadInTurn hfront, List.length_map]
  have hjobs : jobs.length = front.length + rest.length := by
    rw [← List.length_append, ← hpaths, ← h.paths_eq, List.length_map]
  omega

/-- Where nobody is busy and nothing waits, what has been read of the next file is collected. -/
lemma IsReadingOf.exists_step_of_isSettled {jobs : List Job} {ts : List (Option Text)}
    {remarks : List Log.Record} (h : IsReadingOf codecs d encoding paths ⟨jobs, .texts ts, remarks⟩)
    (hsettled : ∀ job ∈ jobs, job.IsSettled) (hlt : ts.length < jobs.length) :
    ∃ s', Step codecs d encoding workers ⟨jobs, .texts ts, remarks⟩ s' := by
  have hsplit : jobs = jobs.take ts.length ++ jobs[ts.length] :: jobs.drop (ts.length + 1) := by
    rw [← List.drop_eq_getElem_cons hlt, List.take_append_drop]
  have hnext : ts.length = (jobs.take ts.length).length := by
    rw [List.length_take]
    omega
  have hmem : jobs[ts.length] ∈ jobs := List.getElem_mem hlt
  have hstage := hsettled _ hmem
  have hkept := h.not_withdrawn ts rfl _ hmem
  generalize jobs[ts.length] = job at hsplit hstage hkept
  generalize jobs.take ts.length = before at hsplit hnext
  obtain ⟨path, stage⟩ := job
  rcases hstage with hwithdrawn | ⟨r, rfl⟩
  · exact absurd hwithdrawn hkept
  rw [hsplit]
  cases hr : r.result with
  | ok t => exact ⟨_, .collect hnext hr⟩
  | error f => exact ⟨_, .stop hnext hr⟩

/-- As long as a pool cannot be left, something can happen to it. -/
lemma IsReadingOf.exists_step (h : s.IsReadingOf codecs d encoding paths) (hworkers : 0 < workers)
    (hover : ¬ s.IsOver) : ∃ s', Step codecs d encoding workers s s' := by
  obtain ⟨jobs, collected, remarks⟩ := s
  by_cases hrunning : ∃ job ∈ jobs, job.stage = .running
  · obtain ⟨⟨path, _⟩, hmem, rfl⟩ := hrunning
    obtain ⟨before, after, rfl⟩ := List.append_of_mem hmem
    exact ⟨_, .finish⟩
  by_cases hwaiting : ∃ job ∈ jobs, job.stage = .waiting
  · obtain ⟨⟨path, _⟩, hmem, rfl⟩ := hwaiting
    obtain ⟨before, after, rfl⟩ := List.append_of_mem hmem
    have hfree : (before ++ after).countP Job.isRunning = 0 := by
      refine List.countP_eq_zero.mpr fun job hjob hbusy => hrunning ⟨job, ?_, ?_⟩
      · rcases List.mem_append.mp hjob with hjob | hjob <;> simp [hjob]
      · unfold Job.isRunning at hbusy
        split at hbusy
        · assumption
        · cases hbusy
    exact ⟨_, .takeUp (by rwa [hfree])⟩
  -- Nobody is busy and nothing waits, so there is something left to be collected.
  have hsettled : ∀ job ∈ jobs, job.IsSettled := by
    intro job hmem
    cases hstage : job.stage with
    | waiting => exact absurd ⟨job, hmem, hstage⟩ hwaiting
    | running => exact absurd ⟨job, hmem, hstage⟩ hrunning
    | finished r => exact Or.inr ⟨r, hstage⟩
    | withdrawn => exact Or.inl hstage
  cases collected with
  | stopped f => exact absurd ⟨hsettled, trivial⟩ hover
  | texts ts =>
    have hne : ts.length ≠ jobs.length := fun heq => hover ⟨hsettled, heq⟩
    exact h.exists_step_of_isSettled hsettled (Nat.lt_of_le_of_ne h.length_le hne)

/-- How much is left to be done for a file. -/
def effortOf (job : Job) : Nat :=
  match job.stage with
  | .waiting => 2
  | .running => 1
  | _ => 0

/-- How much is left to be done in a pool: for the files, and for collecting their texts. -/
def effort (s : Pool) : Nat :=
  (s.jobs.map effortOf).sum +
    match s.collected with
    | .texts ts => s.jobs.length + 1 - ts.length
    | .stopped _ => 0

/-- Every step leaves less to be done. -/
lemma effort_lt_of_step (hstep : Step codecs d encoding workers s s') : s'.effort < s.effort := by
  cases hstep with
  | takeUp hfree => simp [effort, effortOf]
  | finish => simp [effort, effortOf]
  | collect hnext hr =>
    simp only [effort, List.length_append, List.length_cons, List.length_nil]
    omega
  | stop hnext hr =>
    simp only [effort, List.length_append, List.length_cons]
    omega
  | withdraw => simp [effort, effortOf]

/-- No pool goes on forever. -/
lemma wellFounded_step (codecs : Codecs) (d : Disk) (encoding : Text) (workers : Nat) :
    WellFounded fun s' s => Step codecs d encoding workers s s' :=
  Subrelation.wf (fun h => effort_lt_of_step h) (measure effort).wf

/-- Every pool with a worker can be left in the end. -/
lemma IsReadingOf.exists_isOver (h : s.IsReadingOf codecs d encoding paths) (hworkers : 0 < workers) :
    ∃ s', Run codecs d encoding workers s s' ∧ s'.IsOver := by
  induction s using (wellFounded_step codecs d encoding workers).induction with
  | _ s ih =>
    by_cases hover : s.IsOver
    · exact ⟨s, .refl, hover⟩
    · obtain ⟨s', hstep⟩ := h.exists_step hworkers hover
      obtain ⟨s'', hrun, hover'⟩ := ih s' hstep (h.step hstep)
      exact ⟨s'', hrun.head hstep, hover'⟩

end Pool

/-! ## All ways of reading -/

/-- The files at the given paths may be read in this way: one after another, or in a pool, whatever
happens there in whatever order. -/
inductive Reads (codecs : Codecs) (d : Disk) (encoding : Text) (workers : Option Int)
    (paths : List Text) : Report ReadFault (List (Option Text)) → Prop
  | inTurn (h : readsTogether workers paths = false) :
      Reads codecs d encoding workers paths (loadInTurn codecs d encoding paths)
  | together {n : Int} {s : Pool} (hworkers : workers = some n)
      (htogether : readsTogether workers paths = true)
      (hrun : Pool.Run codecs d encoding n.toNat (.start paths) s) (hover : s.IsOver) :
      Reads codecs d encoding workers paths s.report

variable {codecs : Codecs} {d : Disk} {encoding : Text} {workers : Option Int} {paths : List Text}
  {reading : Report ReadFault (List (Option Text))}

/-- Every way of reading comes to the same result. -/
lemma Reads.result_eq (h : Reads codecs d encoding workers paths reading) :
    reading.result = (loadInTurn codecs d encoding paths).result := by
  cases h with
  | inTurn h => rfl
  | together hworkers htogether hrun hover =>
    exact ((Pool.isReadingOf_start codecs d encoding paths).run hrun).result_of_isOver hover

/-- Every way of reading makes the same remarks when there is no fault, though not in the same
order. -/
lemma Reads.remarks_perm (h : Reads codecs d encoding workers paths reading)
    {ts : List (Option Text)} (hts : reading.result = .ok ts) :
    reading.remarks.Perm (loadInTurn codecs d encoding paths).remarks := by
  cases h with
  | inTurn h => exact .refl _
  | together hworkers htogether hrun hover =>
    exact ((Pool.isReadingOf_start codecs d encoding paths).run hrun).remarks_of_isOver hover hts

/-- Several workers are at least one. -/
lemma toNat_pos_of_readsTogether {n : Int} (h : readsTogether (some n) paths = true) :
    0 < n.toNat := by
  simp only [readsTogether, Bool.and_eq_true, decide_eq_true_eq] at h
  omega

/-- There is a way of reading. -/
lemma exists_reads (codecs : Codecs) (d : Disk) (encoding : Text) (workers : Option Int)
    (paths : List Text) : ∃ reading, Reads codecs d encoding workers paths reading := by
  cases htogether : readsTogether workers paths with
  | false => exact ⟨_, .inTurn htogether⟩
  | true =>
    cases workers with
    | none => cases htogether
    | some n =>
      obtain ⟨s, hrun, hover⟩ := (Pool.isReadingOf_start codecs d encoding paths).exists_isOver
        (toNat_pos_of_readsTogether htogether)
      exact ⟨_, .together rfl htogether hrun hover⟩

/-! ## Graphs -/

/-- The graph of the files at the given paths, after they have been read. -/
def graphOfReading (candidates : List Text) (reading : Report ReadFault (List (Option Text))) :
    Report ReadFault Graph := do
  let texts ← reading
  let files := readable candidates texts
  Report.noteAll (Graph.remarks files)
  Report.note .info (tallyMessage candidates.length (Graph.ofFiles files))
  return Graph.ofFiles files

/-- The graph of some paths is the graph of what is read there. -/
lemma graphOfPaths_eq (d : Disk) (paths : List Text) (workers : Option Int) (encoding : Text) :
    graphOfPaths codecs d paths workers encoding =
      graphOfReading (paths.map d.absolute)
        (loadAll codecs d workers encoding (paths.map d.absolute)) := rfl

/-- The graph depends on what is read, and not on what is remarked. -/
lemma result_graphOfReading (candidates : List Text)
    (reading : Report ReadFault (List (Option Text))) :
    (graphOfReading candidates reading).result =
      reading.result.map fun texts => Graph.ofFiles (readable candidates texts) := by
  rw [graphOfReading]
  simp only [Report.result_bind]
  cases reading.result <;> rfl

/-- What is remarked on the graph comes after what is remarked on the reading. -/
lemma remarks_graphOfReading_perm {candidates : List Text}
    {reading' : Report ReadFault (List (Option Text))} {ts : List (Option Text)}
    (h : reading.result = .ok ts) (h' : reading'.result = .ok ts)
    (hperm : reading.remarks.Perm reading'.remarks) :
    (graphOfReading candidates reading).remarks.Perm
      (graphOfReading candidates reading').remarks := by
  rw [graphOfReading, graphOfReading, Report.remarks_bind_of_ok h, Report.remarks_bind_of_ok h']
  exact hperm.append_right _

/-- The first of the files that cannot be asked for is asked for in this way. -/
def IsFirstFault (codecs : Codecs) (d : Disk) (encoding : Text) (paths : List Text)
    (f : ReadFault) : Prop :=
  ∃ before path after, paths = before ++ path :: after ∧ IsAskedFor codecs d encoding before ∧
    d.read codecs path encoding = .error f ∧ ∀ p why, f ≠ .unreadable p why

/-- Reading in turn stops at the first file that cannot be asked for. -/
lemma result_loadInTurn_eq_error_iff {f : ReadFault} :
    (loadInTurn codecs d encoding paths).result = .error f ↔
      IsFirstFault codecs d encoding paths f := by
  constructor
  · intro h
    induction paths with
    | nil => cases h
    | cons path paths ih =>
      rw [result_loadInTurn_cons] at h
      cases hload : (load codecs d encoding path).result with
      | error g =>
        rw [hload] at h
        cases h
        exact ⟨[], path, paths, rfl, by simp [IsAskedFor], result_load_eq_error_iff.mp hload⟩
      | ok t =>
        rw [hload] at h
        cases hrest : (loadInTurn codecs d encoding paths).result with
        | ok ts =>
          rw [hrest] at h
          cases h
        | error g =>
          rw [hrest] at h
          cases h
          obtain ⟨before, path', after, rfl, hbefore, hfault⟩ := ih hrest
          have hfirst : ∀ f, (load codecs d encoding path).result ≠ .error f := by simp [hload]
          exact ⟨path :: before, path', after, rfl, isAskedFor_cons_iff.mpr ⟨hfirst, hbefore⟩,
            hfault⟩
  · rintro ⟨before, path, after, rfl, hbefore, hfault⟩
    rw [result_loadInTurn_append, result_loadInTurn hbefore, result_loadInTurn_cons,
      result_load_eq_error_iff.mpr hfault]
    rfl

/-- However many workers there are, and in whatever order they take up the files and come to their
ends, the graph of some paths is that of reading the files in turn, and the remarks are the same up
to their order; so is the fault, which is that of the first file that cannot be asked for.  There
is a way of reading, a pool that has been begun can always be brought to an end, and none goes on
forever. -/
theorem graphOfPaths_of_reads (d : Disk) (paths : List Text) (workers : Option Int)
    (encoding : Text) :
    let candidates := paths.map d.absolute
    let inTurn := graphOfPaths codecs d paths none encoding
    (∃ reading, Reads codecs d encoding workers candidates reading) ∧
    (∀ reading, Reads codecs d encoding workers candidates reading →
      (graphOfReading candidates reading).result = inTurn.result ∧
        ∀ g, inTurn.result = .ok g →
          (graphOfReading candidates reading).remarks.Perm inTurn.remarks) ∧
    (graphOfPaths codecs d paths workers encoding).result = inTurn.result ∧
    (∀ f, inTurn.result = .error f ↔ IsFirstFault codecs d encoding candidates f) ∧
    (∀ n s, workers = some n → readsTogether workers candidates = true →
      Pool.Run codecs d encoding n.toNat (.start candidates) s →
        ∃ s', Pool.Run codecs d encoding n.toNat s s' ∧ s'.IsOver) ∧
    ∀ n, WellFounded fun s' s => Pool.Step codecs d encoding n s s' := by
  intro candidates inTurn
  have hinTurn : inTurn = graphOfReading candidates (loadInTurn codecs d encoding candidates) := rfl
  refine ⟨exists_reads codecs d encoding workers candidates, ?_, ?_, ?_, ?_,
    Pool.wellFounded_step codecs d encoding⟩
  · intro reading hreads
    have hresult := hreads.result_eq
    refine ⟨by rw [hinTurn, result_graphOfReading, result_graphOfReading, hresult], ?_⟩
    intro g hg
    cases hload : (loadInTurn codecs d encoding candidates).result with
    | error f =>
      rw [hinTurn, result_graphOfReading, hload] at hg
      cases hg
    | ok ts =>
      rw [hload] at hresult
      exact remarks_graphOfReading_perm hresult hload (hreads.remarks_perm hresult)
  · rw [graphOfPaths_eq, loadAll_eq, hinTurn]
  · intro f
    rw [hinTurn, result_graphOfReading, ← result_loadInTurn_eq_error_iff]
    cases (loadInTurn codecs d encoding candidates).result <;> simp [Except.map]
  · rintro n s rfl htogether hrun
    exact ((Pool.isReadingOf_start codecs d encoding candidates).run hrun).exists_isOver
      (toNat_pos_of_readsTogether htogether)

end RelationAtlas.Scan
