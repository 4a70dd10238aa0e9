import RelationAtlas.Command.Outcome
import RelationAtlas.Proofs.Command.Arguments
import RelationAtlas.Proofs.Json.RoundTrip
import RelationAtlas.Proofs.Scan.Reading
import RelationAtlas.Proofs.Tree.Writing
import RelationAtlas.Viewer

/-!
# The command line and the viewer

A graph can be asked for on the command line and by a viewer.  Both look for the project at the
absolute form of the root and scan it under the same settings, apart from the number of files that are
read at a time, which has no effect on the graph (`project_settle`).  So a root that the one refuses is
refused by the other, and the text that the command line writes is read as the graph that the viewer is
given (`run_agrees_analyze`).

The command line has one limit that the viewer does not have: a number with more than 4300 digits is
not read.  And what is written of a string does not tell a character from the two halves of its pair of
units, which is no matter for texts, since they hold no halves (`not_run_hugeNumber_pair`).
-/

namespace RelationAtlas.Command

variable {s : Session} {settings : Settings} {root : Text} {wishes : List Wish}

/-! ## The scan -/

lemma path_asked (root : Text) (wishes : List Wish) : (Analysis.asked root wishes).path = root := by
  have hkept : ∀ a : Analysis, (wishes.foldl (fun a w => w.apply a) a).path = a.path := by
    induction wishes with
    | nil => exact fun _ => rfl
    | cons w wishes ih =>
      intro a
      rw [List.foldl_cons, ih]
      cases w <;> rfl
  exact hkept _

/-- What the command line says about the reading of files has no effect on a scan. -/
lemma project_settle (codecs : Codecs) (d : Disk) (root : Text) (a : Analysis) (s : Settings) :
    Scan.project codecs d root (a.settle s) = Scan.project codecs d root s := by
  unfold Analysis.settle
  split
  · simp only [Scan.project, Scan.graphOfPaths, Scan.loadAll_eq]
  · rfl

/-! ## Runs -/

/-- A run that asks for a graph, when the settings have been loaded and name no file for remarks. -/
lemma run_eq {level : Log.Level} (hloaded : s.loaded = some settings)
    (hlog : settings.logFile = none) (hlevel : Log.Level.named? settings.logLevel = some level)
    (hroot : root.head? ≠ some '-') (hwishes : ∀ w ∈ wishes, w.IsPlain) :
    let ended := (Analysis.asked root wishes).run s.codecs settings ⟨level, none⟩ s.disk
    (run s (analysisLine root wishes)).1.disk = ended.1 ∧
      (run s (analysisLine root wishes)).2 = ended.2 := by
  have hsettings : s.settings = .ok settings := Session.settings_of_loaded hloaded
  have hnotices : s.notices = [] := by rw [Session.notices, hloaded]
  have hlevel' : levelOf (some settings.logLevel) = .ok level := by rw [levelOf, hlevel]
  have hbegun : (⟨some settings.logLevel, .analyze (Analysis.asked root wishes)⟩ : Invocation).run
      s.codecs settings s.now s.disk =
        (Analysis.asked root wishes).run s.codecs settings ⟨level, none⟩ s.disk := by
    rw [Invocation.run, hlevel', hlog]
    rfl
  rw [run, hsettings]
  simp only [ofArguments_analysisLine settings hroot hwishes, hbegun, hnotices]
  refine ⟨rfl, ?_⟩
  rcases (Analysis.asked root wishes).run s.codecs settings ⟨level, none⟩ s.disk with ⟨d, f | o⟩
  · rfl
  · cases o <;> rfl

/-- A text can be written to the file. -/
def IsWritable (d : Disk) (file : Text) : Prop := ∃ d', writeText d file [] = .ok d'

lemma exists_writeText {d : Disk} {file : Text} (h : IsWritable d file) (t : Text) :
    ∃ d', writeText d file t = .ok d' ∧ d'.bytes file = .ok (Utf8.encode t) := by
  obtain ⟨d', hempty⟩ := h
  unfold writeText at hempty ⊢
  split at hempty
  · cases hempty
  next hnul =>
  cases hwrite : d.write file (Utf8.encode []) with
  | error f =>
    rw [hwrite] at hempty
    cases hempty
  | ok written =>
    obtain ⟨d'', htext⟩ := Disk.exists_write_of_write hwrite (Utf8.encode t)
    refine ⟨d'', ?_, Disk.bytes_of_write htext⟩
    rw [if_neg hnul, htext]
    rfl

section Task

variable {codecs : Codecs} {a : Analysis} {d : Disk} {level : Log.Level} {g : Graph}

/-- Status 2 means that no project has been found, and nothing is written then. -/
lemma status_eq_two_iff :
    ((∃ errors, (a.run codecs settings ⟨level, none⟩ d).2 = .ok (.done 2 [] errors)) ∧
      (a.run codecs settings ⟨level, none⟩ d).1 = d) ↔
    ∃ searched, (Scan.project codecs d (d.absolute a.path) settings).result =
      .error (.search (.noRoot searched)) := by
  rw [← project_settle codecs d _ a]
  constructor
  · rintro ⟨⟨errors, hended⟩, -⟩
    unfold Analysis.run at hended
    simp only at hended
    split at hended
    · next searched hscan => exact ⟨searched, hscan⟩
    · cases hended
    split at hended
    · cases hended
    split at hended
    · cases hended
    · cases hended
  · rintro ⟨searched, hscan⟩
    simp only [Analysis.run, hscan]
    exact ⟨⟨_, rfl⟩, rfl⟩

/-- Without the name of a file, the graph is printed. -/
lemma run_of_file?_eq_none (h : (Scan.project codecs d (d.absolute a.path) settings).result = .ok g)
    (hfile : a.file? = none) :
    (∃ errors, (a.run codecs settings ⟨level, none⟩ d).2 = .ok (.done 0 (graphText g) errors)) ∧
      (a.run codecs settings ⟨level, none⟩ d).1 = d := by
  rw [← project_settle codecs d _ a] at h
  simp only [Analysis.run, h, hfile]
  exact ⟨⟨_, rfl⟩, rfl⟩

/-- The graph is written to the file that is named. -/
lemma run_of_file?_eq_some (h : (Scan.project codecs d (d.absolute a.path) settings).result = .ok g)
    {file : Text} (hfile : a.file? = some file) (hwritable : IsWritable d file) :
    (∃ errors, (a.run codecs settings ⟨level, none⟩ d).2 = .ok (.done 0 [] errors)) ∧
      (a.run codecs settings ⟨level, none⟩ d).1.bytes file = .ok (Utf8.encode (graphText g)) := by
  rw [← project_settle codecs d _ a] at h
  obtain ⟨d', hwrite, hbytes⟩ := exists_writeText hwritable (graphText g)
  have hkept : (⟨level, none⟩ : Journal).keep d (Scan.project codecs d (d.absolute a.path)
      (a.settle settings)).remarks = d := Journal.keep_of_path rfl _ _
  simp only [Analysis.run, h, hfile, hkept, hwrite]
  exact ⟨⟨_, rfl⟩, hbytes⟩

end Task

/-! ## The viewer -/

/-- What a viewer is told, when the settings have been loaded. -/
lemma analyze_eq (hloaded : s.loaded = some settings) : Viewer.analyze s root =
    match (Scan.project s.codecs s.disk (s.disk.absolute root) settings).result with
    | .ok g => .ok ⟨g.payload, g.summary (some (s.disk.absolute root))⟩
    | .error (.search (.noRoot _)) =>
      .error (.refused 400 ("Invalid root_path: ".toList ++ s.disk.absolute root))
    | .error f => .error (.scan f) := by
  unfold Viewer.analyze
  rw [Session.settings_of_loaded hloaded]
  rfl

lemma analyze_eq_refused_iff (hloaded : s.loaded = some settings) : Viewer.analyze s root =
      .error (.refused 400 ("Invalid root_path: ".toList ++ s.disk.absolute root)) ↔
    ∃ searched, (Scan.project s.codecs s.disk (s.disk.absolute root) settings).result =
      .error (.search (.noRoot searched)) := by
  rw [analyze_eq hloaded]
  constructor
  · intro h
    split at h
    · cases h
    · next searched hscan => exact ⟨searched, hscan⟩
    · cases h
  · rintro ⟨searched, hscan⟩
    rw [hscan]

lemma exists_graph_of_analyze (hloaded : s.loaded = some settings) {r : Viewer.Analysis}
    (h : Viewer.analyze s root = .ok r) :
    ∃ g, (Scan.project s.codecs s.disk (s.disk.absolute root) settings).result = .ok g ∧
      r.graph = g.payload := by
  rw [analyze_eq hloaded] at h
  split at h
  · next g hscan =>
    cases h
    exact ⟨g, hscan, rfl⟩
  · cases h
  · cases h

/-! ## Both sides -/

/-- The command line and the viewer agree on every root: a root that is refused is refused by both,
and a graph that the viewer is given is written by the command line as a text that is read as this
graph.  The text is printed, unless a file is named: then it is in the file, and nothing is printed.

The strings of a graph are texts.  Strings that are none, because they have the halves of pairs among
their codes, would be read with their pairs joined, and as they were only without pairs. -/
theorem run_agrees_analyze (hloaded : s.loaded = some settings) (hlog : settings.logFile = none)
    (hlevel : (Log.Level.named? settings.logLevel).isSome) (hroot : root.head? ≠ some '-')
    (hwishes : ∀ w ∈ wishes, w.IsPlain) :
    let ended := run s (analysisLine root wishes)
    ((∃ errors, ended.2 = .ok (.done 2 [] errors)) ∧ ended.1.disk = s.disk ↔
      Viewer.analyze s root =
        .error (.refused 400 ("Invalid root_path: ".toList ++ s.disk.absolute root))) ∧
    (∀ r, Viewer.analyze s root = .ok r →
      let text := r.graph.json.text ++ ['\n']
      (∀ p : Payload, Json.ofText text = .ok p.json ↔ p = r.graph) ∧
      ((Analysis.asked root wishes).file? = none →
        (∃ errors, ended.2 = .ok (.done 0 text errors)) ∧ ended.1.disk = s.disk) ∧
      ∀ file, (Analysis.asked root wishes).file? = some file → IsWritable s.disk file →
        (∃ errors, ended.2 = .ok (.done 0 [] errors)) ∧
          ended.1.disk.bytes file = .ok (Utf8.encode text)) ∧
    (∀ v : Json, v.IsPlain Json.nestingLimit → Json.ofText (v.text ++ ['\n']) = .ok v.pairsJoined) ∧
    ∀ codes, Json.joinPairs codes = codes ↔
      codes.IsChain fun high low => ¬ Json.IsPair high low := by
  intro ended
  obtain ⟨level, hlevel⟩ := Option.isSome_iff_exists.mp hlevel
  obtain ⟨hdisk, hresult⟩ := run_eq hloaded hlog hlevel hroot hwishes
  have hpath := path_asked root wishes
  refine ⟨?_, ?_, fun v => Json.ofText_text, fun codes => Json.joinPairs_eq_self_iff⟩
  · rw [analyze_eq_refused_iff hloaded, hdisk, hresult, status_eq_two_iff, hpath]
  · intro r hr
    obtain ⟨g, hscan, hgraph⟩ := exists_graph_of_analyze hloaded hr
    rw [← hpath] at hscan
    rw [hgraph, hdisk, hresult]
    refine ⟨Payload.ofText_text_iff g.payload, ?_, ?_⟩
    · exact run_of_file?_eq_none hscan
    · intro file hfile hwritable
      exact run_of_file?_eq_some hscan hfile hwritable

/-- A disk with one model, whose file has a quote, a backslash, a line feed and a character beyond the
first plane in its name. -/
def oddlyNamed : Disk where
  tree := FileTree.empty.put ["\"\\\n😀.php".toList]
    (.file (Utf8.encode "<?php\nnamespace A;\nclass U".toList)) (by decide +kernel)
  cwd := []
  looksBehindLinks := false

/-- A session with that disk, whose settings look for files in the root. -/
def oddSession : Session where
  disk := oddlyNamed
  codecs := Codecs.standard
  environment := []
  now := ⟨0, 0⟩
  loaded := some { Settings.default with candidateGlobs := ["*.php".toList] }

/-- The graph of a file with such a name is written to a file as what the viewer is given. -/
theorem run_oddlyNamed :
    (oddSession.loaded = some { Settings.default with candidateGlobs := ["*.php".toList] } ∧
      Settings.default.logFile = none ∧ (Log.Level.named? Settings.default.logLevel).isSome ∧
      "/".toList.head? ≠ some '-' ∧
      ∀ w ∈ [Wish.workers (-3), .output "g.json".toList, .summary], w.IsPlain) ∧
    IsWritable oddSession.disk "g.json".toList ∧
    ∃ r, Viewer.analyze oddSession "/".toList = .ok r ∧
      r.graph.nodes.map NodeView.path = ["/\"\\\n😀.php".toList] ∧
      let ended := run oddSession (analysisLine "/".toList
        [.workers (-3), .output "g.json".toList, .summary])
      let text := r.graph.json.text ++ ['\n']
      (∀ p : Payload, Json.ofText text = .ok p.json ↔ p = r.graph) ∧
      (∃ errors, ended.2 = .ok (.done 0 [] errors)) ∧
        ended.1.disk.bytes "g.json".toList = .ok (Utf8.encode text) := by
  have hlevel : (Log.Level.named? Settings.default.logLevel).isSome := by decide +kernel
  have hroot : "/".toList.head? ≠ some '-' := by decide
  have hwishes : ∀ w ∈ [Wish.workers (-3), .output "g.json".toList, .summary], w.IsPlain := by
    intro w hw
    simp only [List.mem_cons, List.not_mem_nil, or_false] at hw
    rcases hw with rfl | rfl | rfl
    · show (Text.ofNat 3).length ≤ Text.digitLimit
      decide
    · show "g.json".toList.head? ≠ some '-'
      decide
    · trivial
  have hwritable : IsWritable oddSession.disk "g.json".toList := by
    have hwritten : (writeText oddlyNamed "g.json".toList []).toOption.isSome := by decide +kernel
    obtain ⟨d', hd'⟩ := Option.isSome_iff_exists.mp hwritten
    exact ⟨d', Scan.eq_ok_of_toOption hd'⟩
  have hshown : (Viewer.analyze oddSession "/".toList).toOption.map
      (fun r => r.graph.nodes.map NodeView.path) = some ["/\"\\\n😀.php".toList] := by
    decide +kernel
  obtain ⟨r, hsome, hnodes⟩ := Option.map_eq_some_iff.mp hshown
  have hr : Viewer.analyze oddSession "/".toList = .ok r := Scan.eq_ok_of_toOption hsome
  obtain ⟨htext, -, hwritten⟩ :=
    (run_agrees_analyze (s := oddSession) rfl rfl hlevel hroot hwishes).2.1 r hr
  exact ⟨⟨rfl, rfl, hlevel, hroot, hwishes⟩, hwritable, r, hr, hnodes, htext,
    hwritten "g.json".toList rfl hwritable⟩

/-- A session with an empty disk. -/
def emptySession : Session where
  disk := ⟨FileTree.empty, [], false⟩
  codecs := Codecs.standard
  environment := []
  now := ⟨0, 0⟩
  loaded := some Settings.default

/-- The least number with more digits than can be read. -/
def hugeNumber : Nat := Nat.pow 10 Text.digitLimit

/-- A number of files that has too many digits stops the command line, although the viewer has a graph
for the root.  A string of the two halves of a pair is read as the character of the pair. -/
theorem not_run_hugeNumber_pair :
    (emptySession.loaded = some Settings.default ∧ Settings.default.logFile = none ∧
      (Log.Level.named? Settings.default.logLevel).isSome ∧ "/".toList.head? ≠ some '-') ∧
    (∃ r, Viewer.analyze emptySession "/".toList = .ok r) ∧
    (run emptySession (analysisLine "/".toList [.workers hugeNumber])).2 = .ok (.ended .misuse) ∧
    (¬ ∃ output errors,
      (run emptySession (analysisLine "/".toList [.workers hugeNumber])).2 =
        .ok (.done 0 output errors)) ∧
    (Json.string [0xd83d, 0xde00]).text = "\"\\ud83d\\ude00\"".toList ∧
    Json.ofText ("\"\\ud83d\\ude00\"".toList ++ ['\n']) = .ok (.string [0x1f600]) := by
  have hlevel : (Log.Level.named? Settings.default.logLevel).isSome := by decide +kernel
  have hroot : "/".toList.head? ≠ some '-' := by decide
  have hshown : (Viewer.analyze emptySession "/".toList).toOption.isSome := by decide +kernel
  obtain ⟨r, hr⟩ := Option.isSome_iff_exists.mp hshown
  have hlong : Text.digitLimit < (Text.ofNat (hugeNumber : Int).natAbs).length := by
    rw [Int.natAbs_natCast]
    unfold hugeNumber
    exact Text.lt_length_ofNat_pow (by decide)
  have hended : (run emptySession (analysisLine "/".toList [.workers hugeNumber])).2 =
      .ok (.ended .misuse) := by
    have hsettings : emptySession.settings = .ok Settings.default := rfl
    rw [run, hsettings]
    simp only [ofArguments_of_tooLong Settings.default hroot hlong]
  have htext : (Json.string [0xd83d, 0xde00]).text = "\"\\ud83d\\ude00\"".toList := by
    decide +kernel
  refine ⟨⟨rfl, rfl, hlevel, hroot⟩, ⟨r, Scan.eq_ok_of_toOption hr⟩, hended, ?_, htext, ?_⟩
  · rintro ⟨output, errors, hdone⟩
    rw [hended] at hdone
    cases hdone
  · rw [← htext, Json.ofText_text (.string (by decide))]
    rfl

end RelationAtlas.Command
