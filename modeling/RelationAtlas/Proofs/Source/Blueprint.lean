import RelationAtlas.Graph.Contribution
import RelationAtlas.Proofs.Source.Names

/-!
# Blueprints of model files

A blueprint says what a plain model file declares: its namespace, its class, its imports, and its
methods with the relationships that they call.  `Blueprint.render` writes the file down, one line for
each of these things, and `Blueprint.contribution` says what the file contributes to the graph.

The names in a blueprint are arbitrary texts of word characters, and of backslashes where a path of
names may stand; they may be words that introduce something, such as `use` or `public`.
-/

namespace RelationAtlas

/-- A method and the relationships that it calls. -/
structure MethodPlan where
  name : Word
  calls : List (RelationKind × SpelledName)

/-- What a plain model file declares. -/
structure Blueprint where
  scope : SpelledName
  name : Word
  imports : List SpelledName
  methods : List MethodPlan

/-! ## Writing a file -/

namespace MethodPlan

/-- The line of a call. -/
def callLine (call : RelationKind × SpelledName) : Text :=
  "\t\t$this".toList ++ "->".toList ++ call.1.word ++ '(' ::
    (call.2.text ++ "::class".toList ++ ");".toList)

/-- The lines of a method. -/
def lines (m : MethodPlan) : List Text :=
  ["\tpublic function ".toList ++ m.name.text ++ "()".toList, "\t\x7b".toList] ++
    m.calls.map callLine ++ ["\t\x7d".toList]

end MethodPlan

namespace Blueprint

/-- The line of an import. -/
def importLine (path : SpelledName) : Text := "use ".toList ++ path.text ++ ";".toList

/-- The lines of a file in front of its last one. -/
def linesBefore (b : Blueprint) : List Text :=
  ["<?php".toList, [], "namespace ".toList ++ b.scope.text ++ ";".toList, []] ++
    b.imports.map importLine ++
    [[], "class ".toList ++ b.name.text ++ " extends Model".toList, "\x7b".toList] ++
    b.methods.flatMap MethodPlan.lines

/-- The lines of a file. -/
def lines (b : Blueprint) : List Text := b.linesBefore ++ ["\x7d".toList]

/-- The text of a file: its lines with line ends between them, and one more behind the last line if
`ended`. -/
def render (b : Blueprint) (ended : Bool) : Text :=
  Text.join ['\n'] b.lines ++ if ended then ['\n'] else []

/-! ## The text in parts -/

/-- The lines of imports. -/
def importText (paths : List SpelledName) : Text :=
  (paths.map importLine).flatMap (· ++ ['\n'])

lemma importText_cons (p : SpelledName) (paths : List SpelledName) :
    importText (p :: paths) = importLine p ++ '\n' :: importText paths := by
  simp [importText]

/-- The text of one import. -/
lemma importText_singleton (p : SpelledName) :
    importText [p] = "use ".toList ++ p.text ++ ";\n".toList := by
  rw [importText_cons, importLine]
  simp [importText]

/-- The lines of the methods. -/
def methodText (methods : List MethodPlan) : Text :=
  (methods.flatMap MethodPlan.lines).flatMap (· ++ ['\n'])

/-- The last line. -/
def lastLine (ended : Bool) : Text := "\x7d".toList ++ if ended then ['\n'] else []

/-- The lines of the class. -/
def classText (b : Blueprint) (ended : Bool) : Text :=
  "class ".toList ++ b.name.text ++ ' ' :: ("extends Model\n\x7b\n".toList ++
    (methodText b.methods ++ lastLine ended))

/-- The parts of the text of a file. -/
lemma render_eq (b : Blueprint) (ended : Bool) :
    b.render ended = "<?php\n\n".toList ++ ("namespace ".toList ++ b.scope.text ++ ';' ::
      ('\n' :: '\n' :: (importText b.imports ++ '\n' :: b.classText ended))) := by
  rw [render, lines, Text.join_concat, linesBefore]
  unfold importText classText methodText lastLine
  simp only [List.flatMap_append, List.flatMap_cons, List.append_assoc, List.nil_append,
    List.cons_append]
  rfl

/-! ## What the file means -/

/-- The fully qualified name of the class. -/
def classId (b : Blueprint) : Text := b.scope.text ++ '\\' :: b.name.text

/-- The imported paths whose last segment is the given one, in order; no path is imported by an empty
last segment. -/
def importsOf (b : Blueprint) (segment : Text) : List Text :=
  (b.imports.map SpelledName.text).filter fun path =>
    Name.lastSegment path = segment ∧ segment ≠ []

/-- What a target stands for: without its first character if it begins with a backslash; else the
last imported path with the same last segment; else that segment in the namespace of the file. -/
def meaning (b : Blueprint) (target : SpelledName) : Text :=
  if target.text.head? = some '\\' then target.text.tail
  else (b.importsOf (Name.lastSegment target.text)).getLast?.getD
    (b.scope.text ++ '\\' :: Name.lastSegment target.text)

/-- What the file contributes: its class, and an edge for each call of each method. -/
def contribution (b : Blueprint) (path : Text) : Contribution where
  node := ⟨b.classId, b.name.text, path⟩
  edges := b.methods.flatMap fun m => m.calls.map fun call =>
    ⟨b.classId, b.meaning call.2, m.name.text, call.1⟩

end Blueprint

end RelationAtlas
