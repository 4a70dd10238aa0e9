import RelationAtlas.Source.Name
import RelationAtlas.Text.Blank

/-!
# Class declarations

A model file declares its namespace and then its class.  A declaration may begin where a statement
may: at the start of the file or of a line, after a semicolon, or right after the opening tag.  Only
the first namespace counts, and only the first class after it.

The search walks over the file with the text before it at hand, nearest character first, because the
place where a declaration may begin is told by what stands before it (`opensDeclaration`).
-/

namespace RelationAtlas

/-- The class that a file declares. -/
structure ClassIdentity where
  scope : Text
  name : Text
  deriving DecidableEq, Repr

namespace ClassIdentity

/-- The fully qualified name of the class. -/
def qualified (c : ClassIdentity) : Text := Name.qualify c.scope c.name

end ClassIdentity

/-- Why a file declares no class. -/
inductive DeclarationFault where
  | noNamespace
  | noClass
  deriving DecidableEq, Repr

/-- The fault in words. -/
def DeclarationFault.message : DeclarationFault → Text
  | noNamespace => "no namespace declaration".toList
  | noClass => "no class declaration after namespace".toList

namespace Declaration

open Text

/-- May a declaration begin after this text, given nearest character first? -/
def opensDeclaration : Text → Bool
  | [] => true
  | '\n' :: _ => true
  | ';' :: _ => true
  | 'p' :: 'h' :: 'p' :: '?' :: '<' :: _ => true
  | _ => false

/-- The value of the first declaration of some form, and what follows it.  The first text is what
stands before the search, nearest character first. -/
def first? {α : Type} (read? : Text → Option (α × Text)) : Text → Text → Option (α × Text)
  | _, [] => none
  | before, c :: cs =>
    match if opensDeclaration before then read? (c :: cs) else none with
    | some found => some found
    | none => first? read? (c :: before) cs

/-- Reads a namespace declaration. -/
def readNamespace? (t : Text) : Option (Text × Text) := do
  let t ← after? "namespace".toList (t.dropWhile isIndent)
  let t ← afterBlanks? t
  let (name, t) ← run? Name.isNameChar t
  let t ← after? [';'] (dropBlanks t)
  return (name, t)

/-- The words that may stand before the word that introduces a class. -/
def modifiers : List Text := ["abstract".toList, "final".toList, "readonly".toList]

/-- What follows one modifier and the blanks after it. -/
def afterModifier? (t : Text) : Option Text :=
  modifiers.findSome? fun m => (after? m t).bind afterBlanks?

/-- A modifier takes up some of the text. -/
theorem afterModifier?_length {t rest : Text} (h : afterModifier? t = some rest) :
    rest.length < t.length := by
  obtain ⟨m, _, hm⟩ := List.exists_of_findSome?_eq_some h
  obtain ⟨u, hu, hrest⟩ := Option.bind_eq_some_iff.mp hm
  have := after?_length hu
  have := afterBlanks?_length hrest
  omega

/-- What follows all modifiers at the front of a text. -/
def dropModifiers (t : Text) : Text :=
  match _h : afterModifier? t with
  | some rest => dropModifiers rest
  | none => t
termination_by t.length
decreasing_by exact afterModifier?_length ‹_›

/-- Reads a class declaration as far as the name of the class. -/
def readClass? (t : Text) : Option (Text × Text) := do
  let t ← after? "class".toList (dropModifiers (t.dropWhile isIndent))
  let t ← afterBlanks? t
  run? isWord t

/-- The class that a file declares.  The class is looked for behind the semicolon that ends the
namespace declaration. -/
def identity (t : Text) : Except DeclarationFault ClassIdentity :=
  match first? readNamespace? [] t with
  | none => .error .noNamespace
  | some (scope, rest) =>
    match first? readClass? [';'] rest with
    | none => .error .noClass
    | some (name, _) => .ok ⟨scope, name⟩

end Declaration

end RelationAtlas
