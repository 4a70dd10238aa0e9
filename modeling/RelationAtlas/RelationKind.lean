import RelationAtlas.Text.Basic

/-!
# Kinds of relationship

A model declares a relationship by calling one of ten methods; the name of the method is the kind of
the relationship.
-/

namespace RelationAtlas

/-- The kinds of relationship between models. -/
inductive RelationKind where
  | hasOne
  | hasMany
  | belongsTo
  | belongsToMany
  | morphTo
  | morphOne
  | morphMany
  | morphToMany
  | hasOneThrough
  | hasManyThrough
  deriving DecidableEq, Repr

namespace RelationKind

/-- The word that is called. -/
def word : RelationKind → Text
  | hasOne => "hasOne".toList
  | hasMany => "hasMany".toList
  | belongsTo => "belongsTo".toList
  | belongsToMany => "belongsToMany".toList
  | morphTo => "morphTo".toList
  | morphOne => "morphOne".toList
  | morphMany => "morphMany".toList
  | morphToMany => "morphToMany".toList
  | hasOneThrough => "hasOneThrough".toList
  | hasManyThrough => "hasManyThrough".toList

/-- All kinds, those with longer words first. -/
def all : List RelationKind :=
  [hasManyThrough, belongsToMany, hasOneThrough, morphToMany, belongsTo, morphMany, morphOne,
    hasMany, morphTo, hasOne]

/-- No kind is left out. -/
theorem mem_all (k : RelationKind) : k ∈ all := by
  cases k <;> decide

/-- The kind of a word. -/
def ofWord? (w : Text) : Option RelationKind := all.find? (·.word == w)

/-- A kind is found by its word. -/
@[simp] theorem ofWord?_word (k : RelationKind) : ofWord? k.word = some k := by
  cases k <;> decide

/-- Different kinds have different words. -/
theorem word_injective {j k : RelationKind} (h : j.word = k.word) : j = k :=
  Option.some.inj (by rw [← ofWord?_word j, ← ofWord?_word k, h])

end RelationKind

end RelationAtlas
