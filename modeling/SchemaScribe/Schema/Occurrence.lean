import SchemaScribe.Schema.Place
import SchemaScribe.Unicode.WordCharacters

/-!
# Occurrences of a shape

A shape is recognised at the head of a text. Its occurrences in a text are found from left to
right: each one starts where no word character stands before it, and the search goes on behind it,
so occurrences do not overlap.
-/
namespace SchemaScribe.Schema

/-- A kind of text that can be recognised at the head of a longer one. -/
structure Shape (α : Type) where
  read? : List Char → Option α
  text : α → List Char

/-- The occurrences from a place on. The first `skip` characters belong to an earlier occurrence,
and `afterWord` says whether a word character precedes. -/
def Shape.occurrencesFrom {α : Type} (shape : Shape α) :
    (skip : Nat) → (afterWord : Bool) → Place → List Char → List (Place × α)
  | _, _, _, [] => []
  | skip + 1, _, place, c :: cs =>
      shape.occurrencesFrom skip (Unicode.isWord c) (place.step c) cs
  | 0, afterWord, place, c :: cs =>
      match if afterWord then none else shape.read? (c :: cs) with
      | some a =>
          (place, a) :: shape.occurrencesFrom ((shape.text a).length - 1) (Unicode.isWord c)
            (place.step c) cs
      | none => shape.occurrencesFrom 0 (Unicode.isWord c) (place.step c) cs

/-- The occurrences in a whole text, in order, each with the place where it starts. -/
def Shape.occurrences {α : Type} (shape : Shape α) (cs : List Char) : List (Place × α) :=
  shape.occurrencesFrom 0 false .start cs

end SchemaScribe.Schema
