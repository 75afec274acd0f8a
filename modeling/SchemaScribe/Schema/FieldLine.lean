import SchemaScribe.Text.Literal
import SchemaScribe.Unicode.WhiteSpace
import SchemaScribe.Unicode.WordCharacters

/-!
# Field lines and aliases

A field line starts with a name, white space and a type. The type is a word that may carry the
list mark `[]` and the optional mark `?`; anything may follow. An alias is given by `@map("…")`,
as long as no further `@` stands before it, and the first alias of a line counts.
-/
namespace SchemaScribe.Schema

open Unicode (isSpace isWord)

/-- A field of a record: its name and its type as written. -/
structure Field where
  name : String
  type : String
  deriving DecidableEq, Repr

/-- The marks that a text after a type word starts with. -/
def typeMarks : List Char → List Char
  | '[' :: ']' :: '?' :: _ => ['[', ']', '?']
  | '[' :: ']' :: _ => ['[', ']']
  | '?' :: _ => ['?']
  | _ => []

/-- The alias in a text that starts with an attribute: `opening`, the alias, a quote and a closing
parenthesis. An alias is not empty and holds no quote. -/
def aliasAt? (opening cs : List Char) : Option (List Char) := do
  let afterOpening ← Text.after? opening cs
  let (name, rest) ← Text.upTo? '"' afterOpening
  if name = [] then none
  else
    let _ ← Text.after? [')'] rest
    some name

def fieldAliasOpening : List Char := ['@', 'm', 'a', 'p', '(', '"']

def tableAliasOpening : List Char := '@' :: fieldAliasOpening

/-- The first field alias of a text; `afterAt` says whether an `@` stands before it. -/
def fieldAliasFrom? (afterAt : Bool) : List Char → Option (List Char)
  | [] => none
  | c :: cs =>
      match if afterAt then none else aliasAt? fieldAliasOpening (c :: cs) with
      | some name => some name
      | none => fieldAliasFrom? (c == '@') cs

/-- What a field line declares. -/
structure FieldLine where
  declared : String
  type : String
  alias? : Option String
  deriving DecidableEq, Repr

namespace FieldLine

/-- Reads a line that has no white space at its ends. -/
def read? (cs : List Char) : Option FieldLine :=
  let name := cs.takeWhile isWord
  let afterName := cs.dropWhile isWord
  let fromType := afterName.dropWhile isSpace
  let type := fromType.takeWhile isWord
  if name = [] ∨ afterName.takeWhile isSpace = [] ∨ type = [] then none
  else
    some {
      declared := String.ofList name
      type := String.ofList (type ++ typeMarks (fromType.dropWhile isWord))
      alias? := (fieldAliasFrom? false cs).map String.ofList }

/-- The field, under its alias when aliases are in force. -/
def field (line : FieldLine) (mapping : Bool) : Field where
  name := if mapping then line.alias?.getD line.declared else line.declared
  type := line.type

end FieldLine

end SchemaScribe.Schema
