import SchemaScribe.Code.Draft

/-!
# Exported declarations

The four declarations a generated TypeScript module is made of: a string enum, a frozen object, a
class whose fields are definitely assigned, and an alias for the keys of an object. A declaration is
written into a draft at the draft's level. Names and values are copied as they are.
-/
namespace SchemaScribe.Code

/-- The value of an entry in a frozen object. -/
inductive Slot where
  | literal (value : String)
  | typed (type : String)
  | expression (text : String)
  deriving DecidableEq, Repr

def Slot.text : Slot → String
  | .literal value => "\"" ++ value ++ "\""
  | .typed type => "undefined as " ++ type
  | .expression text => text

inductive Declaration where
  | stringEnum (name : String) (members : List (String × String))
  | frozenObject (name : String) (entries : List (String × Slot))
  | shapeClass (name : String) (fields : List (String × String))
  | keyAlias (name value : String)
  deriving DecidableEq, Repr

namespace Declaration

/-- The line of an enum member. -/
def memberLine (member : String × String) : String :=
  member.1 ++ " = \"" ++ member.2 ++ "\","

/-- The line of an entry of a frozen object. -/
def entryLine (entry : String × Slot) : String := entry.1 ++ ": " ++ entry.2.text ++ ","

/-- The line of a class field. -/
def fieldLine (field : String × String) : String := field.1 ++ "!: " ++ field.2 ++ ";"

/-- Writes a declaration into a draft. -/
def write (d : Draft) : Declaration → Draft
  | .stringEnum name members =>
      d.block ("export enum " ++ name ++ " \x7b") "\x7d" fun d =>
        d.each members fun d m => d.line (memberLine m)
  | .frozenObject name entries =>
      d.block ("export const " ++ name ++ " = \x7b") "\x7d as const;" fun d =>
        d.each entries fun d e => d.line (entryLine e)
  | .shapeClass name fields =>
      d.block ("export class " ++ name ++ " \x7b") "\x7d" fun d =>
        d.each fields fun d f => d.line (fieldLine f)
  | .keyAlias name value =>
      d.line ("export type " ++ name ++ " = keyof typeof " ++ value ++ ";")

/-- A declaration on its own. -/
def text (decl : Declaration) : String := (write .empty decl).text

end Declaration

end SchemaScribe.Code
