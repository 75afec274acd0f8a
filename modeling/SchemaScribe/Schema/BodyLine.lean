import SchemaScribe.Schema.Block
import SchemaScribe.Schema.FieldLine

/-!
# Lines of a block body

Each line of a body, without the white space at its ends, belongs to one of four classes: blank
lines and comments are ignored, lines that start with `@@` are attributes of the block, and the
remaining lines are fields or cannot be read. The record of a block collects its field lines; an
attribute may rename it.
-/
namespace SchemaScribe.Schema

inductive BodyLine where
  | ignored
  | attribute (alias? : Option String)
  | field (line : FieldLine)
  | unparsable (text : String)
  deriving DecidableEq, Repr

namespace BodyLine

/-- The class of a line without white space at its ends. -/
def classify (line : List Char) : BodyLine :=
  if line = [] ∨ (Text.after? ['/', '/'] line).isSome then .ignored
  else if (Text.after? ['@', '@'] line).isSome then
    .attribute ((aliasAt? tableAliasOpening line).map String.ofList)
  else
    match FieldLine.read? line with
    | some f => .field f
    | none => .unparsable (String.ofList line)

/-- The class of a line as it stands in the text. -/
def ofRaw (line : String) : BodyLine := classify (Unicode.trim line.toList)

def field? : BodyLine → Option FieldLine
  | .field f => some f
  | _ => none

def tableAlias? : BodyLine → Option String
  | .attribute alias? => alias?
  | _ => none

def unparsable? : BodyLine → Option String
  | .unparsable text => some text
  | _ => none

end BodyLine

/-- A named list of fields. -/
structure Record where
  name : String
  fields : List Field
  deriving DecidableEq, Repr

namespace Block

/-- The classified lines of the body with their numbers. -/
def bodyLines (b : Block) : List (BodyLine × Nat) :=
  b.lines.map fun (line, n) => (.ofRaw line, n)

/-- The name of the block's record: with aliases in force, the first alias of the block. -/
def recordName (b : Block) (mapping : Bool) : String :=
  if mapping then (b.bodyLines.findSome? (·.1.tableAlias?)).getD b.name else b.name

/-- The record that the block declares. -/
def record (b : Block) (mapping : Bool) : Record where
  name := b.recordName mapping
  fields := b.bodyLines.filterMap fun (line, _) => line.field?.map (·.field mapping)

/-- The lines that could not be read, with their numbers. -/
def unparsableLines (b : Block) : List (String × Nat) :=
  b.bodyLines.filterMap fun (line, n) => line.unparsable?.map (·, n)

end Block

end SchemaScribe.Schema
