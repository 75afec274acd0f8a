import SchemaScribe.Schema.Catalogue

/-!
# Reading a schema

Blocks are read in order, each one leaving its complaints before its record; the headers that start
no block are reported at the end. A text without any block is malformed, and the error points at the
first header, if there is one.
-/
namespace SchemaScribe.Schema

/-- The file name used when a text comes without one. -/
def defaultFilename : String := "schema.prisma"

/-- The diagnostics for the lines of a block that could not be read. -/
def Block.complaints (b : Block) (filename : String) : List Diagnostic :=
  b.unparsableLines.map fun (line, n) =>
    ⟨.unparsableLine line b.name, locationText filename n⟩

/-- The diagnostic for a header that starts no block. -/
def PlacedHeader.complaint (h : PlacedHeader) (filename : String) : Diagnostic :=
  ⟨.unclosedBlock h.name, locationText filename h.start.line⟩

/-- Adds the record of a block, after the diagnostics that the block gives rise to. -/
def Catalogue.addBlock (filename : String) (mapping : Bool) (c : Catalogue) (b : Block) :
    Catalogue :=
  let r := b.record mapping
  let noted := c.noteAll (b.complaints filename)
  if (noted.fields? r.name).isSome then
    (noted.note ⟨.redeclaredModel r.name, locationText filename b.bodyLine⟩).push r
  else noted.push r

/-- A stretch of the text, in bytes. -/
structure Span where
  offset : Nat
  length : Nat
  deriving DecidableEq, Repr

/-- The keyword and the name of the first header. -/
def firstTitle? (text : String) : Option Span :=
  (headers text).head?.map fun h => ⟨h.start.offset, h.titleLength⟩

/-- A text without a block, and where its first header stands. -/
structure Malformed where
  filename : String
  span? : Option Span
  deriving DecidableEq, Repr

namespace Malformed

def message (_ : Malformed) : String := "malformed schema: no `model` blocks found"

def code (_ : Malformed) : String := "fieldgen::malformed_schema"

def help (_ : Malformed) : String :=
  "declare at least one block of the form `model Name \x7b field Type \x7d`"

/-- The remark on the stretch of text that the error points at. -/
def label (_ : Malformed) : String := "no closed `\x7b ... \x7d` body follows this header"

end Malformed

/-- Reads a schema. With `mapping`, aliases rename fields and records. -/
def read (text filename : String) (mapping : Bool) : Except Malformed Catalogue :=
  let declared := (blocks text).foldl (Catalogue.addBlock filename mapping) .empty
  let c := declared.noteAll ((unclosedHeaders text).map (·.complaint filename))
  if c.isEmpty then .error ⟨filename, firstTitle? text⟩ else .ok c

end SchemaScribe.Schema
