import SchemaScribe.Schema.Header

/-!
# Record blocks

A block is a header with everything up to the first closing brace. Braces do not nest. A header
that starts no block of the text is unclosed: no closing brace follows it, or it lies in the body of
an earlier block.
-/
namespace SchemaScribe.Schema

/-- A header and the text between its brace and the first closing brace. -/
structure BlockText where
  header : Header
  body : List Char
  deriving DecidableEq, Repr

namespace BlockText

def text (b : BlockText) : List Char := b.header.text ++ b.body ++ ['}']

/-- Blocks as a shape of text. -/
def shape : Shape BlockText where
  read? cs := do
    let (header, rest) ← Header.split? cs
    let (body, _) ← Text.upTo? '}' rest
    some ⟨header, body⟩
  text := text

end BlockText

/-- A block at its place in a text. -/
structure Block where
  name : String
  body : String
  start : Place
  bodyStart : Place
  deriving DecidableEq, Repr

namespace Block

def of (found : Place × BlockText) : Block where
  name := String.ofList found.2.header.name
  body := String.ofList found.2.body
  start := found.1
  bodyStart := found.1.advance found.2.header.text

/-- The number of the line on which the body starts. -/
def bodyLine (b : Block) : Nat := b.bodyStart.line

/-- The lines of the body with their numbers in the whole text. -/
def lines (b : Block) : List (String × Nat) :=
  ((b.body.toList.splitOn '\n').map String.ofList).zipIdx b.bodyLine

end Block

/-- Every block of a text, in order. -/
def blocks (text : String) : List Block :=
  (BlockText.shape.occurrences text.toList).map .of

/-- The headers that start no block, in order. -/
def unclosedHeaders (text : String) : List PlacedHeader :=
  let starts := (blocks text).map (·.start)
  (headers text).filter fun h => !starts.contains h.start

end SchemaScribe.Schema
