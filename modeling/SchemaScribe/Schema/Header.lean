import SchemaScribe.Schema.Occurrence
import SchemaScribe.Text.Literal
import SchemaScribe.Unicode.WhiteSpace

/-!
# Record headers

A record opens with the keyword `model`, white space, its name and an opening brace, with optional
white space before the brace. The name is a word. Since no character is both white space and part
of a word, a header is read in one way only.
-/
namespace SchemaScribe.Schema

open Unicode (isSpace isWord)

def keyword : List Char := ['m', 'o', 'd', 'e', 'l']

/-- The parts of a header that vary. -/
structure Header where
  gap : List Char
  name : List Char
  space : List Char
  deriving DecidableEq, Repr

namespace Header

/-- The keyword and the name, with what is between them. -/
def title (h : Header) : List Char := keyword ++ h.gap ++ h.name

/-- The header as it stands in the text, brace included. -/
def text (h : Header) : List Char := h.title ++ h.space ++ ['{']

/-- The header at the head of a text, and what follows its brace. -/
def split? (cs : List Char) : Option (Header × List Char) := do
  let afterKeyword ← Text.after? keyword cs
  let fromName := afterKeyword.dropWhile isSpace
  let afterName := fromName.dropWhile isWord
  let h : Header :=
    ⟨afterKeyword.takeWhile isSpace, fromName.takeWhile isWord, afterName.takeWhile isSpace⟩
  if h.gap = [] ∨ h.name = [] then none
  else
    let rest ← Text.after? ['{'] (afterName.dropWhile isSpace)
    some (h, rest)

/-- Headers as a shape of text. -/
def shape : Shape Header where
  read? cs := (split? cs).map (·.1)
  text := text

end Header

/-- A header at its place in a text. -/
structure PlacedHeader where
  name : String
  start : Place
  /-- Byte length of the keyword, the name and what is between them. -/
  titleLength : Nat
  deriving DecidableEq, Repr

def PlacedHeader.of (found : Place × Header) : PlacedHeader where
  name := String.ofList found.2.name
  start := found.1
  titleLength := (String.ofList found.2.title).utf8ByteSize

/-- Every header of a text, in order. -/
def headers (text : String) : List PlacedHeader :=
  (Header.shape.occurrences text.toList).map .of

end SchemaScribe.Schema
