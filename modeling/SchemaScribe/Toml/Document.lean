import SchemaScribe.Toml.Scalar
import SchemaScribe.Toml.Text
import SchemaScribe.Toml.Value

/-!
# Reading a TOML document

A document is a sequence of statements, one to a line: a header opens a table, and a key with a
value belongs to the table opened last. Comments and blank lines may stand between statements, and
comments, line breaks and a last comma inside brackets and braces. Reading either yields the entries
of the document or fails; the readers take the fuel that bounds their nesting from the length of the
text.
-/
namespace SchemaScribe.Toml

def skipBlanks (cs : List Char) : List Char := cs.dropWhile fun c => c = ' ' || c = '\t'

/-- Skips blanks, line breaks and comments. -/
def skipFiller (inComment : Bool) : List Char → Option (List Char)
  | [] => some []
  | '\r' :: '\n' :: rest => skipFiller false rest
  | c :: rest =>
      if c = '\n' then skipFiller false rest
      else if inComment then if isPlain c then skipFiller true rest else none
      else if c = ' ' || c = '\t' then skipFiller false rest
      else if c = '#' then skipFiller true rest
      else some (c :: rest)

/-- What follows a statement: an optional comment, then the end of the line or of the text. -/
def afterStatement? (cs : List Char) : Option (List Char) :=
  match skipBlanks cs with
  | [] => some []
  | '\n' :: rest => some rest
  | '\r' :: '\n' :: rest => some rest
  | '#' :: rest =>
      match rest.dropWhile isPlain with
      | [] => some []
      | '\n' :: rest => some rest
      | '\r' :: '\n' :: rest => some rest
      | _ => none
  | _ => none

def isBareKeyChar (c : Char) : Bool := c.isAlphanum || c = '_' || c = '-'

/-- One part of a key. -/
def readKeyPart? : List Char → Option (String × List Char)
  | [] => none
  | c :: rest =>
      if c = '"' || c = '\'' then
        if rest.take 2 = [c, c] then none else readLine? c rest
      else
        let name := (c :: rest).takeWhile isBareKeyChar
        if name = [] then none
        else some (String.ofList name, (c :: rest).dropWhile isBareKeyChar)

/-- A key: parts with dots between them, and the text after the blanks that follow it. -/
def readKey? : (fuel : Nat) → List Char → Option (List String × List Char)
  | 0, _ => none
  | fuel + 1, cs => do
      let (part, rest) ← readKeyPart? (skipBlanks cs)
      match skipBlanks rest with
      | '.' :: rest => do
          let (path, rest) ← readKey? fuel rest
          some (part :: path, rest)
      | rest => some ([part], rest)

mutual

/-- A value at the head of a text. -/
def readValue? : (fuel : Nat) → List Char → Option (Value × List Char)
  | 0, _ => none
  | _, [] => none
  | fuel + 1, c :: rest =>
      if c = '"' || c = '\'' then (readText? c rest).map fun (s, rest) => (.text s, rest)
      else if c = '[' then (readItems? fuel rest).map fun (vs, rest) => (.array vs, rest)
      else if c = '\x7b' then
        (readMembers? fuel [] rest).map fun (es, rest) => (.table (freezeEntries es), rest)
      else
        let (word, rest) := splitScalar (c :: rest)
        if word = ['t', 'r', 'u', 'e'] then some (.boolean true, rest)
        else if word = ['f', 'a', 'l', 's', 'e'] then some (.boolean false, rest)
        else if isNumberOrDate word then some (.scalar word, rest)
        else none

/-- The items of an array, up to its closing bracket. -/
def readItems? : (fuel : Nat) → List Char → Option (List Value × List Char)
  | 0, _ => none
  | fuel + 1, cs => do
      match ← skipFiller false cs with
      | ']' :: rest => some ([], rest)
      | cs => do
          let (v, rest) ← readValue? fuel cs
          match ← skipFiller false rest with
          | ']' :: rest => some ([v], rest)
          | ',' :: rest => do
              let (vs, rest) ← readItems? fuel rest
              some (v :: vs, rest)
          | _ => none

/-- The members of a table in braces, up to its closing brace, added to those read before. -/
def readMembers? : (fuel : Nat) → Entries → List Char → Option (Entries × List Char)
  | 0, _, _ => none
  | fuel + 1, entries, cs => do
      match ← skipFiller false cs with
      | '\x7d' :: rest => some (entries, rest)
      | cs => do
          let (path, rest) ← readKey? (fuel + 1) cs
          match rest with
          | '=' :: rest => do
              let (v, rest) ← readValue? fuel (skipBlanks rest)
              let entries ← assign v path entries
              match ← skipFiller false rest with
              | '\x7d' :: rest => some (entries, rest)
              | ',' :: rest => readMembers? fuel entries rest
              | _ => none
          | _ => none

end

/-- A document under construction: its entries and the path of the table opened last. -/
structure Draft where
  entries : Entries
  current : List String

/-- A header, after its first bracket. -/
def readHeader? (fuel : Nat) (d : Draft) (cs : List Char) : Option (Draft × List Char) := do
  match cs with
  | '[' :: cs => do
      let (path, rest) ← readKey? fuel cs
      match rest with
      | ']' :: ']' :: rest => do
          let entries ← openAt openElement path d.entries
          some (⟨entries, path⟩, rest)
      | _ => none
  | cs => do
      let (path, rest) ← readKey? fuel cs
      match rest with
      | ']' :: rest => do
          let entries ← openAt openTable path d.entries
          some (⟨entries, path⟩, rest)
      | _ => none

/-- A key with its value. -/
def readAssignment? (fuel : Nat) (d : Draft) (cs : List Char) : Option (Draft × List Char) := do
  let (path, rest) ← readKey? fuel cs
  match rest with
  | '=' :: rest => do
      let (v, rest) ← readValue? fuel (skipBlanks rest)
      let entries ← modifyAt (assign v path) d.current d.entries
      some ({ d with entries }, rest)
  | _ => none

/-- The statements of a document. -/
def readStatements? : (fuel : Nat) → Draft → List Char → Option Draft
  | 0, _, _ => none
  | fuel + 1, d, cs => do
      match ← skipFiller false cs with
      | [] => some d
      | '[' :: cs => do
          let (d, rest) ← readHeader? (fuel + 1) d cs
          readStatements? fuel d (← afterStatement? rest)
      | cs => do
          let (d, rest) ← readAssignment? (fuel + 1) d cs
          readStatements? fuel d (← afterStatement? rest)

/-- The entries of a document. A byte order mark at the beginning is passed over. -/
def read? (text : String) : Option (List (String × Value)) :=
  let cs := match text.toList with
    | '\ufeff' :: rest => rest
    | cs => cs
  (readStatements? (2 * cs.length + 2) ⟨[], []⟩ cs).map fun d => freezeEntries d.entries

end SchemaScribe.Toml
