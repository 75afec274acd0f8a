/-!
# Texts in a TOML document

A text stands between double quotes, with escapes, or between single quotes, without. Three quotes
open a text that may span lines; a line feed right after them is dropped, and up to two further
quotes may stand before the closing three. In a double quoted text over several lines a backslash
at the end of a line joins it with the next text.
-/
namespace SchemaScribe.Toml

/-- Characters that may stand in a line of text: everything but control characters, tabs
excepted. -/
def isPlain (c : Char) : Bool := c = '\t' || (' ' ≤ c && c ≠ '\x7f')

def hexDigit? (c : Char) : Option Nat :=
  if c.isDigit then some (c.toNat - '0'.toNat)
  else if 'a' ≤ c ∧ c ≤ 'f' then some (c.toNat - 'a'.toNat + 10)
  else if 'A' ≤ c ∧ c ≤ 'F' then some (c.toNat - 'A'.toNat + 10)
  else none

/-- The character that a single letter after a backslash stands for. -/
def simpleEscape? : Char → Option Char
  | 'b' => some '\x08'
  | 't' => some '\t'
  | 'n' => some '\n'
  | 'f' => some '\x0c'
  | 'r' => some '\r'
  | 'e' => some '\x1b'
  | '"' => some '"'
  | '\\' => some '\\'
  | _ => none

/-- The number of hexadecimal digits that follow a letter after a backslash. -/
def escapeWidth? : Char → Option Nat
  | 'x' => some 2
  | 'u' => some 4
  | 'U' => some 8
  | _ => none

/-- The character with a code point. -/
def charAt? (n : Nat) : Option Char := if n.isValidChar then some (Char.ofNat n) else none

/-- Where the decoding of a double quoted text stands. -/
inductive Decoding where
  | plain
  | backslash
  | digits (left value : Nat)
  /-- Behind a backslash at the end of a line. -/
  | joining (seenBreak : Bool)

/-- The characters that a double quoted text stands for; `joins` where lines may be joined. -/
def decode (joins : Bool) : Decoding → List Char → Option (List Char)
  | .plain, [] => some []
  | .joining true, [] => some []
  | _, [] => none
  | .backslash, c :: rest =>
      match simpleEscape? c, escapeWidth? c with
      | some d, _ => (decode joins .plain rest).map (d :: ·)
      | none, some width => decode joins (.digits width 0) rest
      | none, none =>
          if joins && (c = ' ' || c = '\t' || c = '\r') then decode joins (.joining false) rest
          else if joins && c = '\n' then decode joins (.joining true) rest
          else none
  | .digits left value, c :: rest =>
      match hexDigit? c with
      | none => none
      | some d =>
          let value := 16 * value + d
          if left ≤ 1 then
            match charAt? value with
            | none => none
            | some d => (decode joins .plain rest).map (d :: ·)
          else decode joins (.digits (left - 1) value) rest
  | .joining seenBreak, c :: rest =>
      if c = ' ' || c = '\t' || c = '\r' then decode joins (.joining seenBreak) rest
      else if c = '\n' then decode joins (.joining true) rest
      else if !seenBreak then none
      else if c = '\\' then decode joins .backslash rest
      else (decode joins .plain rest).map (c :: ·)
  | .plain, c :: rest =>
      if c = '\\' then decode joins .backslash rest
      else (decode joins .plain rest).map (c :: ·)

/-- The raw text up to the closing quote of one line, and what follows. With `escapes`, a character
after a backslash does not close. -/
def rawLine? (quote : Char) (escapes : Bool) : List Char → Option (List Char × List Char)
  | [] => none
  | c :: rest =>
      if c = quote then some ([], rest)
      else if !isPlain c then none
      else if escapes && c = '\\' then
        match rest with
        | d :: rest =>
            if isPlain d then (rawLine? quote escapes rest).map fun (h, r) => (c :: d :: h, r)
            else none
        | [] => none
      else (rawLine? quote escapes rest).map fun (h, r) => (c :: h, r)

/-- At most two quotes at the head of a text, and what follows them. -/
def spareQuotes (quote : Char) : List Char → List Char × List Char
  | a :: b :: rest =>
      if a = quote then
        if b = quote then ([a, b], rest) else ([a], b :: rest)
      else ([], a :: b :: rest)
  | [a] => if a = quote then ([a], []) else ([], [a])
  | [] => ([], [])

/-- The raw text up to three closing quotes, and what follows. -/
def rawLines? (quote : Char) (escapes : Bool) : List Char → Option (List Char × List Char)
  | [] => none
  | c :: rest =>
      if escapes && c = '\\' then
        match rest with
        | d :: rest => (rawLines? quote escapes rest).map fun (h, r) => (c :: d :: h, r)
        | [] => none
      else if c = quote && rest.take 2 = [quote, quote] then some (spareQuotes quote (rest.drop 2))
      else (rawLines? quote escapes rest).map fun (h, r) => (c :: h, r)

/-- Whether a text over several lines is free of control characters; line breaks may have a
carriage return before the line feed. -/
def isLawful : List Char → Bool
  | [] => true
  | '\r' :: '\n' :: rest => isLawful rest
  | c :: rest => (c = '\n' || isPlain c) && isLawful rest

/-- Drops a line break at the head of a text. -/
def dropBreak : List Char → List Char
  | '\n' :: rest => rest
  | '\r' :: '\n' :: rest => rest
  | cs => cs

/-- A text over several lines, after its three opening quotes. -/
def readLines? (quote : Char) (cs : List Char) : Option (String × List Char) := do
  let escapes := quote = '"'
  let (raw, rest) ← rawLines? quote escapes (dropBreak cs)
  if isLawful raw then
    let chars ← if escapes then decode true .plain raw else some raw
    some (String.ofList chars, rest)
  else none

/-- A text on one line, after its opening quote. -/
def readLine? (quote : Char) (cs : List Char) : Option (String × List Char) := do
  let escapes := quote = '"'
  let (raw, rest) ← rawLine? quote escapes cs
  let chars ← if escapes then decode false .plain raw else some raw
  some (String.ofList chars, rest)

/-- A text, after the quote that opens it. -/
def readText? (quote : Char) (cs : List Char) : Option (String × List Char) :=
  if cs.take 2 = [quote, quote] then readLines? quote (cs.drop 2) else readLine? quote cs

end SchemaScribe.Toml
