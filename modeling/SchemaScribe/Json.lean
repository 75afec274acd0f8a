/-!
# JSON text

The values that a catalogue is shown as, and their text over several lines: two blanks for each
level, one item to a line, and brackets without items on one line. Text is escaped only where it has
to be.
-/
namespace SchemaScribe

inductive Json where
  | null
  | text (s : String)
  | list (items : List Json)
  | record (members : List (String × Json))

namespace Json

/-- Four hexadecimal digits of a control character. -/
def controlEscape (c : Char) : List Char :=
  ['\\', 'u', '0', '0', Nat.digitChar (c.toNat / 16), Nat.digitChar (c.toNat % 16)]

/-- How one character is written in a string. -/
def escapeChar (c : Char) : List Char :=
  if c = '"' then ['\\', '"']
  else if c = '\\' then ['\\', '\\']
  else if c = '\x08' then ['\\', 'b']
  else if c = '\x0c' then ['\\', 'f']
  else if c = '\n' then ['\\', 'n']
  else if c = '\r' then ['\\', 'r']
  else if c = '\t' then ['\\', 't']
  else if c < ' ' then controlEscape c
  else [c]

/-- A string in quotes. -/
def quote (s : String) : String := String.ofList ('"' :: s.toList.flatMap escapeChar ++ ['"'])

def margin (level : Nat) : String := String.ofList (List.replicate (2 * level) ' ')

/-- Items between brackets, one to a line. -/
def enclose (level : Nat) (opening closing : String) : List String → String
  | [] => opening ++ closing
  | items =>
      opening ++ "\n" ++ ",\n".intercalate (items.map (margin (level + 1) ++ ·)) ++ "\n" ++
        margin level ++ closing

mutual

/-- The text of a value whose first line stands at a level. -/
def prettyAt (level : Nat) : Json → String
  | .null => "null"
  | .text s => quote s
  | .list items => enclose level "[" "]" (prettyItems (level + 1) items)
  | .record members => enclose level "\x7b" "\x7d" (prettyMembers (level + 1) members)

def prettyItems (level : Nat) : List Json → List String
  | [] => []
  | item :: rest => prettyAt level item :: prettyItems level rest

def prettyMembers (level : Nat) : List (String × Json) → List String
  | [] => []
  | (key, value) :: rest =>
      (quote key ++ ": " ++ prettyAt level value) :: prettyMembers level rest

end

def pretty (j : Json) : String := j.prettyAt 0

end Json

end SchemaScribe
