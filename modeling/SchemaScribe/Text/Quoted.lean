import SchemaScribe.Unicode.Unprintable

/-!
# Quoted text

A quoted text stands between double quotes. Quotes, backslashes and the common control characters
are written with a backslash, and a character that cannot be shown is written with its code point.
-/
namespace SchemaScribe.Text

/-- How one character is written between quotes. -/
def quotedChar (c : Char) : List Char :=
  if c = '\x00' then ['\\', '0']
  else if c = '\t' then ['\\', 't']
  else if c = '\r' then ['\\', 'r']
  else if c = '\n' then ['\\', 'n']
  else if c = '\\' then ['\\', '\\']
  else if c = '"' then ['\\', '"']
  else if Unicode.isUnprintable c then
    ['\\', 'u', '\x7b'] ++ Nat.toDigits 16 c.toNat ++ ['\x7d']
  else [c]

/-- A text between double quotes. -/
def quoted (s : String) : String :=
  String.ofList ('"' :: s.toList.flatMap quotedChar ++ ['"'])

end SchemaScribe.Text
