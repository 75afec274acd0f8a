import SchemaScribe.Unicode.CaseMapping

/-!
# Casing of identifiers

An identifier gets its first character in upper or lower case and keeps the rest. A file name may
instead be hyphenated: a hyphen goes between a plain lower case letter and a plain upper case letter
that follows it, and every character is put in lower case.
-/
namespace SchemaScribe.Text

open Unicode (lowerChar upperChar)

/-- The text with its first character in upper case. -/
def upperFirst (s : String) : String :=
  match s.toList with
  | [] => ""
  | c :: rest => String.ofList (upperChar c ++ rest)

/-- The text with its first character in lower case. -/
def lowerFirst (s : String) : String :=
  match s.toList with
  | [] => ""
  | c :: rest => String.ofList (lowerChar c ++ rest)

/-- The hyphenated form of the characters that follow one which is, or is not, a letter from `a`
to `z`. Only the letters from `A` to `Z` start a new part. -/
def kebabFrom (afterLower : Bool) : List Char → List Char
  | [] => []
  | c :: rest =>
      (if afterLower && c.isUpper then ['-'] else []) ++ lowerChar c ++ kebabFrom c.isLower rest

/-- The hyphenated lower case form of a text. Underscores, digits and hyphens stay. -/
def kebab (s : String) : String := String.ofList (kebabFrom false s.toList)

end SchemaScribe.Text
