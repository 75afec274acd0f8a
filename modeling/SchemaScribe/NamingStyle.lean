import SchemaScribe.Text.Casing

/-!
# File naming styles

A generated file is named after an identifier, either as the identifier is written or hyphenated.
A style is chosen by its exact spelling.
-/
namespace SchemaScribe

/-- How an identifier becomes a file name. -/
inductive NamingStyle where
  | camelCase
  | kebabCase
  deriving DecidableEq, Repr

namespace NamingStyle

/-- The style used when none is chosen. -/
def default : NamingStyle := .camelCase

/-- Every style, in the order in which spellings are tried. -/
def all : List NamingStyle := [.camelCase, .kebabCase]

/-- The one spelling of a style. -/
def spelling : NamingStyle → String
  | .camelCase => "camelCase"
  | .kebabCase => "kebab-case"

/-- The file name stem for an identifier. -/
def apply : NamingStyle → String → String
  | .camelCase, name => name
  | .kebabCase, name => Text.kebab name

/-- A spelling that names no style. -/
structure Invalid where
  value : String
  deriving DecidableEq, Repr

def Invalid.message (e : Invalid) : String :=
  "invalid file naming style '" ++ e.value ++ "', expected 'camelCase' or 'kebab-case'"

/-- The style with a given spelling. -/
def ofSpelling (s : String) : Except Invalid NamingStyle :=
  match all.find? (·.spelling == s) with
  | some style => .ok style
  | none => .error ⟨s⟩

theorem ofSpelling_spelling (style : NamingStyle) : ofSpelling style.spelling = .ok style := by
  cases style <;> rfl

end NamingStyle

end SchemaScribe
