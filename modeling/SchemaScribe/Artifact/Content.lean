import SchemaScribe.Artifact.Kind
import SchemaScribe.Code.Declaration
import SchemaScribe.Schema.FieldLine
import SchemaScribe.Unicode.FinalSigma

/-!
# Contents of generated modules

Each kind of module has a frozen and a nominal form. Field names stay as they are in enums, classes
and shapes; the keys of frozen field names and of the registry are put in upper case.
-/
namespace SchemaScribe.Artifact

open Code (Declaration Draft)
open Schema (Field)

/-- The declaration of a record's field names. -/
def fieldNames (identifier : String) (fields : List Field) : Form → Declaration
  | .nominal => .stringEnum identifier (fields.map fun f => (f.name, f.name))
  | .frozen =>
      .frozenObject identifier (fields.map fun f => (Unicode.upperText f.name, .literal f.name))

/-- The declaration of a record's shape: a class goes by the identifier, an object by the
binding. -/
def shape (identifier binding : String) (fields : List Field) : Form → Declaration
  | .nominal => .shapeClass identifier (fields.map fun f => (f.name, f.type))
  | .frozen => .frozenObject binding (fields.map fun f => (f.name, .typed f.type))

/-- The text of the registry of record names. Its frozen form has an alias for its keys. -/
def registry (identifier binding : String) (names : List String) : Form → String
  | .nominal =>
      (Declaration.stringEnum identifier (names.map fun n => (Unicode.upperText n, n))).text
  | .frozen =>
      let object := Declaration.frozenObject binding
        (names.map fun n => (Unicode.upperText n, .literal n))
      (Declaration.write (Declaration.write Draft.empty object).blank
        (.keyAlias identifier binding)).text

end SchemaScribe.Artifact
