/-!
# Kinds of generated modules

Every record yields a module with its field names, one with its transfer shape and one with its
entity shape; one more module lists the names of all records.
-/
namespace SchemaScribe.Artifact

inductive Kind where
  | fieldEnum
  | dto
  | entity
  | tables
  deriving DecidableEq, Repr

namespace Kind

/-- The kinds that each record yields, in order. -/
def perRecord : List Kind := [.fieldEnum, .dto, .entity]

/-- Every kind, in the order in which the modules of a schema are written. -/
def all : List Kind := perRecord ++ [.tables]

def label : Kind → String
  | .fieldEnum => "field enum"
  | .dto => "dto"
  | .entity => "entity"
  | .tables => "tables"

/-- The directory under the output directory. The registry lies beside the field enums. -/
def defaultDir : Kind → String
  | .fieldEnum | .tables => "field-enum"
  | .dto => "dto"
  | .entity => "entity"

/-- What follows the name of a record in an identifier. -/
def defaultAfter : Kind → String
  | .fieldEnum => "Fields"
  | .dto => "Dto"
  | .entity => "Entity"
  | .tables => "Tables"

end Kind

/-- The two ways to express a module: a frozen object, or an enum or class. -/
inductive Form where
  | frozen
  | nominal
  deriving DecidableEq, Repr

end SchemaScribe.Artifact
