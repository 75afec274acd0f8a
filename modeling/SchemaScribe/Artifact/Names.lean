import SchemaScribe.Artifact.Plan
import SchemaScribe.Text.Casing
import SchemaScribe.Unicode.FinalSigma

/-!
# Names in generated modules

An enum or class goes by its identifier, a frozen object by its binding. A file is named after the
record as it is written in the schema, before its first letter is changed.
-/
namespace SchemaScribe.Artifact

structure Names where
  identifier : String
  binding : String
  fileName : String
  deriving DecidableEq, Repr

/-- The file name for a stem. -/
def fileName (style : NamingStyle) (stem : String) : String := style.apply stem ++ ".ts"

namespace Plan

/-- The names for one record and one kind. -/
def recordNames (plan : Plan) (kind : Kind) (record : String) : Names :=
  let o := plan.options kind
  let identifier := o.before ++ Text.upperFirst record ++ o.after
  ⟨identifier, Text.lowerFirst identifier,
    Artifact.fileName plan.naming (o.before ++ record ++ o.after)⟩

/-- The names of the registry. -/
def registryNames (plan : Plan) : Names :=
  let before := (plan.options .tables).before
  let identifier := before ++ "Tables"
  ⟨identifier, Unicode.lowerText before ++ "tables", Artifact.fileName plan.naming identifier⟩

end Plan

end SchemaScribe.Artifact
