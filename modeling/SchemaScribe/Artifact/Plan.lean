import SchemaScribe.Artifact.Kind
import SchemaScribe.NamingStyle
import SchemaScribe.Path

/-!
# Plans

A plan holds every choice about the generated modules besides the schema: where they go, how they
are named and which form they take. The registry of names follows the options for field enums.
-/
namespace SchemaScribe.Artifact

/-- The options for one kind of module. -/
structure KindOptions where
  /-- Put before the record's name. -/
  before : String
  /-- Put after the record's name. -/
  after : String
  /-- A directory in place of the one under the output directory. -/
  dir : Option Path
  /-- Shapes as classes; without effect on field enums. -/
  asClass : Bool
  deriving DecidableEq, Repr

def KindOptions.default (kind : Kind) : KindOptions := ⟨"", kind.defaultAfter, none, false⟩

structure Plan where
  outputDir : Path
  naming : NamingStyle
  /-- Frozen objects in place of enums. -/
  useConst : Bool
  /-- Aliases rename fields and records when the schema is read. -/
  useMapping : Bool
  fieldEnum : KindOptions
  dto : KindOptions
  entity : KindOptions
  deriving DecidableEq, Repr

namespace Plan

def default : Plan where
  outputDir := ⟨"./generated"⟩
  naming := .default
  useConst := false
  useMapping := false
  fieldEnum := .default .fieldEnum
  dto := .default .dto
  entity := .default .entity

/-- The options that govern a kind. -/
def options (plan : Plan) : Kind → KindOptions
  | .fieldEnum | .tables => plan.fieldEnum
  | .dto => plan.dto
  | .entity => plan.entity

/-- The directory that receives the modules of a kind. -/
def dirFor (plan : Plan) (kind : Kind) : Path :=
  (plan.options kind).dir.getD (plan.outputDir.join ⟨kind.defaultDir⟩)

/-- Whether modules of a kind are enums or classes. -/
def isNominal (plan : Plan) : Kind → Bool
  | .fieldEnum | .tables => !plan.useConst
  | .dto => plan.dto.asClass
  | .entity => plan.entity.asClass

/-- The form of the modules of a kind. -/
def form (plan : Plan) (kind : Kind) : Form :=
  if plan.isNominal kind then .nominal else .frozen

end Plan

end SchemaScribe.Artifact
