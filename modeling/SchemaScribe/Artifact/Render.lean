import SchemaScribe.Artifact.Content
import SchemaScribe.Artifact.Names
import SchemaScribe.Schema.Catalogue

/-!
# From a catalogue to artifacts

An artifact is one generated module: its kind, the path it goes to and its content. The records are
taken in the order of their names, each with its three modules; the registry comes last.
-/
namespace SchemaScribe

open Schema (Catalogue Field)

structure Artifact where
  kind : Artifact.Kind
  path : Path
  content : String
  deriving DecidableEq, Repr

namespace Artifact.Plan

/-- The content of one module of a record. -/
def recordContent (plan : Plan) (kind : Kind) (names : Names) (fields : List Field) : String :=
  match kind with
  | .fieldEnum => (fieldNames names.identifier fields (plan.form kind)).text
  | _ => (shape names.identifier names.binding fields (plan.form kind)).text

/-- One module of a record. -/
def recordArtifact (plan : Plan) (name : String) (fields : List Field) (kind : Kind) : Artifact :=
  let names := plan.recordNames kind name
  ⟨kind, (plan.dirFor kind).join ⟨names.fileName⟩, plan.recordContent kind names fields⟩

/-- The three modules of a record. -/
def renderRecord (plan : Plan) (name : String) (fields : List Field) : List Artifact :=
  Kind.perRecord.map (plan.recordArtifact name fields)

/-- The registry of all names. -/
def renderRegistry (plan : Plan) (recordNames : List String) : Artifact :=
  let names := plan.registryNames
  ⟨.tables, (plan.dirFor .tables).join ⟨names.fileName⟩,
    registry names.identifier names.binding recordNames (plan.form .tables)⟩

/-- Every module of a schema. -/
def render (plan : Plan) (c : Catalogue) : List Artifact :=
  c.records.flatMap (fun r => plan.renderRecord r.name r.fields) ++ [plan.renderRegistry c.names]

end Artifact.Plan

end SchemaScribe
