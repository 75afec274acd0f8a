import SchemaScribe.Artifact.Plan
import SchemaScribe.Settings.File

/-!
# Resolving settings

A value given on the command line wins over the file, and the file over the defaults. A switch is
on as soon as one of the two turns it on. A schema is required; its absence is noticed before a bad
naming style.
-/
namespace SchemaScribe.Settings

open Artifact (Kind KindOptions Plan)

/-- The options of one kind of module, as far as the command line sets them. -/
structure KindFlags where
  before : Option String
  after : Option String
  dir : Option Path
  asClass : Bool
  deriving DecidableEq, Repr

/-- The settings that the command line gives. -/
structure Flags where
  schema : Option Path
  output : Option Path
  useConst : Bool
  useMapping : Bool
  fileNaming : Option String
  fieldEnum : KindFlags
  dto : KindFlags
  entity : KindFlags
  deriving DecidableEq, Repr

def KindFlags.none : KindFlags := ⟨.none, .none, .none, false⟩

def Flags.none : Flags := ⟨.none, .none, false, false, .none, .none, .none, .none⟩

/-- The settings of a run. -/
structure Resolved where
  schema : Path
  plan : Plan
  deriving DecidableEq, Repr

/-- Why a run cannot start. -/
inductive Error where
  | missingSchema (config : Path)
  | invalidNaming (style : NamingStyle.Invalid)
  | unreadable (path : Path)
  | unparsable (path : Path)
  deriving DecidableEq, Repr

def Error.message : Error → String
  | .missingSchema config =>
      "schema file path is required: pass --schema or set `schema` in " ++ config.text
  | .invalidNaming style => style.message
  | .unreadable path => "failed to read '" ++ path.text ++ "'"
  | .unparsable path => "failed to parse '" ++ path.text ++ "'"

/-- The file that is looked for when none is named. -/
def defaultFile : Path := ⟨"fieldgen.toml"⟩

/-- The options for a kind of module. -/
def mergeKind (kind : Kind) (flags : KindFlags) (file : KindSection) : KindOptions :=
  let base := KindOptions.default kind
  { before := (flags.before.or file.before).getD base.before
    after := (flags.after.or file.after).getD base.after
    dir := flags.dir.or file.dir
    asClass := flags.asClass || file.asClass.getD base.asClass }

/-- The naming style with a spelling, if one is given. -/
def resolveNaming : Option String → Except Error NamingStyle
  | some s =>
      match NamingStyle.ofSpelling s with
      | .ok style => .ok style
      | .error e => .error (.invalidNaming e)
  | none => .ok .default

/-- The settings from the command line and the file at `config`, if there is one. -/
def resolve (flags : Flags) (file? : Option File) (config : Path) : Except Error Resolved := do
  let file := file?.getD .empty
  let base := Plan.default
  match flags.schema.or file.schema with
  | none => .error (.missingSchema config)
  | some schema => do
      let naming ← resolveNaming (flags.fileNaming.or file.fileNaming)
      .ok {
        schema
        plan := {
          outputDir := (flags.output.or file.output).getD base.outputDir
          naming
          useConst := flags.useConst || file.useConst.getD base.useConst
          useMapping := flags.useMapping || file.useMapping.getD base.useMapping
          fieldEnum := mergeKind .fieldEnum flags.fieldEnum file.fieldEnum
          dto := mergeKind .dto flags.dto file.dto
          entity := mergeKind .entity flags.entity file.entity } }

/-- The settings in the text of the file at `config`. -/
def File.parse (text : String) (config : Path) : Except Error File :=
  match File.ofText? text with
  | some file => .ok file
  | none => .error (.unparsable config)

end SchemaScribe.Settings
