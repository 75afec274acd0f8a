import SchemaScribe.Path
import SchemaScribe.Toml.Document

/-!
# The settings file

A settings file may set the schema, the output directory, two switches, the file naming style and
the options of each kind of module. Every key may be missing, and no other key is allowed. The
options of a kind may also be given as an array, in the order of the keys.
-/
namespace SchemaScribe.Settings

/-- The options of one kind of module, as far as a file sets them. -/
structure KindSection where
  before : Option String
  after : Option String
  dir : Option Path
  asClass : Option Bool
  deriving DecidableEq, Repr

/-- The settings that a file gives. -/
structure File where
  schema : Option Path
  output : Option Path
  useConst : Option Bool
  useMapping : Option Bool
  fileNaming : Option String
  fieldEnum : KindSection
  dto : KindSection
  entity : KindSection
  deriving DecidableEq, Repr

def KindSection.empty : KindSection := ⟨none, none, none, none⟩

def File.empty : File := ⟨none, none, none, none, none, .empty, .empty, .empty⟩

open Toml (Value)

namespace KindSection

/-- Takes over one entry of a section; unknown keys and other types are refused. -/
def set? (s : KindSection) : String × Value → Option KindSection
  | ("prefix", .text v) => some { s with before := some v }
  | ("suffix", .text v) => some { s with after := some v }
  | ("dir", .text v) => some { s with dir := some ⟨v⟩ }
  | ("as_class", .boolean v) => some { s with asClass := some v }
  | _ => none

/-- The keys of a section, in the order in which an array gives their values. -/
def keys : List String := ["prefix", "suffix", "dir", "as_class"]

/-- A section from its table, or from an array of its first values. -/
def ofValue? : Value → Option KindSection
  | .table entries => entries.foldlM set? .empty
  | .array items => (keys.zip items).foldlM set? .empty
  | _ => none

end KindSection

namespace File

/-- Takes over one entry of a file; unknown keys and other types are refused. -/
def set? (f : File) : String × Value → Option File
  | ("schema", .text v) => some { f with schema := some ⟨v⟩ }
  | ("output", .text v) => some { f with output := some ⟨v⟩ }
  | ("use_const", .boolean v) => some { f with useConst := some v }
  | ("use_mapping", .boolean v) => some { f with useMapping := some v }
  | ("file_naming", .text v) => some { f with fileNaming := some v }
  | ("field_enum", v) => (KindSection.ofValue? v).map fun s => { f with fieldEnum := s }
  | ("dto", v) => (KindSection.ofValue? v).map fun s => { f with dto := s }
  | ("entity", v) => (KindSection.ofValue? v).map fun s => { f with entity := s }
  | _ => none

/-- The settings in the text of a file. -/
def ofText? (text : String) : Option File := do
  let entries ← Toml.read? text
  entries.foldlM set? .empty

end File

end SchemaScribe.Settings
