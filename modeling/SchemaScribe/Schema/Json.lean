import SchemaScribe.Json
import SchemaScribe.Schema.Catalogue

/-!
# A catalogue as JSON

The document holds all of a catalogue: the names, the fields under each distinct name in order, and
the diagnostics.
-/
namespace SchemaScribe.Schema

def Field.toJson (f : Field) : Json := .record [("name", .text f.name), ("type", .text f.type)]

def Diagnostic.toJson (d : Diagnostic) : Json :=
  .record [("severity", .text d.severity.word), ("message", .text d.message),
    ("location", (d.location.map Json.text).getD .null)]

def Catalogue.toJson (c : Catalogue) : Json :=
  .record [("table_names", .list (c.names.map .text)),
    ("fields_by_table",
      .record (c.fieldsByName.map fun (name, fields) => (name, .list (fields.map (·.toJson))))),
    ("diagnostics", .list (c.diagnostics.map (·.toJson)))]

end SchemaScribe.Schema
