import SchemaScribe.Delivery

/-!
# Reports

A report is a list of items that say what to show; how an item looks on a terminal is decided once,
for all reports. Warnings and errors go to the error stream, the rest to the output.
-/
namespace SchemaScribe.Report

inductive Item where
  | heading (title : String)
  | keyValue (key value : String)
  | listItem (text : String)
  | addedItem (text : String)
  | warning (message : String)
  | error (message : String)
  | divider (label : String)
  | preformatted (text : String)
  | newline
  deriving DecidableEq, Repr

/-- A line for the output. -/
def Item.outputLine? : Item → Option String
  | .heading title => some (title ++ ":")
  | .keyValue key value => some (key ++ ": " ++ value)
  | .listItem text => some ("  - " ++ text)
  | .addedItem text => some ("  + " ++ text)
  | .divider label => some ("── " ++ label ++ " ──")
  | .preformatted text => some text
  | .newline => some ""
  | .warning _ | .error _ => none

/-- A line for the error stream. -/
def Item.errorLine? : Item → Option String
  | .warning message => some message
  | .error message => some ("error: " ++ message)
  | _ => none

/-- The output of a report, each line ended by a line feed. -/
def outputText (items : List Item) : String :=
  String.join ((items.filterMap (·.outputLine?)).map (· ++ "\n"))

/-- The lines that a report puts on the error stream. -/
def errorLines (items : List Item) : List String := items.filterMap (·.errorLine?)

/-- A count of fields in words. -/
def fieldsText (count : Nat) : String :=
  toString count ++ " field" ++ if count = 1 then "" else "s"

/-- The report on a schema that could be read: its records with their numbers of fields. -/
def check (schema : Path) (warnings : List String) (records : List (String × Nat)) : List Item :=
  warnings.map .warning ++ (if warnings.isEmpty then [] else [.newline]) ++
    [.preformatted ("✓ " ++ schema.text ++ " is valid"), .newline,
      .heading ("Records (" ++ toString records.length ++ ")")] ++
    records.map fun (name, count) => .listItem (name ++ " (" ++ fieldsText count ++ ")")

/-- The report on files that were handed to the file system. -/
def written (schema : Path) (warnings : List String) (recordCount : Nat) (paths : List Path)
    (failures : List WriteFailure) : List Item :=
  warnings.map .warning ++
    [.keyValue "Schema" schema.text, .keyValue "Records" (toString recordCount), .newline,
      .heading ("Generated (" ++ toString paths.length ++ ")")] ++
    paths.map (fun p => .addedItem p.text) ++ failures.map fun f => .error f.display

/-- The report on files that would be written. -/
def preview (warnings : List String) (files : List (Path × String)) : List Item :=
  warnings.map .warning ++
    files.flatMap (fun (path, content) => [.divider path.text, .preformatted content]) ++
    [.divider "Summary", .preformatted (toString files.length ++ " files would be generated")]

end SchemaScribe.Report
