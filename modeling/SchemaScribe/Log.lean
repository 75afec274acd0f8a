import SchemaScribe.Delivery
import SchemaScribe.Schema.Reading
import SchemaScribe.Text.Quoted

/-!
# Log lines

What happens on the way is recorded as events. How many times the user asked for more words decides
which events are shown, and whether the part of the program that reports them is named.
-/
namespace SchemaScribe.Log

inductive Level where
  | error
  | warn
  | info
  | debug
  deriving DecidableEq, Repr

def Level.word : Level → String
  | .error => "ERROR"
  | .warn => "WARN"
  | .info => "INFO"
  | .debug => "DEBUG"

/-- The part of the program that reports an event. -/
inductive Origin where
  | reading
  | generating
  | command
  deriving DecidableEq, Repr

def Origin.name : Origin → String
  | .reading => "fieldgen_schema::parser"
  | .generating => "fieldgen_codegen::generator"
  | .command => "fieldgen::commands::generate"

structure Event where
  level : Level
  origin : Origin
  message : String
  /-- Names and shown values. -/
  details : List (String × String)
  deriving DecidableEq, Repr

/-- Whether events of a level are shown at a verbosity. -/
def Level.isShown (verbosity : Nat) : Level → Bool
  | .debug => 2 ≤ verbosity
  | _ => 1 ≤ verbosity

/-- The line of an event. From verbosity three on it names the origin. -/
def Event.line (verbosity : Nat) (e : Event) : String :=
  e.level.word ++ " " ++ (if 3 ≤ verbosity then e.origin.name ++ ": " else "") ++ e.message ++
    String.join (e.details.map fun (key, value) => " " ++ key ++ "=" ++ value)

/-- The lines shown at a verbosity. -/
def lines (verbosity : Nat) (events : List Event) : List String :=
  (events.filter (·.level.isShown verbosity)).map (·.line verbosity)

open Schema (Block PlacedHeader locationText)

/-- The events of reading blocks, given the names of the records before them. -/
def blockEvents (filename : String) (mapping : Bool) : List String → List Block → List Event
  | _, [] => []
  | seen, b :: rest =>
      let r := b.record mapping
      let skipped := b.unparsableLines.map fun (line, n) =>
        ⟨.warn, .reading, "skipping unparsable field line",
          [("model", Text.quoted b.name), ("location", locationText filename n),
            ("line", Text.quoted line)]⟩
      let parsed := ⟨.debug, .reading, "parsed record block",
        [("model", Text.quoted b.name), ("name", r.name), ("fields", toString r.fields.length)]⟩
      let again := if seen.contains r.name then
          [⟨.info, .reading, "model declared again",
            [("name", r.name), ("location", locationText filename b.bodyLine)]⟩]
        else []
      skipped ++ parsed :: again ++ blockEvents filename mapping (r.name :: seen) rest

/-- The event of skipping a header without a block. -/
def unclosedEvent (filename : String) (h : PlacedHeader) : Event :=
  ⟨.warn, .reading, "skipping unclosed model block",
    [("model", Text.quoted h.name), ("location", locationText filename h.start.line)]⟩

/-- The events of reading a schema. -/
def readingEvents (text filename : String) (mapping : Bool) : List Event :=
  blockEvents filename mapping [] (Schema.blocks text) ++
    (Schema.unclosedHeaders text).map (unclosedEvent filename)

/-- The event of a delivery. -/
def deliveryEvent (d : Delivery) : Event :=
  match d.answer with
  | .ok _ => ⟨.debug, .generating, "wrote artifact",
      [("path", d.artifact.path.text), ("kind", d.artifact.kind.label)]⟩
  | .error e => ⟨.error, .generating, "failed to write artifact",
      [("path", d.artifact.path.text), ("error", e.message)]⟩

/-- The event of finding a settings file. -/
def loadedEvent (path : Path) : Event :=
  ⟨.info, .command, "loaded config file", [("path", path.text)]⟩

/-- The event of having read a schema. -/
def parsedEvent (c : Schema.Catalogue) : Event :=
  ⟨.info, .command, "parsed schema",
    [("records", toString c.names.length), ("fields", toString c.fieldCount)]⟩

end SchemaScribe.Log
