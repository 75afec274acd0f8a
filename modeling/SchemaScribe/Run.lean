import SchemaScribe.CommandLine.Completion
import SchemaScribe.CommandLine.Invocation
import SchemaScribe.Disk
import SchemaScribe.Log
import SchemaScribe.Report
import SchemaScribe.Schema.Json

/-!
# Running a command

Both commands start alike: settings file, settings, schema. Checking then shows what was read;
generating renders it, and either shows the modules or writes them to the disk. The disk is a
parameter, so the same run works in memory and on a real file system.
-/
namespace SchemaScribe.Run

open CommandLine (Command Invocation Usage)
open Schema (Catalogue Malformed)
open Settings (File Flags Resolved)

/-- Why a command failed. -/
inductive Failure where
  | settings (error : Settings.Error)
  | unreadableSchema (path : Path)
  | malformed (error : Malformed)
  | unwritten
  deriving DecidableEq, Repr

def Failure.message : Failure → String
  | .settings error => error.message
  | .unreadableSchema path => "failed to read '" ++ path.text ++ "'"
  | .malformed error => error.message
  | .unwritten => "some generated files could not be written"

/-- What a command leaves behind, the disk apart. -/
structure Ending where
  events : List Log.Event
  output : String
  errorLines : List String
  failure? : Option Failure

namespace Ending

def exitCode (e : Ending) : Nat := if e.failure?.isSome then 1 else 0

/-- The ending of a command that failed before it could report anything. -/
def failed (events : List Log.Event) (failure : Failure) : Ending := ⟨events, "", [], some failure⟩

/-- The ending with a report. -/
def reported (events : List Log.Event) (items : List Report.Item) (failure? : Option Failure) :
    Ending :=
  ⟨events, Report.outputText items, Report.errorLines items, failure?⟩

end Ending

/-- A schema that was read, and the settings it was read with. -/
structure Opened where
  settings : Resolved
  catalogue : Catalogue
  deriving DecidableEq, Repr

/-- The diagnostics of an opened schema in words. -/
def Opened.warnings (o : Opened) : List String := o.catalogue.diagnostics.map (·.display)

/-- The modules of an opened schema. -/
def Opened.artifacts (o : Opened) : List Artifact := o.settings.plan.render o.catalogue

variable {m : Type → Type} [Monad m]

/-- Reads the settings file. Only one that was asked for has to exist. -/
def loadFile (disk : Disk m) (named? : Option Path) : m (Except Settings.Error (Option File)) := do
  let path := named?.getD Settings.defaultFile
  match ← disk.readText path, named? with
  | .ok text, _ => pure ((File.parse text path).map some)
  | .error .notFound, none => pure (.ok none)
  | .error _, _ => pure (.error (.unreadable path))

/-- Reads the schema that the settings name. -/
def readSchema (disk : Disk m) (settings : Resolved) :
    m (List Log.Event × Except Failure Opened) := do
  let filename := settings.schema.text
  let mapping := settings.plan.useMapping
  match ← disk.readText settings.schema with
  | .error _ => pure ([], .error (.unreadableSchema settings.schema))
  | .ok text =>
      let events := Log.readingEvents text filename mapping
      match Schema.read text filename mapping with
      | .error e => pure (events, .error (.malformed e))
      | .ok catalogue => pure (events, .ok ⟨settings, catalogue⟩)

/-- Reads the settings, then the schema. The events say what happened up to the end or the
failure. -/
def openSchema (disk : Disk m) (config? : Option Path) (flags : Flags) :
    m (List Log.Event × Except Failure Opened) := do
  let config := config?.getD Settings.defaultFile
  match ← loadFile disk config? with
  | .error e => pure ([], .error (.settings e))
  | .ok file? =>
      let loaded := if file?.isSome then [Log.loadedEvent config] else []
      match Settings.resolve flags file? config with
      | .error e => pure (loaded, .error (.settings e))
      | .ok settings => do
          let (events, opened) ← readSchema disk settings
          pure (loaded ++ events, opened)

/-- What checking shows of a schema. -/
def checkReport (o : Opened) : List Report.Item :=
  Report.check o.settings.schema o.warnings
    (o.catalogue.records.map fun r => (r.name, r.fields.length))

/-- Checks a schema. Checking logs nothing but what reading a schema logs. -/
def check (disk : Disk m) (config? : Option Path) (flags : Flags) (json : Bool) : m Ending := do
  let (events, opened) ← openSchema disk config? flags
  let events := events.filter (·.origin = .reading)
  match opened with
  | .error failure => pure (.failed events failure)
  | .ok o =>
      if json then pure ⟨events, o.catalogue.toJson.pretty ++ "\n", [], none⟩
      else pure (.reported events (checkReport o) none)

/-- Shows the modules of a schema. -/
def previewReport (o : Opened) : List Report.Item :=
  Report.preview o.warnings
    (o.artifacts.map fun a => (a.path, a.content))

/-- What writing the modules of a schema shows. -/
def writtenReport (o : Opened) (deliveries : List Delivery) : List Report.Item :=
  Report.written o.settings.schema o.warnings o.catalogue.names.length (writtenPaths deliveries)
    (writeFailures deliveries)

/-- Generates the modules of a schema. A file that cannot be written does not stop the rest. -/
def generate (disk : Disk m) (config? : Option Path) (flags : Flags) (dryRun : Bool) :
    m Ending := do
  let (events, opened) ← openSchema disk config? flags
  match opened with
  | .error failure => pure (.failed events failure)
  | .ok o =>
      let events := events ++ [Log.parsedEvent o.catalogue]
      if dryRun then pure (.reported events (previewReport o) none)
      else do
        let deliveries ← deliver disk.sink o.artifacts
        pure (.reported (events ++ deliveries.map Log.deliveryEvent) (writtenReport o deliveries)
          (if allWritten deliveries then none else some .unwritten))

/-- How a call of the program ends. -/
inductive Outcome where
  | usage (usage : Usage)
  | script (text : String)
  | finished (verbosity : Nat) (ending : Ending)

/-- Runs the program with its arguments. -/
def run (disk : Disk m) (args : List String) : m Outcome :=
  match Invocation.ofArguments args with
  | .error usage => pure (.usage usage)
  | .ok ⟨verbosity, command⟩ =>
      match command with
      | .completions shell => pure (.script (CommandLine.completionScript shell))
      | .check config? flags json => do
          pure (.finished verbosity (← check disk config? flags json))
      | .generate config? flags dryRun => do
          pure (.finished verbosity (← generate disk config? flags dryRun))

end SchemaScribe.Run
