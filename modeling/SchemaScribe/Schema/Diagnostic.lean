/-!
# Diagnostics

Reading a schema goes on past text it cannot use. Each such spot, and each record that is declared
again, is kept as a finding with the place it refers to.
-/
namespace SchemaScribe.Schema

/-- A warning means that text was skipped. An info means that all text was read, though fields that
were read earlier may have been replaced. -/
inductive Severity where
  | warning
  | info
  deriving DecidableEq, Repr

def Severity.word : Severity → String
  | .warning => "warning"
  | .info => "info"

/-- What was noticed. -/
inductive Finding where
  | unparsableLine (line model : String)
  | unclosedBlock (model : String)
  | redeclaredModel (model : String)
  deriving DecidableEq, Repr

namespace Finding

def severity : Finding → Severity
  | .unparsableLine .. => .warning
  | .unclosedBlock _ => .warning
  | .redeclaredModel _ => .info

def message : Finding → String
  | .unparsableLine line model => "unparsable field line '" ++ line ++ "' in model " ++ model
  | .unclosedBlock model =>
      "model " ++ model ++ " has no closing brace of its own; block skipped"
  | .redeclaredModel model =>
      "model " ++ model ++ " is declared again; its fields replace the earlier block"

end Finding

/-- A finding and the place it refers to, written as a file name and a line number. -/
structure Diagnostic where
  finding : Finding
  location : Option String
  deriving DecidableEq, Repr

namespace Diagnostic

def severity (d : Diagnostic) : Severity := d.finding.severity

def message (d : Diagnostic) : String := d.finding.message

/-- The diagnostic as one line of text. -/
def display (d : Diagnostic) : String :=
  d.severity.word ++ ": " ++ d.message ++
    match d.location with
    | some place => " (at " ++ place ++ ")"
    | none => ""

end Diagnostic

/-- A line of a named file. -/
def locationText (filename : String) (line : Nat) : String :=
  filename ++ ":" ++ toString line

end SchemaScribe.Schema
