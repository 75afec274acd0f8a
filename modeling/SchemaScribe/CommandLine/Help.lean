import SchemaScribe.CommandLine.Completion
import SchemaScribe.CommandLine.Scan

/-!
# Help

What the program says about itself, and about arguments that it does not understand. The texts are
stand-ins, worded here: a parser of arguments prints help and messages of its own, which are longer.
What is settled is which case it is and, with `Usage.exitCode`, how the program exits.
-/
namespace SchemaScribe.CommandLine

/-- The name and the version of the program. -/
def versionText : String := programName ++ " 0.3.0\n"

/-- What a scope is for. -/
def Scope.purpose : Scope → String
  | .top => "Generate TypeScript field enums, DTOs and entities from a Prisma schema"
  | .generate => "Generate field enums, DTOs and entities from a schema"
  | .check => "Parse a schema and report what would be generated"
  | .completions => "Generate shell completions"

/-- The names of an option and what it takes. -/
def Opt.synopsis (opt : Opt) : String :=
  let letter := (opt.short?.map fun c => "-" ++ c.toString ++ ", ").getD "    "
  let name := (opt.long?.map ("--" ++ ·)).getD ""
  let value :=
    match opt.intake with
    | .nothing => ""
    | .text => " <TEXT>"
    | .path => " <PATH>"
    | .shellName => " <SHELL>"
  letter ++ name ++ value

/-- The help on one scope, line by line. -/
def Scope.helpLines (scope : Scope) : List String :=
  scope.purpose :: scope.options.map ("  " ++ ·.synopsis)

/-- The help on the program. -/
def helpText : String :=
  let commands := Scope.commands.flatMap fun scope =>
    "" :: ((scope.word?.getD "") ++ ": " ++ scope.purpose) :: scope.options.map ("  " ++ ·.synopsis)
  "\n".intercalate (Scope.top.helpLines ++ commands) ++ "\n"

/-- A stand-in for what is said of the arguments: what is wrong with them, or what was wished
for. -/
def Usage.text : Usage → String
  | .helpWanted | .nothingGiven => helpText
  | .versionWanted => versionText
  | .unknownArgument => "error: unexpected argument\n"
  | .unknownCommand => "error: unrecognized subcommand\n"
  | .badValue => "error: invalid or missing value\n"
  | .repeatedOption => "error: an option cannot be used multiple times\n"
  | .unneededValue => "error: unexpected value for a switch\n"
  | .missingArgument => "error: a required argument was not provided\n"
  | .missingCommand => "error: a subcommand is required\n"

end SchemaScribe.CommandLine
