import SchemaScribe.Artifact.Kind

/-!
# Options

The options of the command line, their long and short names, and what each of them takes. An option
belongs to one or more scopes: the arguments before a command, and those of each command.
-/
namespace SchemaScribe.CommandLine

open Artifact (Kind)

/-- The shells for which a completion script can be printed. -/
inductive Shell where
  | bash
  | elvish
  | fish
  | powershell
  | zsh
  deriving DecidableEq, Repr

namespace Shell

def all : List Shell := [.bash, .elvish, .fish, .powershell, .zsh]

def name : Shell → String
  | .bash => "bash"
  | .elvish => "elvish"
  | .fish => "fish"
  | .powershell => "powershell"
  | .zsh => "zsh"

def ofName? (s : String) : Option Shell := all.find? (·.name = s)

theorem ofName?_name (shell : Shell) : ofName? shell.name = some shell := by
  cases shell <;> rfl

end Shell

inductive Opt where
  | verbose
  | help
  | version
  | schema
  | output
  | useConst
  | useMapping
  | fileNaming
  | before (kind : Kind)
  | after (kind : Kind)
  | dir (kind : Kind)
  | asClass (kind : Kind)
  | config
  | dryRun
  | json
  /-- The one argument without a name. -/
  | shell
  deriving DecidableEq, Repr

/-- What an option takes. -/
inductive Intake where
  | nothing
  | text
  | path
  | shellName
  deriving DecidableEq, Repr

/-- How an option names a kind of module. -/
def kindStem : Kind → String
  | .fieldEnum => "field-enum"
  | .dto => "dto"
  | .entity => "entity"
  | .tables => "tables"

namespace Opt

def long? : Opt → Option String
  | .verbose => some "verbose"
  | .help => some "help"
  | .version => some "version"
  | .schema => some "schema"
  | .output => some "output"
  | .useConst => some "const"
  | .useMapping => some "mapping"
  | .fileNaming => some "file-naming"
  | .before kind => some ("prefix-" ++ kindStem kind)
  | .after kind => some ("suffix-" ++ kindStem kind)
  | .dir kind => some (kindStem kind ++ "-dir")
  | .asClass kind => some (kindStem kind ++ "-as-class")
  | .config => some "config"
  | .dryRun => some "dry-run"
  | .json => some "json"
  | .shell => none

def short? : Opt → Option Char
  | .verbose => some 'v'
  | .help => some 'h'
  | .version => some 'V'
  | .schema => some 's'
  | .output => some 'o'
  | .useConst => some 'c'
  | .useMapping => some 'm'
  | _ => none

def intake : Opt → Intake
  | .schema | .output | .dir _ | .config => .path
  | .fileNaming | .before _ | .after _ => .text
  | .shell => .shellName
  | _ => .nothing

/-- Whether a value can be given to an option. A path is never empty. -/
def accepts (opt : Opt) (value : String) : Bool :=
  match opt.intake with
  | .nothing | .text => true
  | .path => value ≠ ""
  | .shellName => (Shell.ofName? value).isSome

end Opt

/-- The places in which options are understood. -/
inductive Scope where
  | top
  | generate
  | check
  | completions
  deriving DecidableEq, Repr

namespace Scope

/-- The scopes that a command opens. -/
def commands : List Scope := [.generate, .check, .completions]

/-- The word that opens a scope; none opens the outermost one. -/
def word? : Scope → Option String
  | .top => none
  | .generate => some "generate"
  | .check => some "check"
  | .completions => some "completions"

def ofWord? (s : String) : Option Scope := commands.find? (·.word? = some s)

/-- The options of a scope. -/
def options : Scope → List Opt
  | .top => [.verbose, .help, .version]
  | .generate =>
      [.schema, .output, .useConst, .useMapping, .fileNaming, .before .fieldEnum,
        .after .fieldEnum, .dir .fieldEnum, .before .dto, .after .dto, .dir .dto, .asClass .dto,
        .before .entity, .after .entity, .dir .entity, .asClass .entity, .config, .dryRun,
        .verbose, .help]
  | .check => [.schema, .useMapping, .json, .config, .verbose, .help]
  | .completions => [.verbose, .help]

/-- The option without a name, in the scope that has one. -/
def unnamed? : Scope → Option Opt
  | .completions => some .shell
  | _ => none

def long? (scope : Scope) (name : String) : Option Opt :=
  scope.options.find? (·.long? = some name)

def short? (scope : Scope) (c : Char) : Option Opt := scope.options.find? (·.short? = some c)

end Scope

end SchemaScribe.CommandLine
