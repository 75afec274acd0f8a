import SchemaScribe.CommandLine.Scan
import SchemaScribe.Settings.Resolve

/-!
# Invocations

What the arguments ask for: a command with its settings, and how much to log. The wish for more
words may stand on both sides of the command; what stands after it counts, if anything does.
-/
namespace SchemaScribe.CommandLine

open Artifact (Kind)
open Settings (Flags KindFlags)

inductive Command where
  | generate (config? : Option Path) (flags : Flags) (dryRun : Bool)
  | check (config? : Option Path) (flags : Flags) (json : Bool)
  | completions (shell : Shell)
  deriving DecidableEq, Repr

structure Invocation where
  verbosity : Nat
  command : Command
  deriving DecidableEq, Repr

namespace Scan

def path? (s : Scan) (opt : Opt) : Option Path := (s.value? opt).map Path.mk

/-- The settings of one kind of module. -/
def kindFlags (s : Scan) (kind : Kind) : KindFlags where
  before := s.value? (.before kind)
  after := s.value? (.after kind)
  dir := s.path? (.dir kind)
  asClass := s.has (.asClass kind)

/-- The settings among the options. -/
def flags (s : Scan) : Flags where
  schema := s.path? .schema
  output := s.path? .output
  useConst := s.has .useConst
  useMapping := s.has .useMapping
  fileNaming := s.value? .fileNaming
  fieldEnum := s.kindFlags .fieldEnum
  dto := s.kindFlags .dto
  entity := s.kindFlags .entity

/-- The command of a scope, from its options. -/
def command (s : Scan) : Scope → Except Usage Command
  | .generate => .ok (.generate (s.path? .config) s.flags (s.has .dryRun))
  | .check => .ok (.check (s.path? .config) s.flags (s.has .json))
  | .completions =>
      match (s.value? .shell).bind Shell.ofName? with
      | some shell => .ok (.completions shell)
      | none => .error .missingArgument
  | .top => .error .missingCommand

end Scan

namespace Invocation

/-- The answer to the word for help, from the words after it. -/
def helpOn : List String → Usage
  | [] => .helpWanted
  | [word] =>
      if word = "help" ∨ (Scope.ofWord? word).isSome then .helpWanted else .unknownCommand
  | _ => .unknownCommand

/-- The invocation of the command of a scope. -/
def ofScope (outer : Scan) (scope : Scope) (args : List String) : Except Usage Invocation := do
  let s ← Scan.all scope args
  let command ← s.command scope
  .ok ⟨if s.has .verbose then s.verbosity else outer.verbosity, command⟩

/-- The command that a word opens, where commands are still looked for. -/
def opens? (s : Scan) (word : String) : Option Scope :=
  if s.trailing then none else Scope.ofWord? word

/-- Reads the options before the command, then the command. -/
def ofArgumentsFrom (s : Scan) : List String → Except Usage Invocation
  | [] => .error (if s.taken.isEmpty then .nothingGiven else .missingCommand)
  | arg :: rest =>
      match opens? s arg with
      | some scope => ofScope s scope rest
      | none =>
          if s.trailing = false ∧ arg = "help" then .error (helpOn rest)
          else do ofArgumentsFrom (← s.next .top arg) rest

/-- The invocation that the arguments of the program stand for. -/
def ofArguments (args : List String) : Except Usage Invocation := ofArgumentsFrom .empty args

end Invocation

end SchemaScribe.CommandLine
