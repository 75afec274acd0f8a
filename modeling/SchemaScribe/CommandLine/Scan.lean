import SchemaScribe.CommandLine.Opt

/-!
# Scanning arguments

Arguments are taken one after the other. A value is settled only when the next option or the end
comes, so an unknown option is reported before a bad value that stands in front of it. A switch or
an option with a value may be given once; only the option for more words may be repeated.
-/
namespace SchemaScribe.CommandLine

/-- Why the arguments start no command. The first two are wishes, the rest are mistakes. -/
inductive Usage where
  | helpWanted
  | versionWanted
  | unknownArgument
  | unknownCommand
  | badValue
  | repeatedOption
  | unneededValue
  | missingArgument
  | missingCommand
  | nothingGiven
  deriving DecidableEq, Repr

def Usage.exitCode : Usage → Nat
  | .helpWanted | .versionWanted => 0
  | _ => 2

/-- An option whose value is not settled yet, or has still to come. -/
structure Pending where
  opt : Opt
  value? : Option String
  deriving DecidableEq, Repr

structure Scan where
  /-- Options with their values, in order; a switch has an empty value. -/
  taken : List (Opt × String)
  pending? : Option Pending
  /-- Whether options have ended. -/
  trailing : Bool
  deriving DecidableEq, Repr

namespace Scan

def empty : Scan := ⟨[], none, false⟩

/-- The value of an option. -/
def value? (s : Scan) (opt : Opt) : Option String :=
  (s.taken.find? (·.1 = opt)).map (·.2)

/-- Whether an option was given. -/
def has (s : Scan) (opt : Opt) : Bool := (s.value? opt).isSome

def take (s : Scan) (opt : Opt) (value : String) : Scan :=
  { s with taken := s.taken ++ [(opt, value)] }

/-- Takes an option for the first time. -/
def takeOnce (s : Scan) (opt : Opt) (value : String) : Except Usage Scan :=
  if s.has opt then .error .repeatedOption
  else if opt.accepts value then .ok (s.take opt value)
  else .error .badValue

/-- Takes the option that was waiting, with its value. -/
def settle (s : Scan) : Except Usage Scan :=
  match s.pending? with
  | none => .ok s
  | some ⟨_, none⟩ => .error .badValue
  | some ⟨opt, some value⟩ => { s with pending? := none }.takeOnce opt value

/-- Takes an option that has no value. -/
def switchOn (s : Scan) (opt : Opt) : Except Usage Scan := do
  let s ← s.settle
  match opt with
  | .help => .error .helpWanted
  | .version => .error .versionWanted
  | .verbose => .ok (s.take .verbose "")
  | _ => s.takeOnce opt ""

/-- Takes an option with the value that is attached to it, or waits for one. -/
def openValue (s : Scan) (opt : Opt) (attached? : Option String) : Except Usage Scan := do
  let s ← s.settle
  match attached? with
  | some value => s.takeOnce opt value
  | none => .ok { s with pending? := some ⟨opt, none⟩ }

/-- An argument after two hyphens: a name, and a value after the first equals sign. -/
def long (scope : Scope) (s : Scan) (cs : List Char) : Except Usage Scan :=
  let name := String.ofList (cs.takeWhile (· ≠ '='))
  let attached? : Option String :=
    match cs.dropWhile (· ≠ '=') with
    | [] => none
    | _ :: value => some (String.ofList value)
  match scope.long? name with
  | none => .error .unknownArgument
  | some opt =>
      match opt.intake, attached? with
      | .nothing, some _ => .error .unneededValue
      | .nothing, none => s.switchOn opt
      | _, _ => s.openValue opt attached?

/-- The value that is attached to a letter, without the equals sign in between. -/
def attachedTo : List Char → Option String
  | [] => none
  | '=' :: value => some (String.ofList value)
  | value => some (String.ofList value)

/-- An argument after one hyphen: letters of switches, up to one that takes a value. -/
def letters (scope : Scope) (s : Scan) : List Char → Except Usage Scan
  | [] => .ok s
  | c :: rest =>
      match scope.short? c with
      | none => .error .unknownArgument
      | some opt =>
          match opt.intake with
          | .nothing => do letters scope (← s.switchOn opt) rest
          | _ => s.openValue opt (attachedTo rest)

/-- Whether an option was given or is waiting. -/
def mentions (s : Scan) (opt : Opt) : Bool := s.has opt || s.pending?.any (·.opt = opt)

/-- An argument that is neither an option nor the value of one. -/
def unnamed (scope : Scope) (s : Scan) (arg : String) : Except Usage Scan :=
  match scope, scope.unnamed? with
  | _, some opt =>
      if s.mentions opt then .error .unknownArgument
      else do
        let s ← s.settle
        .ok { s with pending? := some ⟨opt, some arg⟩ }
  | .top, none =>
      if s.trailing ∧ (arg = "help" ∨ (Scope.ofWord? arg).isSome) then .error .unknownArgument
      else .error .unknownCommand
  | _, none => .error .unknownArgument

/-- The next argument of a scope. Two hyphens alone end the options. -/
def next (scope : Scope) (s : Scan) (arg : String) : Except Usage Scan :=
  if s.trailing then s.unnamed scope arg
  else
    match arg.toList with
    | ['-', '-'] => .ok { s with trailing := true }
    | '-' :: '-' :: rest => s.long scope rest
    | '-' :: c :: rest => s.letters scope (c :: rest)
    | _ =>
        match s.pending? with
        | some ⟨opt, none⟩ => .ok { s with pending? := some ⟨opt, some arg⟩ }
        | _ => s.unnamed scope arg

/-- All arguments of a scope. -/
def all (scope : Scope) (args : List String) : Except Usage Scan := do
  let s ← args.foldlM (next scope) empty
  s.settle

/-- How many more words are asked for. -/
def verbosity (s : Scan) : Nat := s.taken.countP (·.1 = .verbose)

end Scan

end SchemaScribe.CommandLine
