import SchemaScribe.CommandLine.Help
import SchemaScribe.Run

/-!
# The program

The command line on the file system of the machine.
-/
namespace SchemaScribe.Main

/-- The fault behind an error of the system. -/
def fault : IO.Error → Fault
  | .noFileOrDirectory .. => .notFound
  | .alreadyExists .. => .alreadyExists
  | .inappropriateType _ 20 _ => .notDirectory
  | .inappropriateType _ 21 _ => .isDirectory
  | e => .other (toString e)

/-- An action with its error as a value. -/
def caught {α : Type} (act : IO α) : IO (Except Fault α) := do
  match ← act.toBaseIO with
  | .ok a => pure (.ok a)
  | .error e => pure (.error (fault e))

/-- The file system of the machine. -/
def disk : Disk IO where
  makeDir p := caught (IO.FS.createDir p.text)
  isDir p := do
    match ← caught (IO.FS.realPath p.text) with
    | .ok found => found.isDir
    | .error _ => pure false
  read p := caught (IO.FS.readBinFile p.text)
  overwrite p bytes := caught (IO.FS.writeBinFile p.text bytes)

/-- Shows how a run ended, and gives the exit code. -/
def present : Run.Outcome → IO UInt32
  | .usage usage => do
      if usage.exitCode = 0 then IO.print usage.text else IO.eprint usage.text
      pure usage.exitCode.toUInt32
  | .script text => do
      IO.print text
      pure 0
  | .finished verbosity ending => do
      for line in Log.lines verbosity ending.events do
        IO.eprintln line
      IO.print ending.output
      for line in ending.errorLines do
        IO.eprintln line
      if let some failure := ending.failure? then
        IO.eprintln ("Error: " ++ failure.message)
      pure ending.exitCode.toUInt32

end SchemaScribe.Main

def main (args : List String) : IO UInt32 := do
  SchemaScribe.Main.present (← SchemaScribe.Run.run SchemaScribe.Main.disk args)
