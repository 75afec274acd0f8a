import SchemaScribe.Delivery

/-!
# Writing to a disk

A disk can make a directory, tell whether a path is one, read a file and overwrite a file. To write
a file, the directories around it are made first, from the innermost one that can be made inwards.
Everything else about disks, in memory or real, is behind these four operations.
-/
namespace SchemaScribe

/-- Why a disk operation failed. -/
inductive Fault where
  | notFound
  | alreadyExists
  | notDirectory
  | isDirectory
  | nameTooLong
  | nulInName
  | notText
  | other (description : String)
  deriving DecidableEq, Repr

def Fault.message : Fault → String
  | .notFound => "No such file or directory (os error 2)"
  | .alreadyExists => "File exists (os error 17)"
  | .notDirectory => "Not a directory (os error 20)"
  | .isDirectory => "Is a directory (os error 21)"
  | .nameTooLong => "File name too long (os error 36)"
  | .nulInName => "file name contained an unexpected NUL byte"
  | .notText => "stream did not contain valid UTF-8"
  | .other description => description

structure Disk (m : Type → Type) where
  makeDir : Path → m (Except Fault Unit)
  isDir : Path → m Bool
  read : Path → m (Except Fault ByteArray)
  overwrite : Path → ByteArray → m (Except Fault Unit)

namespace Disk

variable {m : Type → Type} [Monad m]

/-- The text of a file in UTF-8. -/
def readText (disk : Disk m) (path : Path) : m (Except Fault String) := do
  match ← disk.read path with
  | .error fault => pure (.error fault)
  | .ok bytes =>
      match String.fromUTF8? bytes with
      | some text => pure (.ok text)
      | none => pure (.error .notText)

/-- A failure to make a directory does not matter if the directory is there. -/
def settle (disk : Disk m) (dir : Path) (fault : Fault) : m (Except Fault Unit) := do
  if ← disk.isDir dir then pure (.ok ()) else pure (.error fault)

/-- Makes the first directory of a list in which each lies in the next. The empty path is the
working directory and is there. -/
def makeDirs (disk : Disk m) : List Path → m (Except Fault Unit)
  | [] => pure (.error .notFound)
  | dir :: outer =>
      if dir.text = "" then pure (.ok ())
      else do
        match ← disk.makeDir dir with
        | .ok () => pure (.ok ())
        | .error .notFound =>
            match ← makeDirs disk outer with
            | .error fault => pure (.error fault)
            | .ok () =>
                match ← disk.makeDir dir with
                | .ok () => pure (.ok ())
                | .error fault => disk.settle dir fault
        | .error fault => disk.settle dir fault

/-- Puts a file in place, with the directories around it. -/
def place (disk : Disk m) (path : Path) (bytes : ByteArray) : m (Except Fault Unit) := do
  match path.enclosing with
  | [] => disk.overwrite path bytes
  | dirs =>
      match ← disk.makeDirs dirs with
      | .error fault => pure (.error fault)
      | .ok () => disk.overwrite path bytes

/-- The disk as a destination for artifacts. -/
def sink (disk : Disk m) : Sink m := fun path content => do
  match ← disk.place path content.toUTF8 with
  | .ok () => pure (.ok ())
  | .error fault => pure (.error ⟨"failed to write '" ++ path.text ++ "'", [fault.message]⟩)

end Disk

end SchemaScribe
