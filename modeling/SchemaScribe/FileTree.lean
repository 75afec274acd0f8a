import SchemaScribe.Disk
import SchemaScribe.OrderedEntries

/-!
# File trees

A file tree is a disk in memory: files with their bytes, directories, and a working directory.
There are no links, no permissions and no limits of space, only limits on the length of names and
paths. A path is walked segment by segment; each step needs a directory to stand on.
-/
namespace SchemaScribe

/-- The names on the way from the root, the innermost first. The root is the empty list. -/
abbrev Location := List String

inductive Entry where
  | file (bytes : ByteArray)
  | directory

structure FileTree where
  here : Location
  entries : List (Location × Entry)

namespace FileTree

/-- What is at a location. The root is a directory. -/
def at? (t : FileTree) (l : Location) : Option Entry :=
  if l = [] then some .directory else OrderedEntries.get? l t.entries

def set (t : FileTree) (l : Location) (e : Entry) : FileTree :=
  { t with entries := OrderedEntries.put l e t.entries }

@[simp] theorem at?_set_self (t : FileTree) {l : Location} (h : l ≠ []) (e : Entry) :
    (t.set l e).at? l = some e := by
  simp [at?, set, h]

theorem at?_set_of_ne (t : FileTree) {l other : Location} (h : other ≠ l) (e : Entry) :
    (t.set l e).at? other = t.at? other := by
  by_cases ho : other = []
  · simp [at?, ho]
  · simp [at?, set, ho, OrderedEntries.get?_put_of_ne h]

/-- The longest name of an entry, in bytes. -/
def longestName : Nat := 255

/-- The longest path, in bytes. -/
def longestPath : Nat := 4095

/-- One step from a location, which has to be a directory. -/
def step (t : FileTree) (l : Location) (segment : String) : Except Fault Location :=
  match t.at? l with
  | none => .error .notFound
  | some (.file _) => .error .notDirectory
  | some .directory =>
      if segment = "" ∨ segment = "." then .ok l
      else if segment = ".." then .ok l.tail
      else if longestName < segment.utf8ByteSize then .error .nameTooLong
      else .ok (segment :: l)

/-- The location that a path leads to. Only what is on the way has to be there. -/
def locate (t : FileTree) (p : Path) : Except Fault Location :=
  if p.text.toList.contains '\x00' then .error .nulInName
  else if p.text = "" then .error .notFound
  else if longestPath < p.text.utf8ByteSize then .error .nameTooLong
  else p.segments.foldlM t.step (if p.isAbsolute then [] else t.here)

def makeDir (p : Path) (t : FileTree) : Except Fault Unit × FileTree :=
  match t.locate p with
  | .error fault => (.error fault, t)
  | .ok l =>
      match t.at? l with
      | some _ => (.error .alreadyExists, t)
      | none => (.ok (), t.set l .directory)

def isDir (t : FileTree) (p : Path) : Bool :=
  match t.locate p with
  | .error _ => false
  | .ok l =>
      match t.at? l with
      | some .directory => true
      | _ => false

def read (t : FileTree) (p : Path) : Except Fault ByteArray :=
  match t.locate p with
  | .error fault => .error fault
  | .ok l =>
      match t.at? l with
      | none => .error .notFound
      | some .directory => .error .isDirectory
      | some (.file bytes) => .ok bytes

def overwrite (p : Path) (bytes : ByteArray) (t : FileTree) : Except Fault Unit × FileTree :=
  match t.locate p with
  | .error fault => (.error fault, t)
  | .ok l =>
      match t.at? l with
      | some .directory => (.error .isDirectory, t)
      | _ => (.ok (), t.set l (.file bytes))

/-- File trees as disks. -/
def disk : Disk (StateM FileTree) where
  makeDir p := fun t => makeDir p t
  isDir p := fun t => (t.isDir p, t)
  read p := fun t => (t.read p, t)
  overwrite p bytes := fun t => overwrite p bytes t

/-- The tree in which the working directory is the only one, one level below the root. -/
def fresh : FileTree := ⟨["work"], [(["work"], .directory)]⟩

/-- The files below the working directory, by their paths from there. -/
def files (t : FileTree) : List (String × ByteArray) :=
  t.entries.filterMap fun (l, e) =>
    match e with
    | .directory => none
    | .file bytes =>
        if t.here.isSuffixOf l then
          some ("/".intercalate (l.take (l.length - t.here.length)).reverse, bytes)
        else none

/-- The files that are new, or have other bytes than before. -/
def changes (before after : FileTree) : List (String × ByteArray) :=
  let old := before.files
  after.files.filter fun (path, bytes) =>
    match OrderedEntries.get? path old with
    | some earlier => earlier.data != bytes.data
    | none => true

end FileTree

end SchemaScribe
