import SchemaScribe.OrderedEntries

/-!
# Values and tables of a TOML document

A value is a text, a truth value, a number or date kept as written, an array or a table. While a
document is read, its tables grow: a table remembers how it came to be, because a header may open it
only once and a dotted key may extend only what dotted keys have made.
-/
namespace SchemaScribe.Toml

inductive Value where
  | text (s : String)
  | boolean (b : Bool)
  | scalar (source : List Char)
  | array (items : List Value)
  | table (entries : List (String × Value))

/-- How a table came to be. -/
inductive Origin where
  /-- Named on the way to a deeper header. -/
  | passedBy
  | header
  | dottedKey
  deriving DecidableEq, Repr

/-- What stands under a key while a document is read. -/
inductive Node where
  | value (v : Value)
  | table (origin : Origin) (entries : List (String × Node))
  | tables (elements : List (List (String × Node)))

abbrev Entries := List (String × Node)

mutual

/-- The finished value of a node. -/
def Node.freeze : Node → Value
  | .value v => v
  | .table _ entries => .table (freezeEntries entries)
  | .tables elements => .array (freezeElements elements)

def freezeEntries : List (String × Node) → List (String × Value)
  | [] => []
  | (key, node) :: rest => (key, node.freeze) :: freezeEntries rest

def freezeElements : List (List (String × Node)) → List Value
  | [] => []
  | entries :: rest => .table (freezeEntries entries) :: freezeElements rest

end

/-- Gives a dotted key its value. No key may be given twice. -/
def assign (v : Value) : List String → Entries → Option Entries
  | [], _ => none
  | [key], entries =>
      match OrderedEntries.get? key entries with
      | none => some (OrderedEntries.put key (.value v) entries)
      | some _ => none
  | key :: path, entries =>
      match OrderedEntries.get? key entries with
      | none => do
          let inner ← assign v path []
          some (OrderedEntries.put key (.table .dottedKey inner) entries)
      | some (.table .dottedKey inner) => do
          let inner ← assign v path inner
          some (OrderedEntries.put key (.table .dottedKey inner) entries)
      | some _ => none

/-- Changes the entries of the table that a path leads to; an array of tables leads to its last
element. -/
def modifyAt (change : Entries → Option Entries) : List String → Entries → Option Entries
  | [], entries => change entries
  | key :: path, entries =>
      match OrderedEntries.get? key entries with
      | some (.table origin inner) => do
          let inner ← modifyAt change path inner
          some (OrderedEntries.put key (.table origin inner) entries)
      | some (.tables elements) => do
          let last ← elements.getLast?
          let last ← modifyAt change path last
          some (OrderedEntries.put key (.tables (elements.dropLast ++ [last])) entries)
      | _ => none

/-- Opens the table that a header names: `make` turns what stands under its last key into the
opened node. Tables that are missing on the way are created. -/
def openAt (make : Option Node → Option Node) : List String → Entries → Option Entries
  | [], _ => none
  | [key], entries => do
      let node ← make (OrderedEntries.get? key entries)
      some (OrderedEntries.put key node entries)
  | key :: path, entries =>
      match OrderedEntries.get? key entries with
      | none => do
          let inner ← openAt make path []
          some (OrderedEntries.put key (.table .passedBy inner) entries)
      | some (.table origin inner) => do
          let inner ← openAt make path inner
          some (OrderedEntries.put key (.table origin inner) entries)
      | some (.tables elements) => do
          let last ← elements.getLast?
          let last ← openAt make path last
          some (OrderedEntries.put key (.tables (elements.dropLast ++ [last])) entries)
      | some (.value _) => none

/-- A header opens a table that is new or was only passed by. -/
def openTable : Option Node → Option Node
  | none => some (.table .header [])
  | some (.table .passedBy entries) => some (.table .header entries)
  | some _ => none

/-- A double header adds an element to an array of tables. -/
def openElement : Option Node → Option Node
  | none => some (.tables [[]])
  | some (.tables elements) => some (.tables (elements ++ [[]]))
  | some _ => none

end SchemaScribe.Toml
