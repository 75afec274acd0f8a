import SchemaScribe.OrderedEntries
import SchemaScribe.Schema.BodyLine
import SchemaScribe.Schema.Diagnostic

/-!
# The catalogue of a schema

A catalogue keeps the names of all records in the order of their blocks, repeats included, the
fields of each distinct name, and the diagnostics. When a name is declared again its new fields
take the place of the old ones.
-/
namespace SchemaScribe.Schema

structure Catalogue where
  names : List String
  fieldsByName : List (String × List Field)
  diagnostics : List Diagnostic
  deriving DecidableEq, Repr

namespace Catalogue

def empty : Catalogue := ⟨[], [], []⟩

/-- Adds a record: its name and its fields together. -/
def push (c : Catalogue) (r : Record) : Catalogue :=
  { c with
    names := c.names ++ [r.name]
    fieldsByName := OrderedEntries.put r.name r.fields c.fieldsByName }

/-- Adds diagnostics. -/
def noteAll (c : Catalogue) (ds : List Diagnostic) : Catalogue :=
  { c with diagnostics := c.diagnostics ++ ds }

/-- Adds one diagnostic. -/
def note (c : Catalogue) (d : Diagnostic) : Catalogue := c.noteAll [d]

/-- The fields of the named record. -/
def fields? (c : Catalogue) (name : String) : Option (List Field) :=
  OrderedEntries.get? name c.fieldsByName

/-- One record for each name, in order, with the fields that the name has in the end. -/
def records (c : Catalogue) : List Record :=
  c.names.map fun name => ⟨name, (c.fields? name).getD []⟩

/-- Whether there is no record. -/
def isEmpty (c : Catalogue) : Bool := c.names.isEmpty || c.fieldsByName.isEmpty

/-- The number of fields of the distinct records. -/
def fieldCount (c : Catalogue) : Nat :=
  c.fieldsByName.foldl (fun count entry => count + entry.2.length) 0

@[simp] theorem fields?_push_self (c : Catalogue) (r : Record) :
    (c.push r).fields? r.name = some r.fields := OrderedEntries.get?_put_self ..

theorem fields?_push_of_ne (c : Catalogue) (r : Record) {name : String} (h : name ≠ r.name) :
    (c.push r).fields? name = c.fields? name := OrderedEntries.get?_put_of_ne h ..

@[simp] theorem fields?_noteAll (c : Catalogue) (ds : List Diagnostic) (name : String) :
    (c.noteAll ds).fields? name = c.fields? name := rfl

end Catalogue

end SchemaScribe.Schema
