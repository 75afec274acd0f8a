import SchemaScribe.Proofs.CatalogueOfBlocks
import Mathlib.Algebra.BigOperators.Group.Finset.Basic

/-!
# The history of a catalogue

A catalogue grows by records and by diagnostics, in any order. Its history alone tells what every
view of it shows: each record adds a name, the entries stand in the order in which the names first
came and hold the fields that came last, and the diagnostics are kept apart from both.
-/
namespace SchemaScribe

namespace OrderedEntries

variable {κ : Type} {α : Type} [DecidableEq κ]

/-- A total over the entries is a sum over the keys, each with the value that is found under it. -/
theorem foldl_size_eq_sum (size : α → ℕ) {entries : List (κ × α)}
    (hnodup : (entries.map (·.1)).Nodup) :
    entries.foldl (fun total entry => total + size entry.2) 0 =
      ∑ key ∈ (entries.map (·.1)).toFinset, (get? key entries).elim 0 size := by
  have hfound : ∀ entry ∈ entries, size entry.2 = (get? entry.1 entries).elim 0 size := by
    intro entry hentry
    rw [(mem_iff_get?_eq hnodup).1 hentry, Option.elim_some]
  calc entries.foldl (fun total entry => total + size entry.2) 0
      = (entries.map fun entry => size entry.2).sum := by
        rw [List.sum_eq_foldl, List.foldl_map]
    _ = (entries.map fun entry => (get? entry.1 entries).elim 0 size).sum := by
        rw [List.map_congr_left hfound]
    _ = ∑ key ∈ (entries.map (·.1)).toFinset, (get? key entries).elim 0 size := by
        rw [List.sum_toFinset _ hnodup, List.map_map]
        rfl

end OrderedEntries

namespace Schema.Catalogue

/-- What is added to a catalogue in one step. -/
inductive Addition where
  | record (r : Record)
  | diagnostic (d : Diagnostic)
  deriving DecidableEq, Repr

def add (c : Catalogue) : Addition → Catalogue
  | .record r => c.push r
  | .diagnostic d => c.note d

/-- The catalogue after some additions to the empty one. -/
def ofHistory (history : List Addition) : Catalogue := history.foldl add .empty

def Addition.record? : Addition → Option Record
  | .record r => some r
  | .diagnostic _ => none

def Addition.diagnostic? : Addition → Option Diagnostic
  | .record _ => none
  | .diagnostic d => some d

/-- The records of a history, in order. -/
def pushed (history : List Addition) : List Record := history.filterMap (·.record?)

/-- The diagnostics of a history, in order. -/
def noted (history : List Addition) : List Diagnostic := history.filterMap (·.diagnostic?)

/-- The fields that came last under a name. -/
def lastFields? (history : List Addition) (name : String) : Option (List Field) :=
  ((pushed history).reverse.find? (·.name = name)).map (·.fields)

/-- A catalogue shows a history. -/
structure Reflects (c : Catalogue) (history : List Addition) : Prop where
  names_eq : c.names = (pushed history).map (·.name)
  /-- One entry for each name, where the name first came. -/
  keys_eq : c.fieldsByName.map (·.1) = ((pushed history).map (·.name)).eraseDups
  fields_eq : ∀ name, c.fields? name = lastFields? history name
  fields_eq_none_iff : ∀ name, c.fields? name = none ↔ ∀ r ∈ pushed history, r.name ≠ name
  length_records : c.records.length = (pushed history).length
  /-- Every record is shown with fields that were given to its name. -/
  records_get : ∀ (i : ℕ) (r : Record), (pushed history)[i]? = some r →
    ∃ fields, lastFields? history r.name = some fields ∧ c.records[i]? = some ⟨r.name, fields⟩
  isEmpty_iff : c.isEmpty = true ↔ pushed history = []
  fieldCount_eq : c.fieldCount =
    ∑ name ∈ ((pushed history).map (·.name)).toFinset, (lastFields? history name).elim 0 List.length
  diagnostics_eq : c.diagnostics = noted history

theorem ofHistory_append_singleton (history : List Addition) (a : Addition) :
    ofHistory (history ++ [a]) = (ofHistory history).add a := by
  simp [ofHistory]

theorem names_ofHistory (history : List Addition) :
    (ofHistory history).names = (pushed history).map (·.name) := by
  induction history using List.reverseRecOn with
  | nil => rfl
  | append_singleton history a ih =>
      rw [ofHistory_append_singleton, pushed, List.filterMap_append, List.map_append]
      cases a with
      | record r => exact congrArg (· ++ [r.name]) ih
      | diagnostic d => exact ih.trans (List.append_nil _).symm

theorem fieldsByName_ofHistory (history : List Addition) :
    (ofHistory history).fieldsByName =
      OrderedEntries.ofPairs ((pushed history).map fun r => (r.name, r.fields)) := by
  induction history using List.reverseRecOn with
  | nil => rfl
  | append_singleton history a ih =>
      rw [ofHistory_append_singleton, pushed, List.filterMap_append, List.map_append]
      cases a with
      | record r =>
          refine Eq.trans ?_ (OrderedEntries.ofPairs_append_singleton _ (r.name, r.fields)).symm
          exact congrArg (OrderedEntries.put r.name r.fields) ih
      | diagnostic d => exact ih.trans (congrArg _ (List.append_nil _).symm)

theorem diagnostics_ofHistory (history : List Addition) :
    (ofHistory history).diagnostics = noted history := by
  induction history using List.reverseRecOn with
  | nil => rfl
  | append_singleton history a ih =>
      rw [ofHistory_append_singleton, noted, List.filterMap_append]
      cases a with
      | record r => exact ih.trans (List.append_nil _).symm
      | diagnostic d => exact congrArg (· ++ [d]) ih

theorem fields?_ofHistory (history : List Addition) (name : String) :
    (ofHistory history).fields? name = lastFields? history name := by
  rw [fields?, fieldsByName_ofHistory, OrderedEntries.get?_ofPairs, ← List.map_reverse,
    List.find?_map, Option.map_map]
  rfl

theorem keys_ofHistory (history : List Addition) :
    (ofHistory history).fieldsByName.map (·.1) = ((pushed history).map (·.name)).eraseDups := by
  rw [fieldsByName_ofHistory, OrderedEntries.keys_ofPairs, List.map_map]
  rfl

theorem lastFields?_eq_none_iff {history : List Addition} {name : String} :
    lastFields? history name = none ↔ ∀ r ∈ pushed history, r.name ≠ name := by
  simp [lastFields?]

theorem exists_lastFields? {history : List Addition} {r : Record} (hr : r ∈ pushed history) :
    ∃ fields, lastFields? history r.name = some fields := by
  rw [← Option.isSome_iff_exists, Option.isSome_iff_ne_none]
  exact fun hnone => lastFields?_eq_none_iff.1 hnone r hr rfl

theorem isEmpty_ofHistory_iff (history : List Addition) :
    (ofHistory history).isEmpty = true ↔ pushed history = [] := by
  have hkeys := keys_ofHistory history
  rw [isEmpty, names_ofHistory, Bool.or_eq_true, List.isEmpty_iff, List.isEmpty_iff,
    List.map_eq_nil_iff]
  refine or_iff_left_of_imp fun hentries => List.eq_nil_iff_forall_not_mem.2 fun r hr => ?_
  have hname : r.name ∈ ((pushed history).map (·.name)).eraseDups :=
    List.mem_eraseDups.2 (List.mem_map_of_mem hr)
  rw [← hkeys, hentries] at hname
  exact List.not_mem_nil hname

theorem fieldCount_ofHistory (history : List Addition) :
    (ofHistory history).fieldCount = ∑ name ∈ ((pushed history).map (·.name)).toFinset,
      (lastFields? history name).elim 0 List.length := by
  have hnodup : ((ofHistory history).fieldsByName.map (·.1)).Nodup := by
    rw [fieldsByName_ofHistory]
    exact OrderedEntries.nodup_keys_ofPairs _
  have hkeys : ((ofHistory history).fieldsByName.map (·.1)).toFinset =
      ((pushed history).map (·.name)).toFinset := by
    ext name
    rw [List.mem_toFinset, List.mem_toFinset, keys_ofHistory, List.mem_eraseDups]
  rw [fieldCount, OrderedEntries.foldl_size_eq_sum List.length hnodup, hkeys]
  refine Finset.sum_congr rfl fun name _ => ?_
  rw [← fields?_ofHistory]
  rfl

/-- Whatever is added, and in whatever order, the catalogue shows its history. -/
theorem reflects_ofHistory (history : List Addition) : (ofHistory history).Reflects history where
  names_eq := names_ofHistory history
  keys_eq := keys_ofHistory history
  fields_eq := fields?_ofHistory history
  fields_eq_none_iff name := by rw [fields?_ofHistory, lastFields?_eq_none_iff]
  length_records := by rw [records, List.length_map, names_ofHistory, List.length_map]
  records_get i r hr := by
    obtain ⟨fields, hfields⟩ := exists_lastFields? (List.mem_of_getElem? hr)
    refine ⟨fields, hfields, ?_⟩
    rw [records, names_ofHistory, List.getElem?_map, List.getElem?_map, hr, Option.map_some,
      Option.map_some, fields?_ofHistory, hfields, Option.getD_some]
  isEmpty_iff := isEmpty_ofHistory_iff history
  fieldCount_eq := fieldCount_ofHistory history
  diagnostics_eq := diagnostics_ofHistory history

end Schema.Catalogue

end SchemaScribe
