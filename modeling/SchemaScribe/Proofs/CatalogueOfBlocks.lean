import SchemaScribe.Schema.Reading
import Mathlib.Data.List.Induction
import Mathlib.Data.List.Nodup

/-!
# What a catalogue holds

Entries put one after the other are found under the last value of each key, and their keys stand in
the order in which they first came. The catalogue that is read from a text is described by this: it
has the name of every block, the fields of the last block of each name, and the diagnostics of the
blocks in order.
-/
namespace SchemaScribe

namespace OrderedEntries

variable {κ : Type} {α : Type} [DecidableEq κ]

/-- The entries after putting pairs one after the other. -/
def ofPairs (pairs : List (κ × α)) : List (κ × α) :=
  pairs.foldl (fun entries pair => put pair.1 pair.2 entries) []

theorem ofPairs_append_singleton (pairs : List (κ × α)) (pair : κ × α) :
    ofPairs (pairs ++ [pair]) = put pair.1 pair.2 (ofPairs pairs) := by
  simp [ofPairs]

/-- The last value that was put under a key is found. -/
theorem get?_ofPairs (key : κ) (pairs : List (κ × α)) :
    get? key (ofPairs pairs) = (pairs.reverse.find? (·.1 = key)).map (·.2) := by
  induction pairs using List.reverseRecOn with
  | nil => rfl
  | append_singleton pairs pair ih =>
      rw [ofPairs_append_singleton, List.reverse_append, List.reverse_singleton,
        List.singleton_append, List.find?_cons]
      by_cases h : pair.1 = key
      · simp [h]
      · simp [h, get?_put_of_ne (Ne.symm h), ih]

/-- The keys stand in the order in which they first came. -/
theorem keys_ofPairs (pairs : List (κ × α)) :
    (ofPairs pairs).map (·.1) = (pairs.map (·.1)).eraseDups := by
  induction pairs using List.reverseRecOn with
  | nil => rfl
  | append_singleton pairs pair ih =>
      rw [ofPairs_append_singleton, keys_put, ih, List.map_append, List.eraseDups_append]
      by_cases h : pair.1 ∈ pairs.map (·.1)
      · simp [h, List.removeAll]
      · simp [h, List.removeAll, List.eraseDups_cons]

theorem nodup_keys_ofPairs (pairs : List (κ × α)) : ((ofPairs pairs).map (·.1)).Nodup := by
  induction pairs using List.reverseRecOn with
  | nil => exact List.nodup_nil
  | append_singleton pairs pair ih =>
      rw [ofPairs_append_singleton, keys_put]
      split_ifs with h
      · exact ih
      · rw [← List.concat_eq_append]
        exact List.Nodup.concat h ih

theorem isSome_get?_iff {key : κ} {entries : List (κ × α)} :
    (get? key entries).isSome ↔ key ∈ entries.map (·.1) := by
  induction entries with
  | nil => simp [get?]
  | cons entry entries ih =>
      by_cases h : entry.1 = key
      · simp [get?, h]
      · simp [get?, h, Ne.symm h, ih]

theorem mem_iff_get?_eq {entries : List (κ × α)} (hnodup : (entries.map (·.1)).Nodup)
    {entry : κ × α} : entry ∈ entries ↔ get? entry.1 entries = some entry.2 := by
  induction entries with
  | nil => simp [get?]
  | cons head entries ih =>
      obtain ⟨key, value⟩ := head
      simp only [List.map_cons, List.nodup_cons] at hnodup
      by_cases h : key = entry.1
      · subst h
        have hrest : entry ∉ entries := fun hmem => hnodup.1 (List.mem_map_of_mem hmem)
        simp [get?, hrest, Prod.ext_iff, eq_comm]
      · have hne : entry ≠ (key, value) := fun heq => h (congrArg Prod.fst heq).symm
        simp [get?, h, hne, ih hnodup.2]

/-- Pairs that never give one key two values become entries as they are. -/
theorem mem_ofPairs_iff {pairs : List (κ × α)}
    (hvalue : ∀ p ∈ pairs, ∀ q ∈ pairs, p.1 = q.1 → p.2 = q.2) {pair : κ × α} :
    pair ∈ ofPairs pairs ↔ pair ∈ pairs := by
  rw [mem_iff_get?_eq (nodup_keys_ofPairs pairs), get?_ofPairs]
  constructor
  · intro h
    obtain ⟨last, hlast, hsnd⟩ := Option.map_eq_some_iff.1 h
    have hfst : last.1 = pair.1 := by simpa using List.find?_some hlast
    rw [← Prod.ext hfst hsnd]
    exact List.mem_reverse.1 (List.mem_of_find?_eq_some hlast)
  · intro hmem
    have hsome : (pairs.reverse.find? (·.1 = pair.1)).isSome :=
      List.find?_isSome.2 ⟨pair, List.mem_reverse.2 hmem, by simp⟩
    obtain ⟨last, hlast⟩ := Option.isSome_iff_exists.1 hsome
    have hfst : last.1 = pair.1 := by simpa using List.find?_some hlast
    have hlast' : last ∈ pairs := List.mem_reverse.1 (List.mem_of_find?_eq_some hlast)
    rw [hlast, Option.map_some, hvalue last hlast' pair hmem hfst]

/-- Entries with different keys are equal when their keys and the values found under them are. -/
theorem ext_of_get? {entries others : List (κ × α)} (hnodup : (entries.map (·.1)).Nodup)
    (hkeys : entries.map (·.1) = others.map (·.1))
    (hget : ∀ key ∈ entries.map (·.1), get? key entries = get? key others) :
    entries = others := by
  induction entries generalizing others with
  | nil => exact (List.map_eq_nil_iff.1 hkeys.symm).symm
  | cons entry entries ih =>
      cases others with
      | nil => simp at hkeys
      | cons other others =>
          obtain ⟨key, value⟩ := entry
          obtain ⟨key', value'⟩ := other
          simp only [List.map_cons, List.cons.injEq] at hkeys
          obtain ⟨rfl, hkeys⟩ := hkeys
          simp only [List.map_cons, List.nodup_cons] at hnodup
          have hvalue : value = value' := by simpa [get?] using hget key (by simp)
          have hrest : entries = others := by
            refine ih hnodup.2 hkeys fun k hk => ?_
            have hne : key ≠ k := by
              rintro rfl
              exact hnodup.1 hk
            have hk' := hget k (List.mem_cons_of_mem _ hk)
            simpa [get?, hne] using hk'
          rw [hvalue, hrest]

end OrderedEntries

namespace Schema

/-- The items whose key an earlier item has. -/
def repeatedBy {α κ : Type} [DecidableEq κ] (key : α → κ) (xs : List α) : List α :=
  (xs.zipIdx.filter fun (x, i) => key x ∈ (xs.take i).map key).map (·.1)

theorem repeatedBy_append_singleton {α κ : Type} [DecidableEq κ] (key : α → κ) (xs : List α)
    (x : α) :
    repeatedBy key (xs ++ [x]) = repeatedBy key xs ++ if key x ∈ xs.map key then [x] else [] := by
  have hfilter : xs.zipIdx.filter (fun y => decide (key y.1 ∈ ((xs ++ [x]).take y.2).map key)) =
      xs.zipIdx.filter fun y => decide (key y.1 ∈ (xs.take y.2).map key) := by
    refine List.filter_congr fun y hy => ?_
    have hlt := List.snd_lt_of_mem_zipIdx hy
    rw [List.take_append_of_le_length (by omega)]
  rw [repeatedBy, repeatedBy, List.zipIdx_append, List.filter_append, List.map_append, hfilter]
  by_cases h : key x ∈ xs.map key
  · simp only [List.zipIdx_singleton, Nat.zero_add, List.take_left, h, List.filter_cons,
      decide_true, if_true, List.filter_nil, List.map_singleton]
  · simp only [List.zipIdx_singleton, Nat.zero_add, List.take_left, h, List.filter_cons,
      decide_false, Bool.false_eq_true, if_false, List.filter_nil, List.map_nil]

/-- The names that stand in the list before, each time they come again. -/
def repeated (names : List String) : List String := repeatedBy id names

theorem repeated_map {α : Type} (key : α → String) (xs : List α) :
    repeated (xs.map key) = (repeatedBy key xs).map key := by
  rw [repeated]
  induction xs using List.reverseRecOn with
  | nil => rfl
  | append_singleton xs x ih =>
      rw [List.map_append, List.map_singleton, repeatedBy_append_singleton, ih,
        repeatedBy_append_singleton, List.map_append, List.map_id, id]
      split_ifs <;> rfl

theorem Block.severity_of_mem_complaints {b : Block} {filename : String} {d : Diagnostic}
    (h : d ∈ b.complaints filename) : d.severity = .warning := by
  obtain ⟨⟨line, n⟩, -, rfl⟩ := List.mem_map.1 h
  rfl

theorem Block.filter_info_complaints (b : Block) (filename : String) :
    (b.complaints filename).filter (·.severity = .info) = [] := by
  rw [List.filter_eq_nil_iff]
  intro d hd
  simp [severity_of_mem_complaints hd]

theorem Block.filter_warning_complaints (b : Block) (filename : String) :
    (b.complaints filename).filter (·.severity = .warning) = b.complaints filename := by
  rw [List.filter_eq_self]
  intro d hd
  simp [severity_of_mem_complaints hd]

/-- Headers without a block give warnings. -/
theorem severity_of_mem_unclosed {text filename : String} {d : Diagnostic}
    (hd : d ∈ (unclosedHeaders text).map (·.complaint filename)) : d.severity = .warning := by
  obtain ⟨h, -, rfl⟩ := List.mem_map.1 hd
  rfl

theorem filter_info_unclosed (text filename : String) :
    ((unclosedHeaders text).map (·.complaint filename)).filter (·.severity = .info) = [] := by
  rw [List.filter_eq_nil_iff]
  intro d hd
  simp [severity_of_mem_unclosed hd]

theorem filter_warning_unclosed (text filename : String) :
    ((unclosedHeaders text).map (·.complaint filename)).filter (·.severity = .warning) =
      (unclosedHeaders text).map (·.complaint filename) := by
  rw [List.filter_eq_self]
  intro d hd
  simp [severity_of_mem_unclosed hd]

namespace Catalogue

variable (filename : String) (mapping : Bool)

/-- The catalogue after some blocks, before the headers without a block are reported. -/
def ofBlocks (filename : String) (mapping : Bool) (bs : List Block) : Catalogue :=
  bs.foldl (addBlock filename mapping) .empty

/-- The name of a block's record with its fields. -/
def entry (mapping : Bool) (b : Block) : String × List Field :=
  (b.recordName mapping, (b.record mapping).fields)

/-- The diagnostic of a block whose name the catalogue has already. -/
def redeclared (filename : String) (mapping : Bool) (b : Block) : Diagnostic :=
  ⟨.redeclaredModel (b.recordName mapping), locationText filename b.bodyLine⟩

@[simp] theorem names_noteAll (c : Catalogue) (ds : List Diagnostic) :
    (c.noteAll ds).names = c.names := rfl

@[simp] theorem diagnostics_noteAll (c : Catalogue) (ds : List Diagnostic) :
    (c.noteAll ds).diagnostics = c.diagnostics ++ ds := rfl

theorem ofBlocks_append_singleton (bs : List Block) (b : Block) :
    ofBlocks filename mapping (bs ++ [b]) =
      addBlock filename mapping (ofBlocks filename mapping bs) b := by
  simp [ofBlocks]

/-- What a block adds to a catalogue. -/
theorem addBlock_eq (c : Catalogue) (b : Block) :
    addBlock filename mapping c b =
      ⟨c.names ++ [b.recordName mapping],
        OrderedEntries.put (b.recordName mapping) (b.record mapping).fields c.fieldsByName,
        c.diagnostics ++ b.complaints filename ++
          if (c.fields? (b.recordName mapping)).isSome then [redeclared filename mapping b]
          else []⟩ := by
  have hname : (b.record mapping).name = b.recordName mapping := rfl
  by_cases h : (c.fields? (b.recordName mapping)).isSome = true
  · simp only [addBlock, fields?_noteAll, hname, h, if_true]
    simp [note, noteAll, push, redeclared, hname]
  · simp only [addBlock, fields?_noteAll, hname, h]
    simp [noteAll, push, hname]

theorem names_ofBlocks (bs : List Block) :
    (ofBlocks filename mapping bs).names = bs.map (·.recordName mapping) := by
  induction bs using List.reverseRecOn with
  | nil => rfl
  | append_singleton bs b ih => simp [ofBlocks_append_singleton, addBlock_eq, ih]

theorem fieldsByName_ofBlocks (bs : List Block) :
    (ofBlocks filename mapping bs).fieldsByName =
      OrderedEntries.ofPairs (bs.map (entry mapping)) := by
  induction bs using List.reverseRecOn with
  | nil => rfl
  | append_singleton bs b ih =>
      rw [ofBlocks_append_singleton, addBlock_eq, ih, List.map_append, List.map_singleton,
        OrderedEntries.ofPairs_append_singleton]
      rfl

/-- The fields of a name are those of the last block with this name. -/
theorem fields?_ofBlocks (bs : List Block) (name : String) :
    (ofBlocks filename mapping bs).fields? name =
      (bs.reverse.find? (·.recordName mapping = name)).map fun b => (b.record mapping).fields := by
  rw [fields?, fieldsByName_ofBlocks, OrderedEntries.get?_ofPairs, ← List.map_reverse,
    List.find?_map, Option.map_map]
  rfl

/-- A name has fields when a block has this name. -/
theorem isSome_fields?_ofBlocks (bs : List Block) (name : String) :
    ((ofBlocks filename mapping bs).fields? name).isSome ↔
      name ∈ bs.map (·.recordName mapping) := by
  rw [fields?_ofBlocks, Option.isSome_map, List.find?_isSome]
  simp

theorem isEmpty_ofBlocks (bs : List Block) :
    (ofBlocks filename mapping bs).isEmpty = bs.isEmpty := by
  cases bs with
  | nil => rfl
  | cons b bs =>
      have hsome := (isSome_fields?_ofBlocks filename mapping (b :: bs)
        (b.recordName mapping)).2 (by simp)
      have hne : (ofBlocks filename mapping (b :: bs)).fieldsByName ≠ [] := by
        intro h
        simp [fields?, h, OrderedEntries.get?] at hsome
      simp [isEmpty, names_ofBlocks, hne]

/-- The diagnostics of a block come behind those of the blocks before it. -/
theorem diagnostics_ofBlocks_append_singleton (bs : List Block) (b : Block) :
    (ofBlocks filename mapping (bs ++ [b])).diagnostics =
      (ofBlocks filename mapping bs).diagnostics ++ b.complaints filename ++
        if b.recordName mapping ∈ bs.map (·.recordName mapping) then
          [redeclared filename mapping b]
        else [] := by
  simp only [ofBlocks_append_singleton, addBlock_eq, isSome_fields?_ofBlocks]

/-- Further blocks add diagnostics behind those that are there. -/
theorem prefix_diagnostics_ofBlocks (bs more : List Block) :
    (ofBlocks filename mapping bs).diagnostics <+:
      (ofBlocks filename mapping (bs ++ more)).diagnostics := by
  induction more using List.reverseRecOn with
  | nil => simp
  | append_singleton more b ih =>
      rw [← List.append_assoc, diagnostics_ofBlocks_append_singleton, List.append_assoc]
      exact ih.trans (List.prefix_append _ _)

/-- A diagnostic is a complaint about a line, or it is for a block whose name came before. -/
theorem mem_diagnostics_ofBlocks {bs : List Block} {d : Diagnostic} :
    d ∈ (ofBlocks filename mapping bs).diagnostics ↔
      (∃ b ∈ bs, d ∈ b.complaints filename) ∨
      ∃ earlier b later, bs = earlier ++ b :: later ∧
        b.recordName mapping ∈ earlier.map (·.recordName mapping) ∧
        d = redeclared filename mapping b := by
  constructor
  · intro hd
    induction bs using List.reverseRecOn with
    | nil => exact absurd hd List.not_mem_nil
    | append_singleton bs b ih =>
        rw [diagnostics_ofBlocks_append_singleton, List.mem_append, List.mem_append] at hd
        rcases hd with (hd | hd) | hd
        · rcases ih hd with ⟨b', hb', hd'⟩ | ⟨earlier, b', later, rfl, hname, rfl⟩
          · exact Or.inl ⟨b', by simp [hb'], hd'⟩
          · exact Or.inr ⟨earlier, b', later ++ [b], by simp, hname, rfl⟩
        · exact Or.inl ⟨b, by simp, hd⟩
        · split_ifs at hd with hname
          · exact Or.inr ⟨bs, b, [], rfl, hname, List.mem_singleton.1 hd⟩
          · exact absurd hd List.not_mem_nil
  · have hat : ∀ earlier b later, d ∈ (ofBlocks filename mapping (earlier ++ [b])).diagnostics →
        d ∈ (ofBlocks filename mapping (earlier ++ b :: later)).diagnostics := by
      intro earlier b later hd
      rw [List.append_cons]
      exact (prefix_diagnostics_ofBlocks filename mapping _ later).mem hd
    rintro (⟨b, hb, hd⟩ | ⟨earlier, b, later, rfl, hname, rfl⟩)
    · obtain ⟨earlier, later, rfl⟩ := List.append_of_mem hb
      refine hat earlier b later ?_
      rw [diagnostics_ofBlocks_append_singleton]
      simp [hd]
    · refine hat earlier b later ?_
      rw [diagnostics_ofBlocks_append_singleton, if_pos hname]
      simp

/-- The infos of the blocks are for those whose name an earlier block has. -/
theorem filter_info_ofBlocks (bs : List Block) :
    (ofBlocks filename mapping bs).diagnostics.filter (·.severity = .info) =
      (repeatedBy (·.recordName mapping) bs).map (redeclared filename mapping) := by
  induction bs using List.reverseRecOn with
  | nil => rfl
  | append_singleton bs b ih =>
      rw [diagnostics_ofBlocks_append_singleton, List.filter_append, List.filter_append,
        b.filter_info_complaints, List.append_nil, ih, repeatedBy_append_singleton, List.map_append]
      split_ifs with h
      · simp [redeclared, Diagnostic.severity, Finding.severity]
      · rfl

/-- The infos of the blocks tell which names came again. -/
theorem infos_ofBlocks (bs : List Block) :
    ((ofBlocks filename mapping bs).diagnostics.filter (·.severity = .info)).map (·.finding) =
      (repeated (bs.map (·.recordName mapping))).map .redeclaredModel := by
  rw [filter_info_ofBlocks, repeated_map, List.map_map, List.map_map]
  rfl

/-- The warnings of the blocks are their complaints. -/
theorem warnings_ofBlocks (bs : List Block) :
    (ofBlocks filename mapping bs).diagnostics.filter (·.severity = .warning) =
      bs.flatMap (·.complaints filename) := by
  induction bs using List.reverseRecOn with
  | nil => rfl
  | append_singleton bs b ih =>
      rw [diagnostics_ofBlocks_append_singleton, List.filter_append, List.filter_append,
        b.filter_warning_complaints, ih, List.flatMap_append, List.flatMap_singleton]
      split_ifs with h
      · simp [redeclared, Diagnostic.severity, Finding.severity]
      · simp

end Catalogue

/-- A schema is read when its text has a block. -/
theorem read_eq_ok_iff {text filename : String} {mapping : Bool} {c : Catalogue} :
    read text filename mapping = .ok c ↔
      blocks text ≠ [] ∧ c = (Catalogue.ofBlocks filename mapping (blocks text)).noteAll
        ((unclosedHeaders text).map (·.complaint filename)) := by
  have hempty := Catalogue.isEmpty_ofBlocks filename mapping (blocks text)
  change (if (Catalogue.ofBlocks filename mapping (blocks text)).isEmpty = true then _ else _) = _
    ↔ _
  rw [hempty]
  by_cases h : blocks text = []
  · simp [h]
  · rw [if_neg (by simpa using h)]
    exact ⟨fun heq => ⟨h, (Except.ok.inj heq).symm⟩, fun heq => congrArg _ heq.2.symm⟩

theorem names_of_read {text filename : String} {mapping : Bool} {c : Catalogue}
    (h : read text filename mapping = .ok c) :
    c.names = (blocks text).map (·.recordName mapping) := by
  obtain ⟨-, rfl⟩ := read_eq_ok_iff.1 h
  rw [Catalogue.names_noteAll, Catalogue.names_ofBlocks]

/-- A name that is read has the fields of the last block with this name. -/
theorem exists_last_block_of_read {text filename : String} {mapping : Bool} {c : Catalogue}
    (h : read text filename mapping = .ok c) {name : String} (hname : name ∈ c.names) :
    ∃ earlier b later, blocks text = earlier ++ b :: later ∧ b.recordName mapping = name ∧
      (∀ other ∈ later, other.recordName mapping ≠ name) ∧
      c.fields? name = some (b.record mapping).fields := by
  rw [names_of_read h, List.mem_map] at hname
  obtain ⟨x, hx, hxname⟩ := hname
  obtain ⟨-, rfl⟩ := read_eq_ok_iff.1 h
  have hsome : ((blocks text).reverse.find? (·.recordName mapping = name)).isSome :=
    List.find?_isSome.2 ⟨x, List.mem_reverse.2 hx, by simpa using hxname⟩
  obtain ⟨b, hb⟩ := Option.isSome_iff_exists.1 hsome
  obtain ⟨hbname, later, earlier, hsplit, hlater⟩ := List.find?_eq_some_iff_append.1 hb
  refine ⟨earlier.reverse, b, later.reverse, ?_, by simpa using hbname, ?_, ?_⟩
  · rw [← List.reverse_reverse (blocks text), hsplit]
    simp
  · intro other hother
    simpa using hlater other (List.mem_reverse.1 hother)
  · rw [Catalogue.fields?_noteAll, Catalogue.fields?_ofBlocks, hb, Option.map_some]

/-- A catalogue has an entry for each name, in the order in which the names first come. -/
structure Catalogue.Coherent (c : Catalogue) : Prop where
  keys_eq : c.fieldsByName.map (·.1) = c.names.eraseDups
  nodup_keys : (c.fieldsByName.map (·.1)).Nodup

theorem coherent_of_read {text filename : String} {mapping : Bool} {c : Catalogue}
    (h : read text filename mapping = .ok c) : c.Coherent := by
  obtain ⟨-, rfl⟩ := read_eq_ok_iff.1 h
  refine ⟨?_, ?_⟩
  · simp only [Catalogue.noteAll, Catalogue.fieldsByName_ofBlocks, Catalogue.names_ofBlocks,
      OrderedEntries.keys_ofPairs, List.map_map]
    rfl
  · simp only [Catalogue.noteAll, Catalogue.fieldsByName_ofBlocks]
    exact OrderedEntries.nodup_keys_ofPairs _

/-- The names of a catalogue and the fields of each name determine its entries. -/
theorem Catalogue.Coherent.fieldsByName_eq {c c' : Catalogue} (h : c.Coherent) (h' : c'.Coherent)
    (hnames : c.names = c'.names)
    (hfields : ∀ name ∈ c.names, (c.fields? name).getD [] = (c'.fields? name).getD []) :
    c.fieldsByName = c'.fieldsByName := by
  have hkeys : c.fieldsByName.map (·.1) = c'.fieldsByName.map (·.1) := by
    rw [h.keys_eq, h'.keys_eq, hnames]
  refine OrderedEntries.ext_of_get? h.nodup_keys hkeys fun name hkey => ?_
  obtain ⟨fs, hfs⟩ := Option.isSome_iff_exists.1 (OrderedEntries.isSome_get?_iff.2 hkey)
  obtain ⟨fs', hfs'⟩ :=
    Option.isSome_iff_exists.1 (OrderedEntries.isSome_get?_iff.2 (hkeys ▸ hkey))
  rw [h.keys_eq, List.mem_eraseDups] at hkey
  have heq := hfields name hkey
  rw [Catalogue.fields?, Catalogue.fields?, hfs, hfs'] at heq
  rw [hfs, hfs']
  exact congrArg some heq

end Schema

end SchemaScribe
