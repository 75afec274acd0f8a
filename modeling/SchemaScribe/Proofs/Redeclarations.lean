import SchemaScribe.Proofs.CatalogueOfBlocks

/-!
# Repeated names are reported once each

When a block is added, the catalogue is asked for its name before the block's own record goes in. So
a block is reported as declared again exactly if an earlier block has its name, aliases applied. The
first block of each name opens an entry and is not reported, and every further one is. The info of a
block follows its own complaints and precedes those of the blocks behind it.
-/
namespace SchemaScribe.Schema

/-- Every item opens the group of its key or comes again. -/
theorem length_repeatedBy_add {α κ : Type} [DecidableEq κ] (key : α → κ) (xs : List α) :
    (repeatedBy key xs).length + (xs.map key).eraseDups.length = xs.length := by
  induction xs using List.reverseRecOn with
  | nil => rfl
  | append_singleton xs x ih =>
      rw [repeatedBy_append_singleton, List.map_append, List.map_singleton, List.eraseDups_append,
        List.length_append, List.length_append, List.length_append, List.length_singleton]
      by_cases h : key x ∈ xs.map key
      · simp only [h, if_true, List.removeAll, List.elem_eq_mem, decide_true, Bool.not_true,
          List.filter_cons, Bool.false_eq_true, if_false, List.filter_nil, List.eraseDups_nil,
          List.length_nil, List.length_singleton]
        omega
      · simp only [h, if_false, List.removeAll, List.elem_eq_mem, decide_false, Bool.not_false,
          List.filter_cons, if_true, List.filter_nil, List.eraseDups_cons, List.eraseDups_nil,
          List.length_nil, List.length_singleton]
        omega

/-- The info for a block whose name came before. It goes by the name of the block's record. -/
structure Block.Announces (filename : String) (mapping : Bool) (b : Block) (d : Diagnostic) :
    Prop where
  severity_eq : d.severity = .info
  message_eq : d.message =
    "model " ++ b.recordName mapping ++ " is declared again; its fields replace the earlier block"
  location_eq : d.location = some (locationText filename b.bodyLine)

theorem Block.announces_redeclared (filename : String) (mapping : Bool) (b : Block) :
    b.Announces filename mapping (Catalogue.redeclared filename mapping b) :=
  ⟨rfl, rfl, rfl⟩

theorem forall₂_announces (filename : String) (mapping : Bool) (bs : List Block) :
    List.Forall₂ (Block.Announces filename mapping) bs
      (bs.map (Catalogue.redeclared filename mapping)) := by
  rw [List.forall₂_map_right_iff, List.forall₂_same]
  exact fun b _ => b.announces_redeclared filename mapping

/-- The diagnostics before and after the info for a block. Before it stand all diagnostics of the
earlier blocks and the complaints of the block itself, after it the complaints of the later blocks
and what is said at the end. -/
structure InfoStands (filename : String) (mapping : Bool) (earlier : List Block) (b : Block)
    (later : List Block) (atEnd before after : List Diagnostic) : Prop where
  infos_before : List.Forall₂ (Block.Announces filename mapping)
    (repeatedBy (·.recordName mapping) earlier) (before.filter (·.severity = .info))
  warnings_before : before.filter (·.severity = .warning) =
    earlier.flatMap (·.complaints filename) ++ b.complaints filename
  warnings_after : after.filter (·.severity = .warning) =
    later.flatMap (·.complaints filename) ++ atEnd

namespace Catalogue

variable (filename : String) {mapping : Bool}

/-- In a list of blocks, the info for a repeated name stands between the complaints of its own block
and those of the later ones. -/
theorem exists_infoStands {earlier : List Block} {b : Block} (later : List Block)
    (hname : b.recordName mapping ∈ earlier.map (·.recordName mapping)) :
    ∃ before after,
      (ofBlocks filename mapping (earlier ++ b :: later)).diagnostics =
        before ++ redeclared filename mapping b :: after ∧
      InfoStands filename mapping earlier b later [] before after := by
  have hto : (ofBlocks filename mapping (earlier ++ [b])).diagnostics =
      (ofBlocks filename mapping earlier).diagnostics ++ b.complaints filename ++
        [redeclared filename mapping b] := by
    rw [diagnostics_ofBlocks_append_singleton, if_pos hname]
  obtain ⟨after, hafter⟩ := prefix_diagnostics_ofBlocks filename mapping (earlier ++ [b]) later
  -- The warnings up to the block are known, so those behind it are the rest.
  have hwhole : (earlier ++ [b]).flatMap (·.complaints filename) ++
      after.filter (·.severity = .warning) =
        (earlier ++ [b]).flatMap (·.complaints filename) ++
          later.flatMap (·.complaints filename) :=
    calc (earlier ++ [b]).flatMap (·.complaints filename) ++ after.filter (·.severity = .warning)
        = (ofBlocks filename mapping (earlier ++ [b] ++ later)).diagnostics.filter
            (·.severity = .warning) := by
          rw [← hafter, List.filter_append, warnings_ofBlocks]
      _ = (earlier ++ [b]).flatMap (·.complaints filename) ++
            later.flatMap (·.complaints filename) := by
          rw [warnings_ofBlocks, List.flatMap_append]
  refine ⟨(ofBlocks filename mapping earlier).diagnostics ++ b.complaints filename, after, ?_, ?_⟩
  · rw [List.append_cons, ← hafter, hto, List.append_assoc, List.singleton_append]
  · refine ⟨?_, ?_, by rw [List.append_cancel_left hwhole, List.append_nil]⟩
    · rw [List.filter_append, b.filter_info_complaints, List.append_nil, filter_info_ofBlocks]
      exact forall₂_announces filename mapping _
    · rw [List.filter_append, b.filter_warning_complaints, warnings_ofBlocks]

/-- Each block opens an entry or is reported. -/
theorem length_infos_add (mapping : Bool) (bs : List Block) :
    ((ofBlocks filename mapping bs).diagnostics.filter (·.severity = .info)).length +
      (ofBlocks filename mapping bs).fieldsByName.length =
        (ofBlocks filename mapping bs).names.length := by
  have hentries : (ofBlocks filename mapping bs).fieldsByName.length =
      (bs.map (·.recordName mapping)).eraseDups.length := by
    rw [fieldsByName_ofBlocks, ← List.length_map (·.1), OrderedEntries.keys_ofPairs, List.map_map]
    rfl
  rw [filter_info_ofBlocks, List.length_map, hentries, names_ofBlocks, List.length_map,
    length_repeatedBy_add]

end Catalogue

/-- There is one info for each block whose name an earlier block has, and no other. They stand in
the order of the blocks, each one behind the complaints of its own block and before those of the
later ones, and there are as many as names are left over when each entry has taken one. -/
theorem redeclarations_reported {text filename : String} {mapping : Bool} {c : Catalogue}
    (hread : read text filename mapping = .ok c) :
    List.Forall₂ (Block.Announces filename mapping)
      (repeatedBy (·.recordName mapping) (blocks text))
      (c.diagnostics.filter (·.severity = .info)) ∧
    c.fieldsByName.length ≤ c.names.length ∧
    (c.diagnostics.filter (·.severity = .info)).length =
      c.names.length - c.fieldsByName.length ∧
    ∀ earlier b later, blocks text = earlier ++ b :: later →
      b.recordName mapping ∈ earlier.map (·.recordName mapping) →
      ∃ before d after, c.diagnostics = before ++ d :: after ∧ b.Announces filename mapping d ∧
        InfoStands filename mapping earlier b later
          ((unclosedHeaders text).map (·.complaint filename)) before after := by
  obtain ⟨-, rfl⟩ := read_eq_ok_iff.1 hread
  have hlength := Catalogue.length_infos_add filename mapping (blocks text)
  simp only [Catalogue.diagnostics_noteAll, List.filter_append, filter_info_unclosed,
    List.append_nil]
  refine ⟨?_, ?_, ?_, fun earlier b later hsplit hname => ?_⟩
  · rw [Catalogue.filter_info_ofBlocks]
    exact forall₂_announces filename mapping _
  · exact hlength ▸ Nat.le_add_left _ _
  · exact (Nat.sub_eq_of_eq_add hlength.symm).symm
  · obtain ⟨before, after, hdiagnostics, hstands⟩ :=
      Catalogue.exists_infoStands filename later hname
    refine ⟨before, _, after ++ (unclosedHeaders text).map (·.complaint filename), ?_,
      b.announces_redeclared filename mapping, hstands.infos_before, hstands.warnings_before, ?_⟩
    · rw [hsplit, hdiagnostics, List.append_assoc, List.cons_append]
    · rw [List.filter_append, hstands.warnings_after, filter_warning_unclosed, List.append_nil]

/-- Three blocks of one name, of which the second has it as an alias, and a header without a block.
The second and the third are reported. -/
theorem redeclarations_reported_aliased :
    let text := "model A \x7b\n  ?\n\x7d\nmodel B \x7b\n  @@map(\"A\")\n  !\n\x7d\n" ++
      "model A \x7b\n  ,\n\x7d\nmodel C \x7b"
    let first : Block := ⟨"A", "\n  ?\n", ⟨0, 1⟩, ⟨9, 1⟩⟩
    let second : Block := ⟨"B", "\n  @@map(\"A\")\n  !\n", ⟨16, 4⟩, ⟨25, 4⟩⟩
    let third : Block := ⟨"A", "\n  ,\n", ⟨45, 8⟩, ⟨54, 8⟩⟩
    ∃ c, read text "s" true = .ok c ∧ blocks text = [first] ++ second :: [third] ∧
      second.recordName true ∈ [first].map (·.recordName true) ∧
      (c.diagnostics.filter (·.severity = .info)).length = 3 - 1 ∧
      ∃ before d after, c.diagnostics = before ++ d :: after ∧ second.Announces "s" true d ∧
        InfoStands "s" true [first] second [third]
          ((unclosedHeaders text).map (·.complaint "s")) before after := by
  intro text first second third
  let c : Catalogue := ⟨["A", "A", "A"], [("A", [])],
    [⟨.unparsableLine "?" "A", "s:2"⟩, ⟨.unparsableLine "!" "B", "s:6"⟩,
      ⟨.redeclaredModel "A", "s:4"⟩, ⟨.unparsableLine "," "A", "s:9"⟩,
      ⟨.redeclaredModel "A", "s:8"⟩, ⟨.unclosedBlock "C", "s:11"⟩]⟩
  have hread : read text "s" true = .ok c := by decide +kernel
  have hblocks : blocks text = [first] ++ second :: [third] := by decide +kernel
  have hname : second.recordName true ∈ [first].map (·.recordName true) := by decide +kernel
  obtain ⟨-, -, hlength, hstands⟩ := redeclarations_reported hread
  exact ⟨c, hread, hblocks, hname, hlength, hstands _ _ _ hblocks hname⟩

end SchemaScribe.Schema
