import SchemaScribe.Proofs.MalformedText
import SchemaScribe.Proofs.ReadNames
import SchemaScribe.Proofs.TextLines

/-!
# Aliases only rename

One text is read twice, with aliases in force and without. Blocks, lines and the classes of lines do
not depend on the switch; it is looked at only when a record or a field is given its name. Both
readings therefore go through the same blocks and find the same fields with the same types. They
differ in the names for which the text has an alias, and in the findings about repeated names that
follow from them. Warnings go by the declared names, so they stay.
-/
namespace SchemaScribe.Schema

/-- A text starts with an attribute that gives an alias. -/
structure OpensAlias (opening name cs : List Char) : Prop where
  ne_nil : name ≠ []
  no_quote : '"' ∉ name
  stands : opening ++ (name ++ ['"', ')']) <+: cs

/-- A line holds the alias of a field: no further `@` stands before the attribute. -/
def HoldsAlias (name line : List Char) : Prop :=
  ∃ before rest, line = before ++ rest ∧ before.getLast? ≠ some '@' ∧
    OpensAlias fieldAliasOpening name rest

theorem opensAlias_iff {opening name cs : List Char} :
    OpensAlias opening name cs ↔ aliasAt? opening cs = some name := by
  rw [aliasAt?_eq_some_iff]
  constructor
  · rintro ⟨hne, hquote, rest, hrest⟩
    exact ⟨hne, hquote, rest, by simp [← hrest]⟩
  · rintro ⟨hne, hquote, rest, rfl⟩
    exact ⟨hne, hquote, rest, by simp⟩

/-- The alias that is read behind some characters of a line is held by the whole line. -/
theorem holdsAlias_of_fieldAliasFrom? {afterAt : Bool} {before cs name : List Char}
    (hat : before.getLast? = some '@' → afterAt = true)
    (h : fieldAliasFrom? afterAt cs = some name) : HoldsAlias name (before ++ cs) := by
  induction cs generalizing afterAt before with
  | nil => simp [fieldAliasFrom?] at h
  | cons c cs ih =>
      rw [fieldAliasFrom?] at h
      split at h
      · rename_i found hfound
        obtain rfl := Option.some.inj h
        cases afterAt with
        | true => simp at hfound
        | false =>
            refine ⟨before, c :: cs, rfl, fun hlast => Bool.noConfusion (hat hlast), ?_⟩
            exact opensAlias_iff.2 (by simpa using hfound)
      · have hwhole : HoldsAlias name ((before ++ [c]) ++ cs) := ih (by simp) h
        rwa [List.append_assoc] at hwhole

/-- A field has another name than the declared one only if its line holds this name as an alias. -/
theorem FieldLine.holdsAlias_of_ne {cs : List Char} {line : FieldLine} (h : read? cs = some line)
    (hne : (line.field true).name ≠ (line.field false).name) :
    HoldsAlias (line.field true).name.toList cs := by
  rw [read?] at h
  split_ifs at h
  obtain rfl := (Option.some.inj h).symm
  cases halias : fieldAliasFrom? false cs with
  | none => simp [field, halias] at hne
  | some name =>
      have hholds : HoldsAlias name ([] ++ cs) := holdsAlias_of_fieldAliasFrom? (by simp) halias
      simpa [field, halias] using hholds

namespace Block

/-- The lines of the body that declare fields. -/
def fieldLines (b : Block) : List (List Char) :=
  b.trimmedLines.filter fun line => (BodyLine.classify line).field?.isSome

/-- Two records of one block that are alike up to names. Both have one field for each field line,
with the same types. The record has another name only if a line of the block opens with this name
as an alias, and a field only if its own line holds it. -/
structure OnlyRenamed (b : Block) (aliased plain : Record) : Prop where
  length_aliased : aliased.fields.length = b.fieldLines.length
  length_plain : plain.fields.length = b.fieldLines.length
  types_eq : aliased.fields.map (·.type) = plain.fields.map (·.type)
  record_alias : aliased.name ≠ plain.name →
    ∃ line ∈ b.trimmedLines, OpensAlias tableAliasOpening aliased.name.toList line
  field_alias : ∀ line f f', (line, f, f') ∈ b.fieldLines.zip (aliased.fields.zip plain.fields) →
    f.name ≠ f'.name → HoldsAlias f.name.toList line

/-- Each field line with what it declares. -/
theorem exists_declarations (b : Block) :
    ∃ ds : List (List Char × FieldLine), b.fieldLines = ds.map (·.1) ∧
      (∀ mapping, (b.record mapping).fields = ds.map (·.2.field mapping)) ∧
      ∀ d ∈ ds, FieldLine.read? d.1 = some d.2 := by
  simp only [fields_record, classes_eq_map, fieldLines]
  induction b.trimmedLines with
  | nil => exact ⟨[], rfl, fun _ => rfl, by simp⟩
  | cons line lines ih =>
      obtain ⟨ds, hlines, hfields, hread⟩ := ih
      cases hline : (BodyLine.classify line).field? with
      | none => exact ⟨ds, by simp [hline, hlines], by simpa [hline] using hfields, hread⟩
      | some f =>
          refine ⟨(line, f) :: ds, by simp [hline, hlines], by simpa [hline] using hfields, ?_⟩
          simpa [BodyLine.read?_of_classify hline] using hread

theorem exists_opensAlias_of_ne {b : Block} (hne : b.recordName true ≠ b.recordName false) :
    ∃ line ∈ b.trimmedLines, OpensAlias tableAliasOpening (b.recordName true).toList line := by
  rw [recordName_eq, recordName_eq, classes_eq_map, List.findSome?_map] at *
  cases halias : b.trimmedLines.findSome? (BodyLine.tableAlias? ∘ BodyLine.classify) with
  | none => simp [halias] at hne
  | some name =>
      obtain ⟨line, hline, hname⟩ := List.exists_of_findSome?_eq_some halias
      obtain ⟨chars, hchars, rfl⟩ := BodyLine.aliasAt?_of_classify hname
      exact ⟨line, hline, by simpa using opensAlias_iff.2 hchars⟩

/-- The records of a block under the two settings of the switch are alike up to names. -/
theorem onlyRenamed_record (b : Block) : b.OnlyRenamed (b.record true) (b.record false) := by
  obtain ⟨ds, hlines, hfields, hread⟩ := b.exists_declarations
  refine ⟨?_, ?_, ?_, exists_opensAlias_of_ne, fun line f f' hmem hne => ?_⟩
  · rw [hlines, hfields, List.length_map, List.length_map]
  · rw [hlines, hfields, List.length_map, List.length_map]
  · rw [hfields, hfields, List.map_map, List.map_map]
    rfl
  · rw [hlines, hfields, hfields, List.zip_map', List.zip_map', List.mem_map] at hmem
    obtain ⟨d, hd, hparts⟩ := hmem
    obtain ⟨rfl, rfl, rfl⟩ := by simpa using hparts
    exact FieldLine.holdsAlias_of_ne (hread d hd) hne

theorem infix_of_opensAlias {name line : List Char} (h : OpensAlias tableAliasOpening name line) :
    fieldAliasOpening <:+: line := by
  obtain ⟨rest, hrest⟩ := h.stands
  exact ⟨['@'], name ++ ['"', ')'] ++ rest, by simp [← hrest, tableAliasOpening]⟩

theorem infix_of_holdsAlias {name line : List Char} (h : HoldsAlias name line) :
    fieldAliasOpening <:+: line := by
  obtain ⟨before, rest, rfl, -, halias⟩ := h
  obtain ⟨behind, hbehind⟩ := halias.stands
  exact ⟨before, name ++ ['"', ')'] ++ behind, by simp [← hbehind]⟩

/-- Without an attribute for aliases a block has one record. -/
theorem record_eq_of_not_infix {b : Block}
    (h : ∀ line ∈ b.trimmedLines, ¬fieldAliasOpening <:+: line) :
    b.record true = b.record false := by
  obtain ⟨ds, hlines, hfields, hread⟩ := b.exists_declarations
  have hname : b.recordName true = b.recordName false := by
    by_contra hne
    obtain ⟨line, hline, hopens⟩ := exists_opensAlias_of_ne hne
    exact h line hline (infix_of_opensAlias hopens)
  have hfield : ∀ d ∈ ds, d.2.field true = d.2.field false := by
    intro d hd
    have hline : d.1 ∈ b.fieldLines := hlines ▸ List.mem_map_of_mem hd
    have hdeclared : (d.2.field true).name = (d.2.field false).name := by
      by_contra hne
      exact h d.1 (List.mem_of_mem_filter hline)
        (infix_of_holdsAlias (FieldLine.holdsAlias_of_ne (hread d hd) hne))
    exact congrArg (Field.mk · d.2.type) hdeclared
  have hfields' : (b.record true).fields = (b.record false).fields := by
    rw [hfields, hfields]
    exact List.map_congr_left hfield
  exact congrArg₂ Record.mk hname hfields'

/-- A line of a block of a text is a part of the text. -/
theorem infix_of_mem_trimmedLines {text : String} {b : Block} (hb : b ∈ blocks text)
    {line : List Char} (hline : line ∈ b.trimmedLines) : line <:+: text.toList := by
  obtain ⟨i, t, ht, rfl⟩ := exists_blockAt_of_mem_blocks hb
  obtain ⟨raw, hraw, rfl⟩ := List.mem_map.1 hline
  have hbody : (Block.of (placeAt text.toList i, t)).body.toList = t.body := String.toList_ofList
  rw [hbody] at hraw
  obtain ⟨before, after, hsplit⟩ := List.append_of_mem hraw
  obtain ⟨rest, hrest⟩ := Text.exists_rest_of_splitOn_eq hsplit
  obtain ⟨left, right, htrim⟩ := Unicode.exists_trim_eq raw
  have hraw' : Unicode.trim raw <:+: raw := ⟨left, right, by rw [List.append_assoc, ← htrim]⟩
  have hlines : raw <:+: t.body :=
    ⟨before.flatMap (· ++ ['\n']), rest, by rw [hrest, List.append_assoc]⟩
  exact hraw'.trans (hlines.trans (ht.body_prefix.isInfix.trans (List.drop_suffix _ _).isInfix))

end Block

/-- The catalogue of records that are added one after the other: every name is listed, and the last
record of a name gives its fields. -/
structure Catalogue.BuiltFrom (c : Catalogue) (records : List Record) : Prop where
  names_eq : c.names = records.map (·.name)
  fieldsByName_eq : c.fieldsByName =
    OrderedEntries.ofPairs (records.map fun r => (r.name, r.fields))

def Catalogue.warnings (c : Catalogue) : List Diagnostic :=
  c.diagnostics.filter (·.severity = .warning)

section Readings

variable {text filename : String}

theorem builtFrom_of_read {mapping : Bool} {c : Catalogue}
    (hread : read text filename mapping = .ok c) :
    c.BuiltFrom ((blocks text).map (·.record mapping)) := by
  refine ⟨?_, ?_⟩
  · rw [names_of_read hread, List.map_map]
    rfl
  · obtain ⟨-, rfl⟩ := read_eq_ok_iff.1 hread
    rw [Catalogue.noteAll, Catalogue.fieldsByName_ofBlocks, List.map_map]
    rfl

/-- The warnings tell of unreadable lines and of unclosed headers. -/
theorem warnings_of_read {mapping : Bool} {c : Catalogue}
    (hread : read text filename mapping = .ok c) :
    c.warnings = (blocks text).flatMap (·.complaints filename) ++
      (unclosedHeaders text).map (·.complaint filename) := by
  obtain ⟨-, rfl⟩ := read_eq_ok_iff.1 hread
  rw [Catalogue.warnings, Catalogue.diagnostics_noteAll, List.filter_append,
    Catalogue.warnings_ofBlocks, filter_warning_unclosed]

/-- The switch has no effect on a text whose blocks have the same records with and without it. -/
theorem read_eq_of_records_eq (h : ∀ b ∈ blocks text, b.record true = b.record false) :
    read text filename true = read text filename false := by
  have hdeclared : (blocks text).foldl (Catalogue.addBlock filename true) .empty =
      (blocks text).foldl (Catalogue.addBlock filename false) .empty := by
    refine List.foldl_ext _ _ _ fun c b hb => ?_
    simp only [Catalogue.addBlock, h b hb]
  simp only [read, hdeclared]

/-- The two readings of a text fail with one error, or both succeed. Then their catalogues are built
from the records of the same blocks, which are alike up to names, and they have the same warnings.
In a text without an attribute for aliases the switch has no effect. -/
theorem aliases_only_rename (text filename : String) :
    ((∃ e, read text filename true = .error e ∧ read text filename false = .error e) ∨
      ∃ aliased plain, read text filename true = .ok aliased ∧
        read text filename false = .ok plain ∧
        aliased.BuiltFrom ((blocks text).map (·.record true)) ∧
        plain.BuiltFrom ((blocks text).map (·.record false)) ∧
        aliased.warnings = plain.warnings) ∧
    (∀ b ∈ blocks text, b.OnlyRenamed (b.record true) (b.record false)) ∧
    (¬fieldAliasOpening <:+: text.toList →
      read text filename true = read text filename false) := by
  refine ⟨?_, fun b _ => b.onlyRenamed_record, fun hno => ?_⟩
  · by_cases hnil : blocks text = []
    · exact Or.inl ⟨_, read_eq_error_iff.2 ⟨hnil, rfl⟩, read_eq_error_iff.2 ⟨hnil, rfl⟩⟩
    · have haliased : read text filename true = .ok _ := read_eq_ok_iff.2 ⟨hnil, rfl⟩
      have hplain : read text filename false = .ok _ := read_eq_ok_iff.2 ⟨hnil, rfl⟩
      have hwarnings := (warnings_of_read haliased).trans (warnings_of_read hplain).symm
      exact Or.inr ⟨_, _, haliased, hplain, builtFrom_of_read haliased, builtFrom_of_read hplain,
        hwarnings⟩
  · refine read_eq_of_records_eq fun b hb => Block.record_eq_of_not_infix fun line hline hmap => ?_
    exact hno (hmap.trans (Block.infix_of_mem_trimmedLines hb hline))

end Readings

/-- The alias of the second block makes it take the place of the first one, and what stands behind a
further `@` is no alias of a field. The other text has no alias at all. -/
theorem aliases_only_rename_merged :
    let text := "model A \x7b\n  x Int @map(\"y\")\n  ?\n\x7d\n" ++
      "model B \x7b\n  z Int @@map(\"w\")\n  @@map(\"A\")\n\x7d"
    let other := "model A \x7b\n  x Int @map('y')\n\x7d"
    (∃ aliased plain, read text "s" true = .ok aliased ∧ read text "s" false = .ok plain ∧
      aliased.BuiltFrom [⟨"A", [⟨"y", "Int"⟩]⟩, ⟨"A", [⟨"z", "Int"⟩]⟩] ∧
      plain.BuiltFrom [⟨"A", [⟨"x", "Int"⟩]⟩, ⟨"B", [⟨"z", "Int"⟩]⟩] ∧
      aliased.warnings = plain.warnings ∧ aliased.diagnostics ≠ plain.diagnostics) ∧
    ¬fieldAliasOpening <:+: other.toList ∧ read other "s" true = read other "s" false := by
  intro text other
  have hother : ¬fieldAliasOpening <:+: other.toList := by decide +kernel
  refine ⟨?_, hother, (aliases_only_rename other "s").2.2 hother⟩
  rcases (aliases_only_rename text "s").1 with
    ⟨e, he, -⟩ | ⟨aliased, plain, haliased, hplain, hbuilt, hbuilt', hwarnings⟩
  · have hsome : blocks text ≠ [] := by decide +kernel
    exact absurd (read_eq_error_iff.1 he).1 hsome
  · have hrecords : (blocks text).map (·.record true) =
        [⟨"A", [⟨"y", "Int"⟩]⟩, ⟨"A", [⟨"z", "Int"⟩]⟩] := by decide +kernel
    have hrecords' : (blocks text).map (·.record false) =
        [⟨"A", [⟨"x", "Int"⟩]⟩, ⟨"B", [⟨"z", "Int"⟩]⟩] := by decide +kernel
    refine ⟨aliased, plain, haliased, hplain, hrecords ▸ hbuilt, hrecords' ▸ hbuilt', hwarnings, ?_⟩
    have hdiagnostics : (read text "s" true).map (·.diagnostics) ≠
        (read text "s" false).map (·.diagnostics) := by decide +kernel
    intro hsame
    exact hdiagnostics (by rw [haliased, hplain]; exact congrArg Except.ok hsame)

end SchemaScribe.Schema
