import SchemaScribe.Proofs.DiagnosticLines
import SchemaScribe.Proofs.FieldGrammar

/-!
# Every body line counts once

The text of a line, without the white space at its ends, puts it into one of four classes. The
classes exclude each other: a field line starts with a word character, an attribute with `@` and a
comment with `/`. Each field line gives the record one field and each unreadable line gives the
catalogue one warning, both in the order of the lines. The name of the record is settled by the
first attribute that is a complete alias.
-/
namespace SchemaScribe

theorem Text.isSome_after?_iff {ws cs : List Char} : (after? ws cs).isSome ↔ ws <+: cs := by
  rw [Option.isSome_iff_exists]
  constructor
  · rintro ⟨rest, hrest⟩
    exact ⟨rest, (eq_append_of_after? hrest).symm⟩
  · rintro ⟨rest, rfl⟩
    exact ⟨rest, after?_append ws rest⟩

namespace Schema

open Unicode (isSpace isWord)

inductive LineClass where
  | ignored
  | attribute
  | field
  | unparsable
  deriving DecidableEq, Repr

/-- A line without white space at its ends belongs to a class. -/
def LineClass.Holds (line : List Char) : LineClass → Prop
  | .ignored => line = [] ∨ ['/', '/'] <+: line
  | .attribute => ['@', '@'] <+: line
  | .field => Nonempty (FieldParts line)
  | .unparsable => line ≠ [] ∧ ¬['/', '/'] <+: line ∧ ¬['@', '@'] <+: line ∧
      ¬Nonempty (FieldParts line)

def BodyLine.lineClass : BodyLine → LineClass
  | .ignored => .ignored
  | .attribute _ => .attribute
  | .field _ => .field
  | .unparsable _ => .unparsable

theorem FieldParts.exists_head {line : List Char} (p : FieldParts line) :
    ∃ c cs, line = c :: cs ∧ isWord c = true := by
  obtain ⟨c, cs, hname⟩ := List.exists_cons_of_ne_nil p.name_ne_nil
  exact ⟨c, _, by rw [p.eq, hname, List.cons_append], p.name_word c (by simp [hname])⟩

namespace LineClass

variable {line : List Char} {k k' : LineClass}

theorem not_attribute_of_ignored (h : Holds line .ignored) : ¬Holds line .attribute := by
  rintro ⟨rest, rfl⟩
  rcases h with h | h <;> simp at h

theorem not_field_of_ignored (h : Holds line .ignored) : ¬Holds line .field := by
  rintro ⟨p⟩
  obtain ⟨c, cs, rfl, hc⟩ := p.exists_head
  have hslash : '/' ≠ c := (Unicode.ne_of_isWord hc (by decide)).symm
  rcases h with h | h <;> simp [hslash] at h

theorem not_field_of_attribute (h : Holds line .attribute) : ¬Holds line .field := by
  rintro ⟨p⟩
  obtain ⟨c, cs, rfl, hc⟩ := p.exists_head
  have hat : '@' ≠ c := (Unicode.ne_of_isWord hc (by decide)).symm
  simp [Holds, hat] at h

theorem Holds.eq (h : Holds line k) (h' : Holds line k') : k = k' := by
  have hignored : Holds line .ignored → ¬Holds line .attribute := not_attribute_of_ignored
  have hignored' : Holds line .ignored → ¬Holds line .field := not_field_of_ignored
  have hattribute : Holds line .attribute → ¬Holds line .field := not_field_of_attribute
  cases k <;> cases k' <;> simp_all [Holds]

/-- A line belongs to the class that it is read in. -/
theorem holds_classify (line : List Char) : Holds line (BodyLine.classify line).lineClass := by
  unfold BodyLine.classify
  simp only [Text.isSome_after?_iff]
  split_ifs with hignored hattribute
  · exact hignored
  · exact hattribute
  · cases hread : FieldLine.read? line with
    | some f => exact FieldLine.nonempty_parts_of_read? hread
    | none =>
        obtain ⟨hnil, hslash⟩ := not_or.1 hignored
        refine ⟨hnil, hslash, hattribute, ?_⟩
        rintro ⟨p⟩
        rw [FieldLine.read?_of_parts p] at hread
        cases hread

theorem holds_iff : Holds line k ↔ (BodyLine.classify line).lineClass = k :=
  ⟨(holds_classify line).eq, fun h => h ▸ holds_classify line⟩

instance : Decidable (Holds line k) := decidable_of_iff _ holds_iff.symm

theorem existsUnique_holds (line : List Char) : ∃! k : LineClass, k.Holds line :=
  ⟨_, holds_classify line, fun _ hk => hk.eq (holds_classify line)⟩

end LineClass

/-- Items are kept or left out by a test, and each that is kept is turned into one result. -/
theorem forall₂_filter_filterMap {α β : Type} {keep : α → Bool} {result? : α → Option β}
    {R : α → β → Prop} {xs : List α}
    (hkept : ∀ x ∈ xs, keep x = true → ∃ y, result? x = some y ∧ R x y)
    (hleft : ∀ x ∈ xs, keep x = false → result? x = none) :
    List.Forall₂ R (xs.filter keep) (xs.filterMap result?) := by
  induction xs with
  | nil => exact .nil
  | cons x xs ih =>
      have hrest := ih (fun y hy => hkept y (by simp [hy])) fun y hy => hleft y (by simp [hy])
      cases hx : keep x with
      | true =>
          obtain ⟨y, hy, hxy⟩ := hkept x (by simp) hx
          rw [List.filter_cons_of_pos hx, List.filterMap_cons_some hy]
          exact .cons hxy hrest
      | false =>
          rw [List.filter_cons_of_neg (by simp [hx]),
            List.filterMap_cons_none (hleft x (by simp) hx)]
          exact hrest

namespace BodyLine

variable {line : List Char}

theorem field?_classify (line : List Char) : (classify line).field? = FieldLine.read? line := by
  cases hread : FieldLine.read? line with
  | some f => rw [classify_of_read? hread, field?]
  | none =>
      cases hfield : (classify line).field? with
      | none => rfl
      | some f =>
          rw [read?_of_classify hfield] at hread
          cases hread

/-- An alias at the start of a line makes the line an attribute. -/
theorem tableAlias?_classify (line : List Char) :
    (classify line).tableAlias? = (aliasAt? tableAliasOpening line).map String.ofList := by
  cases halias : aliasAt? tableAliasOpening line with
  | none =>
      cases htable : (classify line).tableAlias? with
      | none => rfl
      | some name =>
          obtain ⟨chars, hchars, -⟩ := aliasAt?_of_classify htable
          rw [hchars] at halias
          cases halias
  | some name =>
      obtain ⟨-, -, rest, rfl⟩ := aliasAt?_eq_some_iff.1 halias
      rw [classify, halias]
      simp [tableAliasOpening, fieldAliasOpening, Text.after?, tableAlias?]

theorem unparsable?_classify (line : List Char) :
    (classify line).unparsable? =
      if LineClass.unparsable.Holds line then some (String.ofList line) else none := by
  simp only [LineClass.holds_iff]
  cases hline : classify line with
  | unparsable text =>
      rw [← toList_eq_of_classify hline]
      simp [unparsable?, lineClass]
  | _ => simp [unparsable?, lineClass]

end BodyLine

/-- The alias of the first line that opens with one, if there is any. -/
def FirstAlias (lines : List (List Char)) : Option (List Char) → Prop
  | none => ∀ line ∈ lines, ∀ name, ¬OpensAlias tableAliasOpening name line
  | some name => ∃ before line after, lines = before ++ line :: after ∧
      LineClass.attribute.Holds line ∧ OpensAlias tableAliasOpening name line ∧
      ∀ other ∈ before, ∀ name', ¬OpensAlias tableAliasOpening name' other

theorem holds_attribute_of_opensAlias {name line : List Char}
    (h : OpensAlias tableAliasOpening name line) : LineClass.attribute.Holds line := by
  refine List.IsPrefix.trans ?_ h.stands
  simp [tableAliasOpening, fieldAliasOpening]

theorem firstAlias_findSome? (lines : List (List Char)) :
    FirstAlias lines (lines.findSome? (aliasAt? tableAliasOpening)) := by
  have hnot : ∀ {line : List Char}, aliasAt? tableAliasOpening line = none →
      ∀ name, ¬OpensAlias tableAliasOpening name line := by
    intro line hnone name hopens
    rw [opensAlias_iff, hnone] at hopens
    cases hopens
  cases hfind : lines.findSome? (aliasAt? tableAliasOpening) with
  | none =>
      intro line hline
      exact hnot (List.findSome?_eq_none_iff.1 hfind line hline)
  | some name =>
      obtain ⟨before, line, after, hlines, hline, hbefore⟩ := List.findSome?_eq_some_iff.1 hfind
      have hopens := opensAlias_iff.2 hline
      exact ⟨before, line, after, hlines, holds_attribute_of_opensAlias hopens, hopens,
        fun other hother => hnot (hbefore other hother)⟩

namespace Block

variable (b : Block) (filename : String) (mapping : Bool)

/-- A warning quotes an unreadable line of the block, under the name with which it is declared. -/
structure Warns (line : List Char × Nat) (d : Diagnostic) : Prop where
  severity_eq : d.severity = .warning
  message_eq : d.message =
    "unparsable field line '" ++ String.ofList line.1 ++ "' in model " ++ b.name
  location_eq : d.location = some (locationText filename line.2)

/-- What the lines of a block give: a record with a field for each field line, and a catalogue with
a warning for each unreadable line behind its earlier diagnostics. -/
structure ReadInto (c noted : Catalogue) (r : Record) : Prop where
  fields : List.Forall₂ (fun line f => Declares line mapping f)
    (b.trimmedLines.filter fun line => LineClass.field.Holds line) r.fields
  name : ∃ alias?, FirstAlias b.trimmedLines alias? ∧
    r.name = if mapping then (alias?.map String.ofList).getD b.name else b.name
  warnings : ∃ ds, noted.diagnostics = c.diagnostics ++ ds ∧ List.Forall₂ (b.Warns filename)
    ((b.trimmedLines.zipIdx b.bodyLine).filter fun line => LineClass.unparsable.Holds line.1) ds
  names_eq : noted.names = c.names
  fieldsByName_eq : noted.fieldsByName = c.fieldsByName

theorem forall₂_fields : List.Forall₂ (fun line f => Declares line mapping f)
    (b.trimmedLines.filter fun line => LineClass.field.Holds line) (b.record mapping).fields := by
  rw [fields_record, classes_eq_map, List.filterMap_map]
  refine forall₂_filter_filterMap (fun line _ hfield => ?_) fun line _ hother => ?_
  · obtain ⟨p⟩ := of_decide_eq_true hfield
    simp only [Function.comp_apply, BodyLine.field?_classify]
    rw [FieldLine.read?_of_parts p]
    refine ⟨_, rfl, FieldLine.field_read?_eq_some_iff.1 ?_⟩
    rw [FieldLine.read?_of_parts p, Option.map_some]
  · have hno : ¬LineClass.field.Holds line := of_decide_eq_false hother
    simp only [Function.comp_apply, BodyLine.field?_classify, Option.map_eq_none_iff]
    cases hread : FieldLine.read? line with
    | none => rfl
    | some f => exact absurd (FieldLine.nonempty_parts_of_read? hread) hno

theorem complaints_eq_filterMap : b.complaints filename =
    (b.trimmedLines.zipIdx b.bodyLine).filterMap fun line =>
      (BodyLine.classify line.1).unparsable?.map fun text =>
        ⟨.unparsableLine text b.name, locationText filename line.2⟩ := by
  rw [complaints, unparsableLines, bodyLines_eq, classes_eq_map, List.zipIdx_map,
    List.filterMap_map, List.map_filterMap]
  simp only [Function.comp_def, Option.map_map]
  rfl

theorem forall₂_complaints : List.Forall₂ (b.Warns filename)
    ((b.trimmedLines.zipIdx b.bodyLine).filter fun line => LineClass.unparsable.Holds line.1)
    (b.complaints filename) := by
  rw [complaints_eq_filterMap]
  refine forall₂_filter_filterMap (fun line _ hunparsable => ?_) fun line _ hother => ?_
  · rw [BodyLine.unparsable?_classify, if_pos (of_decide_eq_true hunparsable)]
    exact ⟨_, rfl, rfl, rfl, rfl⟩
  · rw [BodyLine.unparsable?_classify, if_neg (of_decide_eq_false hother), Option.map_none]

theorem recordName_eq_firstAlias : b.recordName mapping =
    if mapping then
      ((b.trimmedLines.findSome? (aliasAt? tableAliasOpening)).map String.ofList).getD b.name
    else b.name := by
  rw [recordName_eq, classes_eq_map, List.findSome?_map, List.map_findSome?]
  simp only [Function.comp_def, BodyLine.tableAlias?_classify]

theorem readInto_noteAll (c : Catalogue) :
    b.ReadInto filename mapping c (c.noteAll (b.complaints filename)) (b.record mapping) where
  fields := b.forall₂_fields mapping
  name := ⟨_, firstAlias_findSome? b.trimmedLines, b.recordName_eq_firstAlias mapping⟩
  warnings := ⟨_, rfl, b.forall₂_complaints filename⟩
  names_eq := rfl
  fieldsByName_eq := rfl

end Block

/-- No line of a block is lost or counted twice. Each line is in one class. Before its record is
added to a catalogue, the block has given the record one field for each field line and the catalogue
one warning for each unreadable line, and nothing else in the catalogue has changed. -/
theorem body_lines_counted_once (b : Block) (filename : String) (mapping : Bool) (c : Catalogue) :
    (∀ line ∈ b.trimmedLines, ∃! k : LineClass, k.Holds line) ∧
    ∃ noted r, b.ReadInto filename mapping c noted r ∧
      c.addBlock filename mapping b =
        (if (c.fields? r.name).isSome then
          noted.note ⟨.redeclaredModel r.name, locationText filename b.bodyLine⟩
        else noted).push r := by
  refine ⟨fun line _ => LineClass.existsUnique_holds line, _, _,
    b.readInto_noteAll filename mapping c, ?_⟩
  unfold Catalogue.addBlock
  dsimp only
  rw [Catalogue.fields?_noteAll]
  split_ifs <;> rfl

/-- An incomplete alias stands before two complete ones, and one line cannot be read. -/
theorem body_lines_counted_once_aliased :
    let body := "\n  @@map(\"\")\n  x Int // first\n  ?\n  @@map(\"t\")\n  @@map(\"u\")\n"
    let b : Block := ⟨"A", body, .start, ⟨9, 1⟩⟩
    ['?'] ∈ b.trimmedLines ∧ (∃! k : LineClass, k.Holds ['?']) ∧
      (Catalogue.empty.addBlock "s" true b).names = ["t"] ∧
      ∃ noted r, b.ReadInto "s" true .empty noted r := by
  intro body b
  have hline : ['?'] ∈ b.trimmedLines := by decide +kernel
  obtain ⟨hclasses, noted, r, hread, -⟩ := body_lines_counted_once b "s" true .empty
  exact ⟨hline, hclasses _ hline, by decide +kernel, noted, r, hread⟩

end Schema

end SchemaScribe
