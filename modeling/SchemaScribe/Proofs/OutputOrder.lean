import SchemaScribe.Proofs.BodyLineAccount
import SchemaScribe.Proofs.RenderInjective
import SchemaScribe.Proofs.ReportText
import SchemaScribe.Proofs.SinkAnswers
import SchemaScribe.Run

/-!
# Output in the order of the blocks

The modules of a schema follow its blocks: three for each block, then the registry. If a plan adds
no line feed to names, no line of a module has one inside, so a module cut at its line feeds shows
the lines it was written with: an opening line, one line for each member, and what closes it. The
members are the field lines of the last block of the name, in order, and a check counts the same
ones.
-/
namespace SchemaScribe

namespace Unicode

variable {c : Char} {s : String}

theorem mem_of_mem_lowerFrom {before cs : List Char} (hpos : 0 < c.toNat) (hlt : c.toNat < 0x41)
    (h : c ∈ lowerFrom before cs) : c ∈ cs := by
  induction cs generalizing before with
  | nil => exact absurd h List.not_mem_nil
  | cons d cs ih =>
      rw [lowerFrom, List.mem_append] at h
      rcases h with h | h
      · split_ifs at h with hsigma hfinal
        · rw [List.mem_singleton.1 h] at hlt
          exact absurd hlt (by decide)
        · rw [List.mem_singleton.1 h] at hlt
          exact absurd hlt (by decide)
        · exact List.mem_cons.2 (.inl (eq_of_mem_lowerChar hpos hlt h))
      · exact List.mem_cons_of_mem _ (ih h)

/-- A character below the letters is in the lower case of a text only if it is in the text. -/
theorem mem_of_mem_lowerText (hpos : 0 < c.toNat) (hlt : c.toNat < 0x41)
    (h : c ∈ (lowerText s).toList) : c ∈ s.toList := by
  rw [lowerText, String.toList_ofList] at h
  exact mem_of_mem_lowerFrom hpos hlt h

end Unicode

namespace Text

variable {c : Char} {s : String}

theorem mem_of_mem_upperFirst (hpos : 0 < c.toNat) (hlt : c.toNat < 0x41)
    (h : c ∈ (upperFirst s).toList) : c ∈ s.toList := by
  unfold upperFirst at h
  split at h
  · simp at h
  · rename_i d rest hs
    rw [String.toList_ofList, List.mem_append] at h
    rw [hs, List.mem_cons]
    exact h.imp (Unicode.eq_of_mem_map_caseImage Unicode.upperExpansions_from_letters
      Unicode.upperRuns_from_letters hpos hlt) id

theorem mem_of_mem_lowerFirst (hpos : 0 < c.toNat) (hlt : c.toNat < 0x41)
    (h : c ∈ (lowerFirst s).toList) : c ∈ s.toList := by
  unfold lowerFirst at h
  split at h
  · simp at h
  · rename_i d rest hs
    rw [String.toList_ofList, List.mem_append] at h
    rw [hs, List.mem_cons]
    exact h.imp (Unicode.eq_of_mem_lowerChar hpos hlt) id

/-- The lines of a text. -/
def lines (s : String) : List String := (s.toList.splitOn '\n').map String.ofList

theorem lines_intercalate {ls : List String} (hne : ls ≠ []) (h : ∀ l ∈ ls, '\n' ∉ l.toList) :
    lines ("\n".intercalate ls) = ls := by
  have hfeed : "\n".toList = ['\n'] := rfl
  rw [lines, String.toList_intercalate, hfeed, List.splitOn_intercalate '\n' (by simpa using h)
    (by simpa using hne), List.map_map]
  simp [Function.comp_def]

end Text

namespace Code.Frame

/-- A frame whose lines have no line feed inside. -/
structure Flat (frame : Frame) : Prop where
  opening : '\n' ∉ frame.opening.toList
  closing : ∀ line ∈ frame.closing, '\n' ∉ line.toList

variable {name : String}

theorem flat_ofEnum (h : '\n' ∉ name.toList) : (ofEnum name).Flat :=
  ⟨by simp [ofEnum, h], by simp [ofEnum]⟩

theorem flat_ofObject (h : '\n' ∉ name.toList) : (ofObject name).Flat :=
  ⟨by simp [ofObject, h], by simp [ofObject]⟩

theorem flat_ofClass (h : '\n' ∉ name.toList) : (ofClass name).Flat :=
  ⟨by simp [ofClass, h], by simp [ofClass]⟩

/-- The lines of a declaration are found again in its text. -/
theorem Flat.lines_text {frame : Frame} (h : frame.Flat) {rows : List String}
    (hrows : ∀ row ∈ rows, '\n' ∉ row.toList) :
    Text.lines (frame.text rows) = frame.lines rows := by
  refine Text.lines_intercalate (List.cons_ne_nil _ _) fun line hline => ?_
  rw [lines, List.mem_cons, List.mem_append, List.mem_map] at hline
  rcases hline with rfl | ⟨row, hrow, rfl⟩ | hclosing
  · exact h.opening
  · have hindent : '\n' ∉ (indentation 1).toList := by decide
    simp [hindent, hrows row hrow]
  · exact h.closing line hclosing

end Code.Frame

namespace Artifact

open Code (Frame)
open Schema (Block Catalogue Declares Field LineClass Record blocks)

/-- Among parts of one length, a position tells the part and the place in it. -/
theorem getElem?_flatMap_of_length {α β : Type} {f : α → List β} {k j : Nat}
    (hlength : ∀ x, (f x).length = k) (hj : j < k) (xs : List α) (i : Nat) :
    (xs.flatMap f)[k * i + j]? = xs[i]?.bind fun x => (f x)[j]? := by
  induction xs generalizing i with
  | nil => rfl
  | cons x xs ih =>
      rw [List.flatMap_cons]
      cases i with
      | zero =>
          rw [Nat.mul_zero, Nat.zero_add, List.getElem?_append_left (by rw [hlength]; exact hj)]
          rfl
      | succ i =>
          have hpos : k * (i + 1) + j = (f x).length + (k * i + j) := by
            rw [hlength, Nat.mul_succ]
            omega
          rw [hpos, List.getElem?_append_right (Nat.le_add_right _ _), Nat.add_sub_cancel_left, ih,
            List.getElem?_cons_succ]

/-- The subject of each position. -/
theorem Subject.getElem?_all {names : List String} {i j : Nat} {name : String} {kind : Kind}
    (hname : names[i]? = some name) (hkind : Kind.perRecord[j]? = some kind) :
    (Subject.all names)[3 * i + j]? = some (.record name kind) := by
  have hj : j < 3 := (List.getElem?_eq_some_iff.1 hkind).1
  have hlength : ∀ name, (Kind.perRecord.map (Subject.record name)).length = 3 := fun _ => rfl
  have hget : (names.flatMap fun name => Kind.perRecord.map (Subject.record name))[3 * i + j]? =
      some (.record name kind) := by
    rw [getElem?_flatMap_of_length hlength hj, hname, Option.bind_some, List.getElem?_map,
      hkind, Option.map_some]
  rw [Subject.all, List.getElem?_append_left (List.getElem?_eq_some_iff.1 hget).1, hget]

theorem Subject.getElem?_all_length (names : List String) :
    (Subject.all names)[3 * names.length]? = some .registry := by
  have hlength : (names.flatMap fun name => Kind.perRecord.map (Subject.record name)).length =
      3 * names.length := by
    have hall := Subject.length_all names
    rw [Subject.all, List.length_append, List.length_singleton] at hall
    omega
  rw [Subject.all, List.getElem?_append_right (by rw [hlength]), hlength, Nat.sub_self]
  rfl

namespace Plan

variable {plan : Plan}

/-- A plan that adds no line feed to names. -/
structure LineFeedFree (plan : Plan) : Prop where
  before : ∀ kind, '\n' ∉ (plan.options kind).before.toList
  after : ∀ kind, '\n' ∉ (plan.options kind).after.toList

/-- The lines around the members of a record's module. -/
def recordFrame (plan : Plan) (kind : Kind) (name : String) : Frame :=
  let names := plan.recordNames kind name
  match kind with
  | .fieldEnum => fieldNamesFrame names.identifier (plan.form kind)
  | _ => shapeFrame names.identifier names.binding (plan.form kind)

/-- The line of a field in a record's module, as it is before it is indented. -/
def memberRow (plan : Plan) (kind : Kind) (f : Field) : String :=
  match kind with
  | .fieldEnum => quotedRow (plan.form kind) (fieldKey (plan.form kind) f.name) f.name
  | _ => shapeRow (plan.form kind) f

/-- The lines around the members of the registry. -/
def tablesFrame (plan : Plan) : Frame :=
  registryFrame plan.registryNames.identifier plan.registryNames.binding (plan.form .tables)

def tablesRow (plan : Plan) (name : String) : String :=
  quotedRow (plan.form .tables) (Unicode.upperText name) name

theorem content_recordArtifact (plan : Plan) (name : String) (fields : List Field) (kind : Kind) :
    (plan.recordArtifact name fields kind).content =
      (plan.recordFrame kind name).text (fields.map (plan.memberRow kind)) := by
  cases kind with
  | fieldEnum => exact text_fieldNames ..
  | dto => exact text_shape ..
  | entity => exact text_shape ..
  | tables => exact text_shape ..

theorem content_renderRegistry (plan : Plan) (names : List String) :
    (plan.renderRegistry names).content = plan.tablesFrame.text (names.map plan.tablesRow) :=
  registry_eq ..

/-- One line closes the module of a record. -/
theorem exists_closing_recordFrame (plan : Plan) (kind : Kind) (name : String) :
    ∃ line, (plan.recordFrame kind name).closing = [line] := by
  unfold recordFrame
  cases plan.form kind <;> cases kind <;> exact ⟨_, rfl⟩

theorem LineFeedFree.not_mem_identifier (h : plan.LineFeedFree) (kind : Kind) {name : String}
    (hname : '\n' ∉ name.toList) : '\n' ∉ (plan.recordNames kind name).identifier.toList := by
  have hupper : '\n' ∉ (Text.upperFirst name).toList := fun hmem =>
    hname (Text.mem_of_mem_upperFirst (by decide) (by decide) hmem)
  simp [recordNames, h.before kind, h.after kind, hupper]

theorem LineFeedFree.not_mem_binding (h : plan.LineFeedFree) (kind : Kind) {name : String}
    (hname : '\n' ∉ name.toList) : '\n' ∉ (plan.recordNames kind name).binding.toList :=
  fun hmem => h.not_mem_identifier kind hname
    (Text.mem_of_mem_lowerFirst (by decide) (by decide) hmem)

theorem LineFeedFree.flat_recordFrame (h : plan.LineFeedFree) (kind : Kind) {name : String}
    (hname : '\n' ∉ name.toList) : (plan.recordFrame kind name).Flat := by
  have hidentifier := h.not_mem_identifier kind hname
  have hbinding := h.not_mem_binding kind hname
  have hnames : ∀ form, (fieldNamesFrame (plan.recordNames kind name).identifier form).Flat := by
    rintro (_ | _)
    · exact Frame.flat_ofObject hidentifier
    · exact Frame.flat_ofEnum hidentifier
  have hshape : ∀ form, (shapeFrame (plan.recordNames kind name).identifier
      (plan.recordNames kind name).binding form).Flat := by
    rintro (_ | _)
    · exact Frame.flat_ofObject hbinding
    · exact Frame.flat_ofClass hidentifier
  cases kind with
  | fieldEnum => exact hnames _
  | dto => exact hshape _
  | entity => exact hshape _
  | tables => exact hshape _

theorem LineFeedFree.flat_tablesFrame (h : plan.LineFeedFree) : plan.tablesFrame.Flat := by
  have hidentifier : '\n' ∉ plan.registryNames.identifier.toList := by
    simp [registryNames, h.before .tables]
  have hlower : '\n' ∉ (Unicode.lowerText (plan.options .tables).before).toList := fun hmem =>
    h.before .tables (Unicode.mem_of_mem_lowerText (by decide) (by decide) hmem)
  have hbinding : '\n' ∉ plan.registryNames.binding.toList := by
    simp [registryNames, hlower]
  unfold tablesFrame
  cases plan.form .tables with
  | nominal => exact Frame.flat_ofEnum hidentifier
  | frozen =>
      have hobject := Frame.flat_ofObject hbinding
      refine ⟨hobject.opening, fun line hline => ?_⟩
      rcases List.mem_append.1 hline with hline | hline
      · exact hobject.closing line hline
      · simp only [List.mem_cons, List.not_mem_nil, or_false] at hline
        rcases hline with rfl | rfl
        · simp
        · simp [hidentifier, hbinding]

theorem lineFeed_not_mem_memberRow (plan : Plan) (kind : Kind) {f : Field} (hf : f.Plain) :
    '\n' ∉ (plan.memberRow kind f).toList := by
  cases kind with
  | fieldEnum => exact lineFeed_not_mem_quotedRow _ (quotable_fieldKey _ hf.name) hf.name
  | dto => exact lineFeed_not_mem_shapeRow _ hf
  | entity => exact lineFeed_not_mem_shapeRow _ hf
  | tables => exact lineFeed_not_mem_shapeRow _ hf

/-- The module of a record, and its member lines: one for each field line of a block, in order. -/
structure SetsOut (plan : Plan) (kind : Kind) (name : String) (b : Block) (mapping : Bool)
    (a : Artifact) (members : List String) : Prop where
  kind_eq : a.kind = kind
  path_eq : a.path = (plan.dirFor kind).join ⟨(plan.recordNames kind name).fileName⟩
  lines_eq : ∃ closing, (plan.recordFrame kind name).closing = [closing] ∧
    Text.lines a.content = (plan.recordFrame kind name).opening :: (members ++ [closing])
  members_eq : List.Forall₂
    (fun line member => ∃ f, Declares line mapping f ∧
      member = Code.indentation 1 ++ plan.memberRow kind f)
    (b.trimmedLines.filter fun line => LineClass.field.Holds line) members

/-- The registry, with one member line for each block. -/
structure ListsAll (plan : Plan) (bs : List Block) (mapping : Bool) (a : Artifact) : Prop where
  kind_eq : a.kind = .tables
  path_eq : a.path = (plan.dirFor .tables).join ⟨plan.registryNames.fileName⟩
  lines_eq : Text.lines a.content = plan.tablesFrame.opening ::
    (bs.map (fun b => Code.indentation 1 ++ plan.tablesRow (b.recordName mapping)) ++
      plan.tablesFrame.closing)

/-- The artifacts follow the blocks of a text, with the given numbers of members. -/
structure FollowsBlocks (plan : Plan) (bs : List Block) (mapping : Bool) (c : Catalogue)
    (counts : List (String × Nat)) : Prop where
  length_eq : (plan.render c).length = 3 * bs.length + 1
  length_counts : counts.length = bs.length
  records : ∀ (i : Nat) (b : Block), bs[i]? = some b →
    c.names[i]? = some (b.recordName mapping) ∧
    ∃ earlier last later, bs = earlier ++ last :: later ∧
      last.recordName mapping = b.recordName mapping ∧
      (∀ other ∈ later, other.recordName mapping ≠ b.recordName mapping) ∧
      ∀ (j : Nat) (kind : Kind), Kind.perRecord[j]? = some kind →
        ∃ a members, (plan.render c)[3 * i + j]? = some a ∧
          plan.SetsOut kind (b.recordName mapping) last mapping a members ∧
          counts[i]? = some (b.recordName mapping, members.length)
  registry : ∃ a, (plan.render c)[3 * bs.length]? = some a ∧ plan.ListsAll bs mapping a

/-- The module of a record sets out the block that its fields come from. -/
theorem LineFeedFree.setsOut_recordArtifact (h : plan.LineFeedFree) (kind : Kind) {name : String}
    (hname : '\n' ∉ name.toList) (b : Block) (mapping : Bool) :
    plan.SetsOut kind name b mapping
      (plan.recordArtifact name (b.record mapping).fields kind)
      ((b.record mapping).fields.map fun f => Code.indentation 1 ++ plan.memberRow kind f) where
  kind_eq := rfl
  path_eq := rfl
  lines_eq := by
    obtain ⟨closing, hclosing⟩ := plan.exists_closing_recordFrame kind name
    refine ⟨closing, hclosing, ?_⟩
    rw [content_recordArtifact, (h.flat_recordFrame kind hname).lines_text, Frame.lines, hclosing,
      List.map_map]
    · rfl
    · intro row hrow
      obtain ⟨f, hf, rfl⟩ := List.mem_map.1 hrow
      exact plan.lineFeed_not_mem_memberRow kind (Block.plain_of_mem_fields hf)
  members_eq := by
    rw [List.forall₂_map_right_iff]
    exact (b.forall₂_fields mapping).imp fun _ f hf => ⟨f, hf, rfl⟩

theorem LineFeedFree.listsAll_renderRegistry (h : plan.LineFeedFree) {bs : List Block}
    {mapping : Bool} (hnames : ∀ b ∈ bs, Text.Quotable (b.recordName mapping)) :
    plan.ListsAll bs mapping (plan.renderRegistry (bs.map (·.recordName mapping))) where
  kind_eq := rfl
  path_eq := rfl
  lines_eq := by
    rw [content_renderRegistry, h.flat_tablesFrame.lines_text, Frame.lines, List.map_map,
      List.map_map]
    · rfl
    · intro row hrow
      rw [List.map_map] at hrow
      obtain ⟨b, hb, rfl⟩ := List.mem_map.1 hrow
      exact lineFeed_not_mem_quotedRow _ (hnames b hb).upperText (hnames b hb)

/-- What is generated from a text follows its blocks. For each block there are the three modules of
its name, with the members of the last block of the name, and the registry comes last with one
member for each block. A check lists each record with the same number of members. -/
theorem output_follows_blocks {text filename : String} {mapping : Bool} {c : Catalogue}
    (hplan : plan.LineFeedFree) (hread : Schema.read text filename mapping = .ok c) :
    ∃ counts, counts = c.records.map (fun r => (r.name, r.fields.length)) ∧
      plan.FollowsBlocks (blocks text) mapping c counts ∧
      ∀ settings, let warnings := Run.Opened.warnings ⟨settings, c⟩
        Run.checkReport ⟨settings, c⟩ = Report.check settings.schema warnings counts ∧
        Report.outputText (Run.checkReport ⟨settings, c⟩) =
          (if warnings.isEmpty then "" else "\n") ++
            ("✓ " ++ settings.schema.text ++ " is valid\n") ++ ("\n" ++ Report.listing counts) := by
  have hnames := Schema.names_of_read hread
  have hlength : c.names.length = (blocks text).length := by rw [hnames, List.length_map]
  refine ⟨_, rfl, ⟨?_, ?_, fun i b hb => ?_, ?_⟩,
    fun settings => ⟨by rw [Run.checkReport], Report.outputText_check ..⟩⟩
  · rw [length_render, hlength]
  · rw [List.length_map, Catalogue.records, List.length_map, hlength]
  · have hname : c.names[i]? = some (b.recordName mapping) := by
      rw [hnames, List.getElem?_map, hb, Option.map_some]
    obtain ⟨earlier, last, later, hsplit, hlast, hlater, hfields⟩ :=
      Schema.exists_last_block_of_read hread (List.mem_of_getElem? hname)
    refine ⟨hname, earlier, last, later, hsplit, hlast, hlater, fun j kind hkind => ?_⟩
    have hquotable := (Schema.plain_of_read hread).names _ (List.mem_of_getElem? hname)
    refine ⟨_, _, ?_, hplan.setsOut_recordArtifact kind hquotable.no_lineFeed last mapping, ?_⟩
    · rw [render_eq_map, List.getElem?_map, Subject.getElem?_all hname hkind, Option.map_some,
        artifact, hfields, Option.getD_some]
    · rw [Catalogue.records, List.map_map, List.getElem?_map, hname, Option.map_some,
        Function.comp_apply, hfields, Option.getD_some, List.length_map]
  · have hquotable : ∀ b ∈ blocks text, Text.Quotable (b.recordName mapping) := fun b hb =>
      Block.quotable_recordName hb
    refine ⟨_, ?_, hplan.listsAll_renderRegistry hquotable⟩
    rw [render_eq_map, List.getElem?_map, ← hlength, Subject.getElem?_all_length, Option.map_some,
      artifact, hnames]

/-- The second block has no fields, and the third one takes the place of the first. -/
theorem output_follows_blocks_redeclared :
    let text := "model A \x7b\n  x Int\n  y Int\n\x7d\nmodel B \x7b\x7d\n" ++
      "model A \x7b\n  ?\n  z String[]? @map(\"w\")\n\x7d"
    let counts := [("A", 1), ("B", 0), ("A", 1)]
    ∃ c, Schema.read text "s" true = .ok c ∧ Plan.default.LineFeedFree ∧
      c.names = ["A", "B", "A"] ∧ Plan.default.FollowsBlocks (blocks text) true c counts ∧
      Report.outputText (Run.checkReport ⟨⟨⟨"s"⟩, .default⟩, c⟩) = "\n✓ s is valid\n\n" ++
        "Records (3):\n  - A (1 field)\n  - B (0 fields)\n  - A (1 field)\n" := by
  intro text counts
  let c : Catalogue := ⟨["A", "B", "A"], [("A", [⟨"w", "String[]?"⟩]), ("B", [])],
    [⟨.unparsableLine "?" "A", "s:7"⟩, ⟨.redeclaredModel "A", "s:6"⟩]⟩
  have hread : Schema.read text "s" true = .ok c := by decide +kernel
  have hplan : Plan.default.LineFeedFree :=
    ⟨by rintro (_ | _ | _ | _) <;> decide, by rintro (_ | _ | _ | _) <;> decide⟩
  obtain ⟨_, rfl, hfollows, hlisted⟩ := output_follows_blocks hplan hread
  refine ⟨c, hread, hplan, rfl, hfollows, ?_⟩
  rw [(hlisted _).2]
  decide

end Plan

end Artifact

end SchemaScribe
