import SchemaScribe.Proofs.CatalogueOfBlocks
import SchemaScribe.Proofs.HeaderAccount
import SchemaScribe.Proofs.TextLines

/-!
# Where diagnostics point

Every diagnostic names a line of the text. For an unreadable line it is the line that holds it, for
an unclosed header the line of its keyword, and for a repeated name the line of the opening brace.
The unreadable lines come in the order of the text. The unclosed headers come behind everything
else, in the order of the text as well.
-/
namespace SchemaScribe.Schema

/-- A line of the body that cannot be read stands at a position of the body, when the white space at
its ends is left out. -/
def BlockText.UnreadableAt (t : BlockText) (d : Nat) (line : String) : Prop :=
  ∃ lines left right after,
    t.body.splitOn '\n' = lines ++ (left ++ (line.toList ++ right)) :: after ∧
    d = (lines.flatMap (· ++ ['\n'])).length + left.length ∧
    Unicode.trim (left ++ (line.toList ++ right)) = line.toList ∧
    BodyLine.classify line.toList = .unparsable line

/-- The finding belongs to the line of the given number. -/
def Finding.PointsAt (text : String) (mapping : Bool) (n : Nat) : Finding → Prop
  -- The line holds the unreadable text, between the braces of a block of this name.
  | .unparsableLine line model => ∃ j t d, BlockAt text.toList j t ∧
      Block.of (placeAt text.toList j, t) ∈ blocks text ∧ String.ofList t.header.name = model ∧
      t.UnreadableAt d line ∧ OnLine text.toList n (j + t.header.text.length + d) line.toList
  -- The line holds the keyword of a header that starts no block.
  | .unclosedBlock model => ∃ i h, HeaderAt text.toList i h ∧
      PlacedHeader.of (placeAt text.toList i, h) ∈ unclosedHeaders text ∧
      String.ofList h.name = model ∧ OnLine text.toList n i keyword
  -- The line holds the opening brace of a block whose name came before.
  | .redeclaredModel model => ∃ j t earlier later, BlockAt text.toList j t ∧
      blocks text = earlier ++ Block.of (placeAt text.toList j, t) :: later ∧
      (Block.of (placeAt text.toList j, t)).recordName mapping = model ∧
      model ∈ earlier.map (·.recordName mapping) ∧
      OnLine text.toList n (j + t.header.stem.length) ['{']

def Finding.isUnparsableLine : Finding → Bool
  | .unparsableLine .. => true
  | _ => false

def Finding.isUnclosedBlock : Finding → Bool
  | .unclosedBlock _ => true
  | _ => false

/-- Two diagnostics are for lines of one file, the second for no earlier line than the first. -/
def InLineOrder (filename : String) (d e : Diagnostic) : Prop :=
  ∃ n m, d.location = some (locationText filename n) ∧
    e.location = some (locationText filename m) ∧ n ≤ m

/-- The text of a location tells the line. -/
theorem locationText_inj {filename : String} {n m : Nat} :
    locationText filename n = locationText filename m ↔ n = m := by
  refine ⟨fun h => ?_, fun h => h ▸ rfl⟩
  have hdigits := congrArg String.toList h
  simp only [locationText, String.toList_append, List.append_cancel_left_eq,
    Nat.toString_eq_ofList_toDigits, String.toList_ofList] at hdigits
  have hvalue := congrArg (Nat.ofDigitChars 10 · 0) hdigits
  simpa [Nat.ofDigitChars_toDigits] using hvalue

/-- An entry of a numbered list has as its number the number of entries before it. -/
theorem mem_zipIdx_iff_append {α : Type} {xs : List α} {x : α} {n k : Nat} :
    (x, n) ∈ xs.zipIdx k ↔ ∃ before after, xs = before ++ x :: after ∧ n = k + before.length := by
  constructor
  · intro h
    obtain ⟨hle, hget⟩ := List.mk_mem_zipIdx_iff_le_and_getElem?_sub.1 h
    obtain ⟨hlt, hx⟩ := List.getElem?_eq_some_iff.1 hget
    refine ⟨xs.take (n - k), xs.drop (n - k + 1), ?_, ?_⟩
    · rw [← hx, List.getElem_cons_drop, List.take_append_drop]
    · rw [List.length_take, Nat.min_eq_left (Nat.le_of_lt hlt)]
      omega
  · rintro ⟨before, after, rfl, rfl⟩
    rw [List.zipIdx_append, List.zipIdx_cons]
    simp

theorem BodyLine.toList_eq_of_classify {cs : List Char} {line : String}
    (h : classify cs = .unparsable line) : line.toList = cs := by
  rw [classify] at h
  split_ifs at h
  split at h
  · cases h
  · rw [← BodyLine.unparsable.inj h, String.toList_ofList]

theorem BodyLine.unparsable?_eq_some_iff {line : BodyLine} {text : String} :
    line.unparsable? = some text ↔ line = .unparsable text := by
  cases line <;> simp [unparsable?]

namespace Block

/-- The unreadable lines are lines of the body, numbered from the line on which the body starts. -/
theorem mem_unparsableLines {b : Block} {line : String} {n : Nat} :
    (line, n) ∈ b.unparsableLines ↔ ∃ lines piece after,
      b.body.toList.splitOn '\n' = lines ++ piece :: after ∧
      BodyLine.classify (Unicode.trim piece) = .unparsable line ∧
      n = b.bodyLine + lines.length := by
  have hentry : (line, n) ∈ b.unparsableLines ↔
      (BodyLine.unparsable line, n) ∈ b.classes.zipIdx b.bodyLine := by
    rw [unparsableLines, bodyLines_eq, List.mem_filterMap]
    simp only [Prod.exists, Option.map_eq_some_iff, Prod.mk.injEq, BodyLine.unparsable?_eq_some_iff]
    constructor
    · rintro ⟨_, _, hmem, _, rfl, rfl, rfl⟩
      exact hmem
    · intro hmem
      exact ⟨_, _, hmem, _, rfl, rfl, rfl⟩
  rw [hentry, mem_zipIdx_iff_append]
  constructor
  · rintro ⟨before, behind, hclasses, rfl⟩
    obtain ⟨lines, rest, hsplit, rfl, hrest⟩ := List.map_eq_append_iff.1 hclasses
    obtain ⟨piece, after, rfl, hpiece, -⟩ := List.map_eq_cons_iff.1 hrest
    exact ⟨lines, piece, after, hsplit, hpiece, by rw [List.length_map]⟩
  · rintro ⟨lines, piece, after, hsplit, hpiece, rfl⟩
    obtain ⟨before, behind, hclasses, hlength⟩ := exists_classes_eq hsplit
    exact ⟨before, behind, by rw [hclasses, hpiece], by rw [hlength]⟩

theorem unparsableLines_pairwise (b : Block) : b.unparsableLines.Pairwise (·.2 < ·.2) := by
  have hnumbers : (b.classes.zipIdx b.bodyLine).Pairwise (·.2 < ·.2) := by
    rw [← List.pairwise_map (f := Prod.snd), List.zipIdx_map_snd]
    exact List.pairwise_lt_range'
  rw [unparsableLines, bodyLines_eq, List.pairwise_filterMap]
  refine hnumbers.imp fun hlt line hline line' hline' => ?_
  obtain ⟨_, _, rfl⟩ := Option.map_eq_some_iff.1 hline
  obtain ⟨_, _, rfl⟩ := Option.map_eq_some_iff.1 hline'
  exact hlt

end Block

section Positions

variable {cs : List Char} {j : Nat} {t : BlockText}

theorem BlockAt.body_le_length (ht : BlockAt cs j t) : j + t.header.text.length ≤ cs.length :=
  ((Header.standsAt_iff.2 ht.headerAt).lt_length Header.shape_faithful).1

/-- What is on a line of the body is on a line of the text, counted from the line on which the body
starts. -/
theorem BlockAt.onLine_of_splitOn (ht : BlockAt cs j t) {lines after : List (List Char)}
    {left part right : List Char}
    (hsplit : t.body.splitOn '\n' = lines ++ (left ++ (part ++ right)) :: after) :
    OnLine cs ((Block.of (placeAt cs j, t)).bodyLine + lines.length)
      (j + t.header.text.length + ((lines.flatMap (· ++ ['\n'])).length + left.length)) part := by
  have hbody : OnLine t.body (lines.length + 1)
      ((lines.flatMap (· ++ ['\n'])).length + left.length) part :=
    ⟨lines, left, right, after, hsplit, rfl, rfl⟩
  rw [Block.bodyLine, ht.bodyStart_eq]
  exact hbody.within ht.body_prefix ht.body_le_length

/-- The unreadable lines of a block are numbered by the lines of the text that hold them. -/
theorem BlockAt.mem_unparsableLines (ht : BlockAt cs j t) {line : String} {n : Nat} :
    (line, n) ∈ (Block.of (placeAt cs j, t)).unparsableLines ↔
      ∃ d, t.UnreadableAt d line ∧ OnLine cs n (j + t.header.text.length + d) line.toList := by
  have hbody : (Block.of (placeAt cs j, t)).body.toList = t.body := String.toList_ofList
  rw [Block.mem_unparsableLines, hbody]
  constructor
  · rintro ⟨lines, piece, after, hsplit, hclass, rfl⟩
    have hline := BodyLine.toList_eq_of_classify hclass
    obtain ⟨left, right, hpiece⟩ := Unicode.exists_trim_eq piece
    rw [← hline] at hpiece hclass
    subst hpiece
    exact ⟨_, ⟨lines, left, right, after, hsplit, rfl, hline.symm, hclass⟩,
      ht.onLine_of_splitOn hsplit⟩
  · rintro ⟨d, ⟨lines, left, right, after, hsplit, rfl, htrim, hclass⟩, hon⟩
    refine ⟨lines, _, after, hsplit, htrim.symm ▸ hclass, ?_⟩
    rw [hon.line_eq, (ht.onLine_of_splitOn hsplit).line_eq]

/-- The body starts on the line of the opening brace. -/
theorem BlockAt.onLine_openBrace (ht : BlockAt cs j t) :
    OnLine cs (Block.of (placeAt cs j, t)).bodyLine (j + t.header.stem.length) ['{'] := by
  have hheader := ht.headerAt.2.2
  rw [Header.text_eq_stem] at hheader
  have hstem : t.header.stem <+: cs.drop j := (List.prefix_append _ _).trans hheader
  obtain ⟨rest, hrest⟩ := hheader
  have hbrace : cs.drop (j + t.header.stem.length) = ['{'] ++ rest := by
    rw [← List.drop_drop, ← hrest]
    simp
  have hle := ht.body_le_length
  rw [Header.text_eq_stem, List.length_append] at hle
  have hon := onLine_placeAt (by omega) (by simp) ⟨rest, hbrace.symm⟩
  have hline : (Block.of (placeAt cs j, t)).bodyLine =
      (placeAt cs (j + t.header.stem.length)).line := by
    rw [Block.bodyLine, Block.of, Header.text_eq_stem, Place.advance_append, advance_placeAt hstem,
      Place.advance_line]
    simp
  rwa [hline]

theorem HeaderAt.onLine_keyword {i : Nat} {h : Header} (hh : HeaderAt cs i h) :
    OnLine cs (placeAt cs i).line i keyword :=
  onLine_placeAt hh.le_length (by decide) (h.keyword_prefix.trans hh.2.2)

end Positions

section Diagnostics

variable {text filename : String} {mapping : Bool}

theorem mem_complaints_iff {b : Block} {finding : Finding} {n : Nat} :
    ⟨finding, locationText filename n⟩ ∈ b.complaints filename ↔
      ∃ line, (line, n) ∈ b.unparsableLines ∧ finding = .unparsableLine line b.name := by
  simp only [Block.complaints, List.mem_map, Prod.exists, Diagnostic.mk.injEq, Option.some.injEq,
    locationText_inj]
  constructor
  · rintro ⟨line, m, hmem, rfl, rfl⟩
    exact ⟨line, hmem, rfl⟩
  · rintro ⟨line, hmem, rfl⟩
    exact ⟨line, n, hmem, rfl, rfl⟩

theorem exists_unparsableLine_iff {line model : String} {n : Nat} :
    (∃ b ∈ blocks text, (line, n) ∈ b.unparsableLines ∧ model = b.name) ↔
      (Finding.unparsableLine line model).PointsAt text mapping n := by
  constructor
  · rintro ⟨b, hb, hmem, rfl⟩
    obtain ⟨j, t, ht, rfl⟩ := exists_blockAt_of_mem_blocks hb
    obtain ⟨d, hline, hon⟩ := ht.mem_unparsableLines.1 hmem
    exact ⟨j, t, d, ht, hb, rfl, hline, hon⟩
  · rintro ⟨j, t, d, ht, hb, rfl, hline, hon⟩
    exact ⟨_, hb, ht.mem_unparsableLines.2 ⟨d, hline, hon⟩, rfl⟩

theorem exists_unclosedHeader_iff {model : String} {n : Nat} :
    (∃ p ∈ unclosedHeaders text, p.name = model ∧ p.start.line = n) ↔
      (Finding.unclosedBlock model).PointsAt text mapping n := by
  constructor
  · rintro ⟨p, hp, rfl, rfl⟩
    obtain ⟨i, h, hh, rfl⟩ := mem_headers_iff.1 (mem_unclosedHeaders_iff.1 hp).1
    exact ⟨i, h, hh, hp, rfl, hh.onLine_keyword⟩
  · rintro ⟨i, h, hh, hp, rfl, hon⟩
    exact ⟨_, hp, rfl, hon.line_eq.symm⟩

theorem exists_redeclared_iff {model : String} {n : Nat} :
    (∃ earlier b later, blocks text = earlier ++ b :: later ∧
      b.recordName mapping ∈ earlier.map (·.recordName mapping) ∧
      model = b.recordName mapping ∧ n = b.bodyLine) ↔
      (Finding.redeclaredModel model).PointsAt text mapping n := by
  constructor
  · rintro ⟨earlier, b, later, hblocks, hname, rfl, rfl⟩
    have hb : b ∈ blocks text := by simp [hblocks]
    obtain ⟨j, t, ht, rfl⟩ := exists_blockAt_of_mem_blocks hb
    exact ⟨j, t, earlier, later, ht, hblocks, rfl, hname, ht.onLine_openBrace⟩
  · rintro ⟨j, t, earlier, later, ht, hblocks, rfl, hname, hon⟩
    exact ⟨earlier, _, later, hblocks, hname, rfl,
      hon.line_eq.trans ht.onLine_openBrace.line_eq.symm⟩

/-- A finding is kept for a line exactly when it belongs to the line. -/
theorem mem_diagnostics_iff_pointsAt {c : Catalogue} (hread : read text filename mapping = .ok c)
    (finding : Finding) (n : Nat) :
    ⟨finding, locationText filename n⟩ ∈ c.diagnostics ↔ finding.PointsAt text mapping n := by
  obtain ⟨-, rfl⟩ := read_eq_ok_iff.1 hread
  rw [Catalogue.diagnostics_noteAll, List.mem_append, Catalogue.mem_diagnostics_ofBlocks,
    List.mem_map]
  simp only [mem_complaints_iff, Catalogue.redeclared, PlacedHeader.complaint, Diagnostic.mk.injEq,
    Option.some.injEq, locationText_inj]
  cases finding with
  | unparsableLine line model =>
      rw [← exists_unparsableLine_iff]
      simp
  | unclosedBlock model =>
      rw [← exists_unclosedHeader_iff]
      simp
  | redeclaredModel model =>
      rw [← exists_redeclared_iff]
      simp

/-- The blocks give rise to two kinds of findings, each for a line. -/
theorem exists_eq_of_mem_ofBlocks {bs : List Block} {d : Diagnostic}
    (hd : d ∈ (Catalogue.ofBlocks filename mapping bs).diagnostics) :
    ∃ n, (∃ line model, d = ⟨.unparsableLine line model, locationText filename n⟩) ∨
      ∃ model, d = ⟨.redeclaredModel model, locationText filename n⟩ := by
  rcases (Catalogue.mem_diagnostics_ofBlocks filename mapping).1 hd with
    ⟨b, -, hd⟩ | ⟨_, b, _, -, -, rfl⟩
  · obtain ⟨⟨line, n⟩, -, rfl⟩ := List.mem_map.1 hd
    exact ⟨n, Or.inl ⟨line, b.name, rfl⟩⟩
  · exact ⟨b.bodyLine, Or.inr ⟨b.recordName mapping, rfl⟩⟩

theorem exists_location_of_mem {c : Catalogue} (hread : read text filename mapping = .ok c)
    {d : Diagnostic} (hd : d ∈ c.diagnostics) :
    ∃ n, d.location = some (locationText filename n) := by
  obtain ⟨-, rfl⟩ := read_eq_ok_iff.1 hread
  rw [Catalogue.diagnostics_noteAll, List.mem_append, List.mem_map] at hd
  rcases hd with hd | ⟨p, -, rfl⟩
  · obtain ⟨n, ⟨_, _, rfl⟩ | ⟨_, rfl⟩⟩ := exists_eq_of_mem_ofBlocks hd
    · exact ⟨n, rfl⟩
    · exact ⟨n, rfl⟩
  · exact ⟨p.start.line, rfl⟩

/-- The complaints about one block come in the order of the lines. -/
theorem Block.complaints_pairwise (b : Block) (filename : String) :
    (b.complaints filename).Pairwise (InLineOrder filename) := by
  rw [complaints, List.pairwise_map]
  refine b.unparsableLines_pairwise.imp fun {x y} hlt => ?_
  exact ⟨x.2, y.2, rfl, rfl, Nat.le_of_lt hlt⟩

/-- A complaint about a block is for a line between its braces. -/
theorem BlockAt.exists_location_of_mem_complaints {cs : List Char} {j : Nat} {t : BlockText}
    (ht : BlockAt cs j t) {d : Diagnostic}
    (hd : d ∈ (Block.of (placeAt cs j, t)).complaints filename) :
    ∃ i, j ≤ i ∧ i ≤ j + t.text.length ∧
      d.location = some (locationText filename (placeAt cs i).line) := by
  obtain ⟨⟨line, n⟩, hmem, rfl⟩ := List.mem_map.1 hd
  obtain ⟨k, ⟨lines, left, right, after, hsplit, rfl, -⟩, hon⟩ := ht.mem_unparsableLines.1 hmem
  obtain ⟨rest, hrest⟩ := Text.exists_rest_of_splitOn_eq hsplit
  refine ⟨_, ?_, ?_, congrArg (some ∘ locationText filename) hon.line_eq⟩
  · omega
  · have hbody := congrArg List.length hrest
    simp only [List.length_append] at hbody
    simp only [BlockText.text, List.length_append]
    omega

/-- The complaints about all blocks come in the order of the lines. -/
theorem complaints_pairwise (text filename : String) :
    ((blocks text).flatMap (·.complaints filename)).Pairwise (InLineOrder filename) := by
  obtain ⟨hits, hscan, hblocks⟩ := exists_blockScan text
  rw [List.pairwise_flatMap]
  refine ⟨fun b _ => b.complaints_pairwise filename, ?_⟩
  rw [hblocks, List.pairwise_map]
  -- A block ends before the next one starts, so its lines are no later.
  refine hscan.apart.imp_of_mem fun {hit next} hmem hmem' hapart d hd e he => ?_
  have hat := BlockText.standsAt_iff.1 (hscan.stands hit hmem)
  have hat' := BlockText.standsAt_iff.1 (hscan.stands next hmem')
  obtain ⟨i, -, hi, hloc⟩ := hat.exists_location_of_mem_complaints hd
  obtain ⟨i', hi', -, hloc'⟩ := hat'.exists_location_of_mem_complaints he
  exact ⟨_, _, hloc, hloc', line_placeAt_le _ (hi.trans (hapart.trans hi'))⟩

theorem unclosed_complaints_pairwise (text filename : String) :
    ((unclosedHeaders text).map (·.complaint filename)).Pairwise (InLineOrder filename) := by
  rw [List.pairwise_map]
  refine (unclosedHeaders_pairwise text).imp_of_mem fun {p q} hp hq hlt => ?_
  obtain ⟨i, h, hh, rfl⟩ := mem_headers_iff.1 (mem_unclosedHeaders_iff.1 hp).1
  obtain ⟨i', h', hh', rfl⟩ := mem_headers_iff.1 (mem_unclosedHeaders_iff.1 hq).1
  have hle := Nat.le_of_lt ((offset_placeAt_lt_iff hh.le_length hh'.le_length).1 hlt)
  exact ⟨_, _, rfl, rfl, line_placeAt_le _ hle⟩

/-- The findings of the blocks are unreadable lines, which are warnings, and repeated names. -/
theorem filter_isUnparsableLine_ofBlocks (bs : List Block) :
    (Catalogue.ofBlocks filename mapping bs).diagnostics.filter (·.finding.isUnparsableLine) =
      bs.flatMap (·.complaints filename) := by
  rw [← Catalogue.warnings_ofBlocks filename mapping]
  refine List.filter_congr fun d hd => ?_
  obtain ⟨_, ⟨_, _, rfl⟩ | ⟨_, rfl⟩⟩ := exists_eq_of_mem_ofBlocks hd
  · rfl
  · rfl

theorem isUnclosedBlock_of_mem_ofBlocks {bs : List Block} {d : Diagnostic}
    (hd : d ∈ (Catalogue.ofBlocks filename mapping bs).diagnostics) :
    d.finding.isUnclosedBlock = false := by
  obtain ⟨_, ⟨_, _, rfl⟩ | ⟨_, rfl⟩⟩ := exists_eq_of_mem_ofBlocks hd
  · rfl
  · rfl

/-- Every diagnostic is for a line, and the findings that are kept for a line are those that belong
to it. Unreadable lines come in the order of the text, and so do the unclosed headers, behind all
other findings. -/
theorem diagnostics_point_at_lines {c : Catalogue} (hread : read text filename mapping = .ok c) :
    (∀ d ∈ c.diagnostics, ∃ n, d.location = some (locationText filename n)) ∧
    (∀ finding n, ⟨finding, locationText filename n⟩ ∈ c.diagnostics ↔
      finding.PointsAt text mapping n) ∧
    (c.diagnostics.filter (·.finding.isUnparsableLine)).Pairwise (InLineOrder filename) ∧
    ∃ others unclosed, c.diagnostics = others ++ unclosed ∧
      (∀ d ∈ others, d.finding.isUnclosedBlock = false) ∧
      (∀ d ∈ unclosed, d.finding.isUnclosedBlock = true) ∧
      unclosed.Pairwise (InLineOrder filename) := by
  refine ⟨fun d => exists_location_of_mem hread, mem_diagnostics_iff_pointsAt hread, ?_, ?_⟩
  · obtain ⟨-, rfl⟩ := read_eq_ok_iff.1 hread
    have hunclosed : ((unclosedHeaders text).map (·.complaint filename)).filter
        (·.finding.isUnparsableLine) = [] := by
      simp [PlacedHeader.complaint, Finding.isUnparsableLine]
    rw [Catalogue.diagnostics_noteAll, List.filter_append, hunclosed, List.append_nil,
      filter_isUnparsableLine_ofBlocks]
    exact complaints_pairwise text filename
  · obtain ⟨-, rfl⟩ := read_eq_ok_iff.1 hread
    refine ⟨_, _, Catalogue.diagnostics_noteAll _ _, fun d => isUnclosedBlock_of_mem_ofBlocks, ?_,
      unclosed_complaints_pairwise text filename⟩
    intro d hd
    obtain ⟨p, -, rfl⟩ := List.mem_map.1 hd
    rfl

end Diagnostics

/-- A header over two lines, two blocks and a header on the lines of others, and a repeated name. -/
def scatteredSchema : String :=
  "model\n A \x7bx\n\n\x7d model A \x7b 1\n  2 \x7d model B \x7b"

theorem diagnostics_point_at_lines_scattered :
    (∃ c, read scatteredSchema "s" false = .ok c) ∧
    (Finding.unparsableLine "x" "A").PointsAt scatteredSchema false 2 ∧
    (Finding.unparsableLine "1" "A").PointsAt scatteredSchema false 4 ∧
    (Finding.unparsableLine "2" "A").PointsAt scatteredSchema false 5 ∧
    ¬(Finding.unparsableLine "2" "A").PointsAt scatteredSchema false 4 ∧
    (Finding.redeclaredModel "A").PointsAt scatteredSchema false 4 ∧
    (Finding.unclosedBlock "B").PointsAt scatteredSchema false 5 := by
  have hread : read scatteredSchema "s" false =
      .ok ⟨["A", "A"], [("A", [])],
        [⟨.unparsableLine "x" "A", some "s:2"⟩, ⟨.unparsableLine "1" "A", some "s:4"⟩,
          ⟨.unparsableLine "2" "A", some "s:5"⟩, ⟨.redeclaredModel "A", some "s:4"⟩,
          ⟨.unclosedBlock "B", some "s:5"⟩]⟩ := by decide +kernel
  obtain ⟨-, hpoints, -⟩ := diagnostics_point_at_lines hread
  refine ⟨⟨_, hread⟩, ?_, ?_, ?_, ?_, ?_, ?_⟩ <;> rw [← hpoints] <;> decide +kernel

end SchemaScribe.Schema
