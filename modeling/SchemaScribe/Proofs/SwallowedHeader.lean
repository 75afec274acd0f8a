import SchemaScribe.Proofs.BodyLineAccount
import SchemaScribe.Proofs.CatalogueOfBlocks
import SchemaScribe.Proofs.HeaderAccount
import SchemaScribe.Proofs.TextLines

/-!
# Headers inside a body

A header between the braces of an earlier block starts no block and is reported as skipped. The
lines of the body are read without regard to it: the line that holds the keyword adds a field to
the enclosing record exactly if it declares one. When the keyword comes first on its line and the
name stands on the same line, the line does so: the field is named by the keyword, or by the
leftmost alias on the line, and has the name of the header as its type.
-/
namespace SchemaScribe.Schema

open Unicode (isSpace isWord)

namespace Block

/-- The fields that the lines of a given number add to the record of the block. -/
def fieldsOnLine (b : Block) (mapping : Bool) (n : Nat) : List Field :=
  (b.bodyLines.filter (·.2 = n)).filterMap fun (line, _) => line.field?.map (·.field mapping)

/-- Nothing but white space comes before a place on its line of the body. -/
def OpensLine (b : Block) (p : Place) : Prop :=
  ∃ before blanks, before ++ blanks <+: b.body.toList ∧
    (before = [] ∨ before.getLast? = some '\n') ∧
    (∀ c ∈ blanks, isSpace c = true ∧ c ≠ '\n') ∧ p = b.bodyStart.advance (before ++ blanks)

/-- A line of the body adds to the record what it declares, and nothing else has its number. -/
structure AddsDeclared (b : Block) (mapping : Bool) (n : Nat) (line : List Char) : Prop where
  mem : (line, n) ∈ b.trimmedLines.zipIdx b.bodyLine
  eq_singleton_iff : ∀ f, b.fieldsOnLine mapping n = [f] ↔ Declares line mapping f
  eq_nil_iff : b.fieldsOnLine mapping n = [] ↔ ¬LineClass.field.Holds line
  sublist : (b.fieldsOnLine mapping n).Sublist (b.record mapping).fields

theorem fieldsOnLine_sublist (b : Block) (mapping : Bool) (n : Nat) :
    (b.fieldsOnLine mapping n).Sublist (b.record mapping).fields :=
  List.filter_sublist.filterMap _

/-- The one entry of a numbered list that has a given number. -/
theorem filter_zipIdx_eq {α : Type} (xs ys : List α) (x : α) (k : Nat) :
    ((xs ++ x :: ys).zipIdx k).filter (·.2 = k + xs.length) = [(x, k + xs.length)] := by
  have hbefore : (xs.zipIdx k).filter (·.2 = k + xs.length) = [] := by
    rw [List.filter_eq_nil_iff]
    intro entry hmem
    have hlt := List.snd_lt_add_of_mem_zipIdx hmem
    simp only [decide_eq_true_eq]
    omega
  have hafter : (ys.zipIdx (k + xs.length + 1)).filter (·.2 = k + xs.length) = [] := by
    rw [List.filter_eq_nil_iff]
    intro entry hmem
    have hle := List.le_snd_of_mem_zipIdx hmem
    simp only [decide_eq_true_eq]
    omega
  rw [List.zipIdx_append, List.zipIdx_cons, List.filter_append, hbefore,
    List.filter_cons_of_pos (by simp), hafter]
  rfl

/-- A line of the body adds what it says when it is read by itself. -/
theorem fieldsOnLine_eq {b : Block} {lines after : List (List Char)} {line : List Char}
    (hsplit : b.body.toList.splitOn '\n' = lines ++ line :: after) (mapping : Bool) :
    b.fieldsOnLine mapping (b.bodyLine + lines.length) =
      ((FieldLine.read? (Unicode.trim line)).map (·.field mapping)).toList := by
  obtain ⟨before, behind, hclasses, hlength⟩ := exists_classes_eq hsplit
  rw [← hlength, fieldsOnLine, bodyLines_eq, hclasses, filter_zipIdx_eq, List.filterMap_cons,
    List.filterMap_nil]
  dsimp only
  rw [BodyLine.field?_classify]
  cases FieldLine.read? (Unicode.trim line) <;> rfl

theorem addsDeclared_of_splitOn {b : Block} {lines after : List (List Char)} {line : List Char}
    (hsplit : b.body.toList.splitOn '\n' = lines ++ line :: after) (mapping : Bool) :
    b.AddsDeclared mapping (b.bodyLine + lines.length) (Unicode.trim line) where
  mem := mem_zipIdx_iff_append.2 ⟨lines.map Unicode.trim, after.map Unicode.trim,
    by rw [trimmedLines, hsplit, List.map_append, List.map_cons], by rw [List.length_map]⟩
  eq_singleton_iff f := by
    rw [fieldsOnLine_eq hsplit, Option.toList_eq_singleton_iff,
      FieldLine.field_read?_eq_some_iff]
  eq_nil_iff := by
    rw [fieldsOnLine_eq hsplit, LineClass.Holds, ← FieldLine.isSome_read?_iff]
    cases FieldLine.read? (Unicode.trim line) <;> simp
  sublist := b.fieldsOnLine_sublist mapping _

end Block

theorem isWord_of_mem_keyword {c : Char} (h : c ∈ keyword) : isWord c = true := by
  have hall : keyword.all isWord = true := by decide
  exact List.all_eq_true.1 hall c h

theorem typeMarks_eq_nil {cs : List Char} (h : ∀ c ∈ cs.head?, c ≠ '[' ∧ c ≠ '?') :
    typeMarks cs = [] := by
  cases cs with
  | nil => rfl
  | cons c cs =>
      obtain ⟨hbracket, hquestion⟩ := h c rfl
      unfold typeMarks
      split <;> simp_all

theorem head_keyword : ∀ c ∈ keyword.head?, isSpace c = false := fun _ hc =>
  Unicode.isSpace_of_isWord (isWord_of_mem_keyword (List.mem_of_mem_head? hc))

theorem last_keyword : ∀ c ∈ keyword.getLast?, isSpace c = false := fun _ hc =>
  Unicode.isSpace_of_isWord (isWord_of_mem_keyword (List.mem_of_getLast? hc))

theorem Header.head_title (h : Header) : ∀ c ∈ h.title.head?, isSpace c = false := by
  intro c hc
  exact head_keyword c (by simpa [title, keyword] using hc)

theorem Header.WellFormed.last_title {h : Header} (hw : h.WellFormed) :
    ∀ c ∈ h.title.getLast?, isSpace c = false := by
  intro c hc
  rw [title, List.getLast?_append_of_ne_nil _ hw.name_ne_nil] at hc
  exact Unicode.isSpace_of_isWord (hw.name_word c (List.mem_of_getLast? hc))

/-- What comes right behind the name of a header is white space or the brace. -/
theorem Header.WellFormed.head_behind_name {h : Header} (hw : h.WellFormed)
    {part rest : List Char} (hpart : part <+: h.space ++ '{' :: rest) :
    ∀ c ∈ part.head?, isSpace c = true ∨ c = '{' := by
  intro c hc
  obtain ⟨part', rfl⟩ := List.head?_eq_some_iff.1 hc
  obtain ⟨behind, hbehind⟩ := hpart
  cases hspace : h.space with
  | nil =>
      rw [hspace] at hbehind
      exact Or.inr (List.cons.inj hbehind).1
  | cons d ds =>
      rw [hspace] at hbehind
      have hd : c = d := (List.cons.inj hbehind).1
      exact Or.inl (hw.space_space c (by simp [hspace, hd]))

/-- A line that starts with a title is read as a field of the type that the title names. -/
theorem Header.WellFormed.read?_title {h : Header} (hw : h.WellFormed) {rest : List Char}
    (hrest : ∀ c ∈ rest.head?, isSpace c = true ∨ c = '{') :
    FieldLine.read? (h.title ++ rest) = some ⟨"model", String.ofList h.name,
      (fieldAliasFrom? false (h.title ++ rest)).map String.ofList⟩ := by
  have hword : ∀ c ∈ rest.head?, isWord c = false := by
    intro c hc
    rcases hrest c hc with hspace | rfl
    · exact Unicode.isWord_of_isSpace hspace
    · exact Unicode.isWord_openBrace
  have hmarks : typeMarks rest = [] := by
    apply typeMarks_eq_nil
    intro c hc
    have hbracket : isSpace '[' = false := by decide
    have hquestion : isSpace '?' = false := by decide
    rcases hrest c hc with hspace | rfl
    · constructor <;> rintro rfl <;> simp_all
    · decide
  have hread := FieldLine.read?_append (by decide) (fun _ => isWord_of_mem_keyword) hw.gap_ne_nil
    hw.gap_space hw.name_ne_nil hw.name_word hword
  rw [hmarks, List.append_nil] at hread
  have htitle : h.title ++ rest = keyword ++ (h.gap ++ (h.name ++ rest)) := by simp [title]
  rw [htitle]
  exact hread

/-- A header in a body: the lines before the one with the keyword, what comes before the keyword on
its line, and what follows the brace. -/
structure HeaderLine (b : Block) (h : Header) where
  lines : List (List Char)
  left : List Char
  rest : List Char
  wellFormed : h.WellFormed
  no_lineFeed : ∀ line ∈ lines, '\n' ∉ line
  left_no_lineFeed : '\n' ∉ left
  body_eq : b.body.toList = lines.flatMap (· ++ ['\n']) ++ (left ++ (h.text ++ rest))

namespace HeaderLine

variable {b : Block} {h : Header}

/-- The number of the line on which the keyword stands. -/
def number (l : HeaderLine b h) : Nat := b.bodyLine + l.lines.length

/-- What follows the keyword, from the gap before the name on. -/
def behind (l : HeaderLine b h) : List Char := h.gap ++ (h.name ++ (h.space ++ '{' :: l.rest))

/-- The line of the keyword goes on up to the first line feed behind it. -/
theorem splitOn_body (l : HeaderLine b h) {right : List Char} {after : List (List Char)}
    (hright : l.behind.splitOn '\n' = right :: after) :
    b.body.toList.splitOn '\n' = l.lines ++ (l.left ++ (keyword ++ right)) :: after := by
  have hkeyword : '\n' ∉ keyword := by decide
  have hline : '\n' ∉ l.left ++ keyword := by simp [l.left_no_lineFeed, hkeyword]
  have hbody : l.left ++ (h.text ++ l.rest) = (l.left ++ keyword) ++ l.behind := by
    simp [Header.text, Header.title, behind]
  rw [l.body_eq, Text.splitOn_endedLines_append l.no_lineFeed, hbody,
    Text.splitOn_append_of_not_mem hline, hright, List.modifyHead_cons, List.append_assoc]

/-- The line of the keyword adds what it declares, and trimming keeps the keyword. -/
theorem addsDeclared (l : HeaderLine b h) {right : List Char} {after : List (List Char)}
    (hright : l.behind.splitOn '\n' = right :: after) (mapping : Bool) :
    b.AddsDeclared mapping l.number (Unicode.trim (l.left ++ (keyword ++ right))) ∧
      keyword <:+: Unicode.trim (l.left ++ (keyword ++ right)) :=
  ⟨Block.addsDeclared_of_splitOn (l.splitOn_body hright) mapping,
    Unicode.infix_trim (by decide) head_keyword last_keyword _ _⟩

theorem trim_of_blank (l : HeaderLine b h) (hblank : ∀ c ∈ l.left, isSpace c = true)
    (right : List Char) : Unicode.trim (l.left ++ (keyword ++ right)) =
      keyword ++ right.rdropWhile isSpace :=
  Unicode.trim_append_append (by decide) hblank head_keyword last_keyword right

/-- When the name is on a later line, the line of a keyword that comes first adds nothing. -/
theorem fieldsOnLine_of_mem (l : HeaderLine b h) (hblank : ∀ c ∈ l.left, isSpace c = true)
    (hgap : '\n' ∈ h.gap) (mapping : Bool) : b.fieldsOnLine mapping l.number = [] := by
  obtain ⟨first, later, hgap', hfirst⟩ := List.eq_append_cons_of_mem hgap
  have hright : l.behind.splitOn '\n' =
      first :: (later ++ (h.name ++ (h.space ++ '{' :: l.rest))).splitOn '\n' := by
    rw [behind, hgap', List.append_assoc, List.cons_append,
      List.splitOn_append_cons_self_of_not_mem hfirst]
  have hspace : first.rdropWhile isSpace = [] := by
    rw [List.rdropWhile_eq_nil_iff]
    intro c hc
    exact l.wellFormed.gap_space c (by simp [hgap', hc])
  have hnone : FieldLine.read? keyword = none := by decide +kernel
  rw [number, Block.fieldsOnLine_eq (l.splitOn_body hright), l.trim_of_blank hblank, hspace,
    List.append_nil, hnone]
  rfl

/-- When the name is on the line of a keyword that comes first, the line is read as a field of this
type. -/
theorem fieldsOnLine_of_not_mem (l : HeaderLine b h) (hblank : ∀ c ∈ l.left, isSpace c = true)
    (hgap : '\n' ∉ h.gap) {right : List Char} {after : List (List Char)}
    (hright : l.behind.splitOn '\n' = right :: after) (mapping : Bool) :
    ∃ alias?, LeftmostAlias (Unicode.trim (l.left ++ (keyword ++ right))) alias? ∧
      b.fieldsOnLine mapping l.number =
        [(FieldLine.mk "model" (String.ofList h.name) (alias?.map String.ofList)).field
          mapping] := by
  have hw := l.wellFormed
  have hname : '\n' ∉ h.name := fun hmem => by simpa using hw.name_word _ hmem
  obtain ⟨right', after', hright'⟩ :=
    List.exists_cons_of_ne_nil (List.splitOn_ne_nil '\n' (h.space ++ '{' :: l.rest))
  -- The gap and the name hold no line feed, so the line goes on behind them.
  obtain rfl : right = h.gap ++ (h.name ++ right') := by
    have hsplit : l.behind.splitOn '\n' = (h.gap ++ (h.name ++ right')) :: after' := by
      rw [behind, Text.splitOn_append_of_not_mem hgap, Text.splitOn_append_of_not_mem hname,
        hright', List.modifyHead_cons, List.modifyHead_cons]
    exact (List.cons.inj (hright.symm.trans hsplit)).1
  have hkept : right'.rdropWhile isSpace <+: h.space ++ '{' :: l.rest := by
    have hfirst : (h.space ++ '{' :: l.rest).splitOn '\n' = [] ++ right' :: after' := hright'
    obtain ⟨tail, htail⟩ := Text.exists_rest_of_splitOn_eq hfirst
    exact (List.rdropWhile_prefix _ _).trans ⟨tail, htail.symm⟩
  have htrim : Unicode.trim (l.left ++ (keyword ++ (h.gap ++ (h.name ++ right')))) =
      h.title ++ right'.rdropWhile isSpace := by
    rw [← Unicode.trim_append_append (by simp [Header.title, keyword]) hblank h.head_title
      hw.last_title]
    simp [Header.title]
  refine ⟨_, leftmostAlias_line _, ?_⟩
  rw [number, Block.fieldsOnLine_eq (l.splitOn_body hright), htrim,
    hw.read?_title (hw.head_behind_name hkept)]
  rfl

end HeaderLine

section Swallowed

variable {text : String} {i : Nat} {h : Header} {b : Block}

/-- A header that lies between the braces of a block is reported as unclosed. -/
theorem mem_unclosedHeaders_of_encloses (hh : HeaderAt text.toList i h) (hb : b ∈ blocks text)
    (henc : b.Encloses (placeAt text.toList i) h) :
    PlacedHeader.of (placeAt text.toList i, h) ∈ unclosedHeaders text := by
  refine mem_unclosedHeaders_iff.2 ⟨mem_headers_iff.2 ⟨i, h, hh, rfl⟩, fun hstart => ?_⟩
  exact (exists_block_start_iff hh).1 hstart (Or.inl ⟨b, hb, henc⟩)

/-- The line of a header between the braces of a block. Where the keyword opens its line, only white
space comes before it there. -/
theorem exists_headerLine (hh : HeaderAt text.toList i h) (hb : b ∈ blocks text)
    (henc : b.Encloses (placeAt text.toList i) h) :
    ∃ l : HeaderLine b h, l.number = (placeAt text.toList i).line ∧
      (b.OpensLine (placeAt text.toList i) → ∀ c ∈ l.left, isSpace c = true) := by
  obtain ⟨j, t, ht, rfl⟩ := exists_blockAt_of_mem_blocks hb
  obtain ⟨hle, hin⟩ := (encloses_iff hh ht).1 henc
  obtain ⟨d, rfl⟩ := Nat.exists_eq_add_of_le hle
  have hbody : (Block.of (placeAt text.toList j, t)).body.toList = t.body := String.toList_ofList
  obtain ⟨rest, hrest⟩ := hh.prefix_drop_body ht (by omega)
  have hbefore : (t.body.take d).length = d := List.length_take_of_le (by omega)
  have hplace : placeAt text.toList (j + t.header.text.length + d) =
      (Block.of (placeAt text.toList j, t)).bodyStart.advance (t.body.take d) := by
    rw [ht.bodyStart_eq, advance_placeAt ((List.take_prefix d _).trans ht.body_prefix), hbefore]
  obtain ⟨lines, left, htake, hlines, hleft⟩ := Text.exists_endedLines (t.body.take d)
  refine ⟨⟨lines, left, rest, hh.1, hlines, hleft, ?_⟩, ?_, ?_⟩
  · rw [hbody, hrest, ← List.append_assoc, ← htake, List.take_append_drop]
  · have hcount : (t.body.take d).count '\n' = lines.length := by
      rw [htake, List.count_append, Text.count_endedLines hlines, List.count_eq_zero.2 hleft,
        Nat.add_zero]
    rw [hplace, Place.advance_line, hcount]
    rfl
  · rintro ⟨before, blanks, hpre, hended, hblanks, hopen⟩
    rw [hbody] at hpre
    -- The place of the keyword tells how many characters of the body come before it.
    have hd : d = (before ++ blanks).length := by
      rw [ht.bodyStart_eq, advance_placeAt (hpre.trans ht.body_prefix)] at hopen
      have hheader := (Header.standsAt_iff.2 ht.headerAt).lt_length Header.shape_faithful
      have hlen := (hpre.trans ht.body_prefix).length_le
      simp only [Header.shape] at hheader
      rw [List.length_drop] at hlen
      have heq := placeAt_inj hh.le_length (by omega) hopen
      omega
    obtain ⟨lines', hlines', hfeed⟩ := Text.exists_eq_endedLines hended
    have hsame : lines.flatMap (· ++ ['\n']) ++ left = lines'.flatMap (· ++ ['\n']) ++ blanks := by
      rw [← htake, ← hlines', hd, ← List.prefix_iff_eq_take.1 hpre]
    have hblanks' : '\n' ∉ blanks := fun hmem => (hblanks _ hmem).2 rfl
    obtain ⟨-, rfl⟩ := Text.endedLines_append_inj hlines hleft hfeed hblanks' hsame
    exact fun c hc => (hblanks c hc).1

/-- A header between the braces of a block is reported as skipped. The line of the body on which its
keyword stands nevertheless adds to the record of the block the field that it declares, if it
declares one. Where the keyword opens the line, it does: the type is the name of the header and the
leftmost alias of the line counts, unless the name stands on a later line. -/
theorem swallowed_header_read_as_field {filename : String} {mapping : Bool} {c : Catalogue}
    (hread : read text filename mapping = .ok c) (hh : HeaderAt text.toList i h)
    (hb : b ∈ blocks text) (henc : b.Encloses (placeAt text.toList i) h) :
    (PlacedHeader.of (placeAt text.toList i, h)).complaint filename ∈ c.diagnostics ∧
    ∃ line, b.AddsDeclared mapping (placeAt text.toList i).line line ∧ keyword <:+: line ∧
      (b.OpensLine (placeAt text.toList i) →
        keyword <+: line ∧
        ('\n' ∈ h.gap → b.fieldsOnLine mapping (placeAt text.toList i).line = []) ∧
        ('\n' ∉ h.gap → ∃ alias?, LeftmostAlias line alias? ∧
          let field := (FieldLine.mk "model" (String.ofList h.name)
            (alias?.map String.ofList)).field mapping
          b.fieldsOnLine mapping (placeAt text.toList i).line = [field] ∧
            field ∈ (b.record mapping).fields)) := by
  obtain ⟨-, rfl⟩ := read_eq_ok_iff.1 hread
  obtain ⟨l, hnumber, hopens⟩ := exists_headerLine hh hb henc
  obtain ⟨right, after, hright⟩ := List.exists_cons_of_ne_nil (List.splitOn_ne_nil '\n' l.behind)
  obtain ⟨hadds, hkeyword⟩ := l.addsDeclared hright mapping
  rw [← hnumber]
  refine ⟨?_, _, hadds, hkeyword, fun hopen => ⟨?_, ?_, fun hgap => ?_⟩⟩
  · rw [Catalogue.diagnostics_noteAll]
    exact List.mem_append_right _
      (List.mem_map_of_mem (mem_unclosedHeaders_of_encloses hh hb henc))
  · rw [l.trim_of_blank (hopens hopen)]
    exact List.prefix_append _ _
  · exact fun hgap => l.fieldsOnLine_of_mem (hopens hopen) hgap mapping
  · obtain ⟨alias?, halias, hfields⟩ :=
      l.fieldsOnLine_of_not_mem (hopens hopen) hgap hright mapping
    refine ⟨alias?, halias, hfields, hadds.sublist.mem ?_⟩
    simp [hfields]

end Swallowed

/-- A schema whose second block is opened before the first one is closed. -/
def nestedSchema : String := "model A \x7b\n  x Int\nmodel B \x7b\n\x7d"

/-- The header of the second block. -/
def nestedHeader : Header := ⟨[' '], ['B'], [' ']⟩

/-- The one block that is found. -/
def nestingBlock : Block := ⟨"A", "\n  x Int\nmodel B \x7b\n", ⟨0, 1⟩, ⟨9, 1⟩⟩

theorem headerAt_nestedHeader : HeaderAt nestedSchema.toList 18 nestedHeader := by decide +kernel

theorem mem_blocks_nestingBlock : nestingBlock ∈ blocks nestedSchema := by decide +kernel

theorem encloses_nestedHeader :
    nestingBlock.Encloses (placeAt nestedSchema.toList 18) nestedHeader := by decide +kernel

theorem read_nestedSchema : read nestedSchema "schema" false =
    .ok ⟨["A"], [("A", [⟨"x", "Int"⟩, ⟨"model", "B"⟩])],
      [⟨.unclosedBlock "B", some "schema:3"⟩]⟩ := by decide +kernel

/-- The second header is reported and read as a field. -/
theorem swallowed_header_read_as_field_nested :
    nestingBlock.OpensLine (placeAt nestedSchema.toList 18) ∧
    ∃ c, read nestedSchema "schema" false = .ok c ∧
      ⟨.unclosedBlock "B", some "schema:3"⟩ ∈ c.diagnostics ∧
      nestingBlock.fieldsOnLine false 3 = [⟨"model", "B"⟩] := by
  have hopen : nestingBlock.OpensLine (placeAt nestedSchema.toList 18) :=
    ⟨"\n  x Int\n".toList, [], by decide +kernel, Or.inr (by decide +kernel), by simp,
      by decide +kernel⟩
  obtain ⟨hreported, line, -, -, hopened⟩ := swallowed_header_read_as_field read_nestedSchema
    headerAt_nestedHeader mem_blocks_nestingBlock encloses_nestedHeader
  obtain ⟨-, -, hfield⟩ := hopened hopen
  obtain ⟨alias?, -, hline, -⟩ := hfield (by decide)
  exact ⟨hopen, _, read_nestedSchema, hreported, hline⟩

/-- A header that is reported as skipped can add a field to the record of the block around it. -/
theorem skipped_header_adds_field :
    ¬∀ (text filename : String) (mapping : Bool) (c : Catalogue),
      read text filename mapping = .ok c → ∀ i h, HeaderAt text.toList i h →
        PlacedHeader.of (placeAt text.toList i, h) ∈ unclosedHeaders text →
          ∀ b ∈ blocks text, b.Encloses (placeAt text.toList i) h →
            b.fieldsOnLine mapping (placeAt text.toList i).line = [] := by
  intro hall
  have hnone := hall nestedSchema "schema" false _ read_nestedSchema 18 nestedHeader
    headerAt_nestedHeader (mem_unclosedHeaders_of_encloses headerAt_nestedHeader
      mem_blocks_nestingBlock encloses_nestedHeader)
    nestingBlock mem_blocks_nestingBlock encloses_nestedHeader
  have hone : nestingBlock.fieldsOnLine false (placeAt nestedSchema.toList 18).line =
      [⟨"model", "B"⟩] := by decide +kernel
  rw [hone] at hnone
  exact List.cons_ne_nil _ _ hnone

end SchemaScribe.Schema
