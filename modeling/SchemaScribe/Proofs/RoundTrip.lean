import SchemaScribe.Proofs.CatalogueOfBlocks
import SchemaScribe.Proofs.PrintedSchema

/-!
# Reading back a printed schema

The blocks of a printed schema are the blocks it was printed from, and it has no header without a
block. Reading it therefore gives the names and the fields it was printed with.
-/
namespace SchemaScribe.Schema

open Unicode (isWord)

/-- A printed block stands where it was put, if no word ends there. -/
theorem BlockSource.blockAt (b : BlockSource) (before after : List Char)
    (hbefore : before.getLast?.any isWord = false) :
    BlockAt (before ++ (b.blockText.text ++ after)) before.length b.blockText := by
  have hpre : b.blockText.text <+:
      (before ++ (b.blockText.text ++ after)).drop before.length := by
    simp
  have hkeyword := b.blockText.keyword_prefix.trans hpre
  refine ⟨b.wellFormed_blockText, (wordBoundary_iff hkeyword).2 ?_, hpre⟩
  simpa using hbefore

/-- Blocks that each come behind a line feed. -/
def feedParts (bs : List BlockSource) : List (List Char × BlockText) :=
  bs.map fun b => (['\n'], b.blockText)

theorem partsText_feedParts (bs : List BlockSource) :
    Layout.partsText (feedParts bs) ++ ['\n'] = '\n' :: bs.flatMap BlockSource.text := by
  induction bs with
  | nil => rfl
  | cons b bs ih =>
      have hcons : feedParts (b :: bs) = (['\n'], b.blockText) :: feedParts bs := rfl
      simp only [hcons, Layout.partsText_cons, List.append_assoc, ih, List.flatMap_cons,
        BlockSource.text_eq, List.cons_append, List.nil_append]

/-- Behind the first block of a printed schema, a block starts after each line feed that ends a
block, and nowhere else outside the blocks. -/
theorem leftmost_feedParts (bs : List BlockSource) (before : List Char) :
    Layout.Leftmost (before ++ '\n' :: bs.flatMap BlockSource.text) before.length
      (feedParts bs) := by
  induction bs generalizing before with
  | nil =>
      intro i hi b hb
      have hclose := hb.closeBrace_mem
      obtain ⟨d, rfl⟩ := Nat.exists_eq_add_of_le hi
      rw [← List.drop_drop, List.drop_left] at hclose
      simpa using List.mem_of_mem_drop hclose
  | cons b bs ih =>
      have htext : before ++ '\n' :: (b :: bs).flatMap BlockSource.text =
          (before ++ ['\n']) ++ (b.blockText.text ++ '\n' :: bs.flatMap BlockSource.text) := by
        simp [BlockSource.text_eq]
      refine ⟨fun i hle hlt b' hb' => ?_, ?_, ?_⟩
      · have hi : i = before.length := by
          simp only [List.length_singleton] at hlt
          omega
        have hkeyword := b'.keyword_prefix.trans hb'.2.2
        simp [hi, keyword] at hkeyword
      · rw [htext]
        simpa using b.blockAt (before ++ ['\n']) ('\n' :: bs.flatMap BlockSource.text) (by simp)
      · rw [htext, ← List.append_assoc, ← List.length_append, ← List.length_append]
        exact ih (before ++ ['\n'] ++ b.blockText.text)

/-- The layout of a printed schema. -/
theorem divides_printed (b : BlockSource) (bs : List BlockSource) :
    Layout.Divides ⟨([], b.blockText) :: feedParts bs, ['\n']⟩ (printed (b :: bs)).toList := by
  have htext : (printed (b :: bs)).toList =
      b.blockText.text ++ '\n' :: bs.flatMap BlockSource.text := by
    simp [printed, BlockSource.text_eq]
  refine ⟨?_, ?_, ?_, ?_⟩
  · simp only [Layout.text, Layout.partsText_cons, List.nil_append, List.append_assoc,
      partsText_feedParts, htext]
  · intro i _ hlt
    simp at hlt
  · rw [htext]
    simpa using b.blockAt [] ('\n' :: bs.flatMap BlockSource.text) (by simp)
  · rw [htext]
    simpa using leftmost_feedParts bs b.blockText.text

/-- What is the same for every block that has a printed name and body is known of all blocks of a
printed schema. -/
theorem map_blocks_printed {β : Type} {f : Block → β} {g : BlockSource → β}
    (h : ∀ b x, b.Describes x → f x = g b) (bs : List BlockSource) :
    (blocks (printed bs)).map f = bs.map g := by
  cases bs with
  | nil => rfl
  | cons b bs =>
      rw [(divides_printed b bs).blocks_eq, List.map_map, List.map_cons, Layout.hitsFrom,
        List.map_cons]
      refine congrArg₂ _ (h b _ ⟨rfl, rfl⟩) ?_
      exact Layout.map_hitsFrom (fun i x => h x _ ⟨rfl, rfl⟩) _ bs

theorem exists_printed_eq {bs : List BlockSource} (hne : bs ≠ []) :
    ∃ before, (printed bs).toList = before ++ ['}', '\n'] := by
  obtain ⟨front, b, rfl⟩ := List.eq_nil_or_concat' bs |>.resolve_left hne
  refine ⟨front.flatMap BlockSource.text ++ (b.blockText.header.text ++ b.blockText.body), ?_⟩
  simp [printed, BlockSource.text_eq, BlockText.text]

/-- Every header of a printed schema starts a block. -/
theorem unclosedHeaders_printed (bs : List BlockSource) : unclosedHeaders (printed bs) = [] := by
  rw [List.eq_nil_iff_forall_not_mem]
  intro p hp
  obtain ⟨hheader, hstart⟩ := mem_unclosedHeaders_iff.1 hp
  obtain ⟨i, h, hh, rfl⟩ := mem_headers_iff.1 hheader
  refine hstart ((exists_block_start_iff hh).2 ?_)
  rintro (⟨x, hx, henc⟩ | hclose)
  -- A printed body has no opening brace, and a printed schema ends with a closing one.
  · have hmem : x.body ∈ (blocks (printed bs)).map (·.body) := List.mem_map_of_mem hx
    rw [map_blocks_printed (fun b x hbx => hbx.body_eq) bs] at hmem
    obtain ⟨b, -, hb⟩ := List.mem_map.1 hmem
    have hbrace := openBrace_mem_of_encloses hh hx henc
    rw [← hb, String.toList_ofList] at hbrace
    exact b.not_mem_body (Or.inl rfl) hbrace
  · have hlen := hh.2.2.length_le
    have hpos : 2 ≤ h.text.length := by simp [Header.text, Header.title, keyword]
    rw [List.length_drop] at hlen
    have hne : bs ≠ [] := by
      rintro rfl
      have hzero : (printed []).toList.length = 0 := rfl
      omega
    obtain ⟨before, hbefore⟩ := exists_printed_eq hne
    have hi : i ≤ before.length := by
      simp only [hbefore, List.length_append, List.length_cons, List.length_nil] at hlen
      omega
    rw [hbefore, List.drop_append_of_le_length hi] at hclose
    simp at hclose

/-- Reading a printed schema gives back what it was printed from. The names are those of its blocks
in order, with the aliases in force exactly when they are asked for; each name has the fields of the
last block of this name. Nothing is complained of, and each block whose name came before is told. -/
theorem read_printed (bs : List BlockSource) (hne : bs ≠ []) (filename : String) (mapping : Bool) :
    ∃ c, read (printed bs) filename mapping = .ok c ∧
      c.names = bs.map (·.recordName mapping) ∧
      (∀ name, c.fields? name = (bs.reverse.find? (·.recordName mapping = name)).map
        fun b => b.fields.map (·.field mapping)) ∧
      (∀ d ∈ c.diagnostics, d.severity ≠ .warning) ∧
      (c.diagnostics.filter (·.severity = .info)).map (·.finding) =
        (repeated (bs.map (·.recordName mapping))).map .redeclaredModel := by
  have hnames : (blocks (printed bs)).map (·.recordName mapping) =
      bs.map (·.recordName mapping) :=
    map_blocks_printed (fun _ _ hbx => hbx.recordName_eq mapping) bs
  have hentries : (blocks (printed bs)).map (Catalogue.entry mapping) =
      bs.map fun b => (b.recordName mapping, b.fields.map (·.field mapping)) :=
    map_blocks_printed (fun _ _ hbx =>
      Prod.ext (hbx.recordName_eq mapping) (hbx.fields_eq mapping)) bs
  have hcomplaints : (blocks (printed bs)).map (·.complaints filename) = bs.map fun _ => [] :=
    map_blocks_printed (fun _ _ hbx => hbx.complaints_eq filename) bs
  have hblocks : blocks (printed bs) ≠ [] := by
    intro hnil
    rw [hnil, List.map_nil] at hnames
    exact hne (List.map_eq_nil_iff.1 hnames.symm)
  have hread : read (printed bs) filename mapping =
      .ok (Catalogue.ofBlocks filename mapping (blocks (printed bs))) :=
    read_eq_ok_iff.2 ⟨hblocks, by simp [unclosedHeaders_printed, Catalogue.noteAll]⟩
  refine ⟨_, hread, ?_, fun name => ?_, fun d hd hwarning => ?_, ?_⟩
  · rw [Catalogue.names_ofBlocks, hnames]
  · rw [Catalogue.fields?, Catalogue.fieldsByName_ofBlocks, hentries, OrderedEntries.get?_ofPairs,
      ← List.map_reverse, List.find?_map, Option.map_map]
    rfl
  · have hmem : d ∈ (Catalogue.ofBlocks filename mapping (blocks (printed bs))).diagnostics.filter
        (·.severity = .warning) := List.mem_filter.2 ⟨hd, decide_eq_true hwarning⟩
    rw [Catalogue.warnings_ofBlocks, List.flatMap_def, hcomplaints] at hmem
    simp at hmem
  · rw [Catalogue.infos_ofBlocks, hnames]

/-- Two blocks that an alias merges, with words and aliases that look like other parts of a
schema. -/
theorem read_printed_merged :
    let word : Word := ⟨['m', 'o', 'd', 'e', 'l'], by decide,
      List.all_eq_true.1 (by decide +kernel)⟩
    let other : Alias := ⟨['/', '/', '@', 'm', 'a', 'p', '('], by decide, by decide, by decide,
      by decide, by decide⟩
    let bs : List BlockSource := [⟨word, [⟨word, word, .plain, none⟩], some other⟩,
      ⟨word, [⟨word, word, .optionalList, some other⟩, ⟨word, word, .list, none⟩], some other⟩]
    bs ≠ [] ∧ ∃ c, read (printed bs) "schema" true = .ok c ∧ c.names = ["//@map(", "//@map("] ∧
      c.fields? "//@map(" = some [⟨"//@map(", "model[]?"⟩, ⟨"model", "model[]"⟩] ∧
      (∀ d ∈ c.diagnostics, d.severity ≠ .warning) ∧
      (c.diagnostics.filter (·.severity = .info)).map (·.finding) =
        [.redeclaredModel "//@map("] := by
  intro word other bs
  have hne : bs ≠ [] := List.cons_ne_nil _ _
  obtain ⟨c, hread, hnames, hfields, hwarnings, hinfos⟩ := read_printed bs hne "schema" true
  refine ⟨hne, c, hread, ?_, ?_, hwarnings, ?_⟩
  · rw [hnames]
    decide +kernel
  · rw [hfields]
    decide +kernel
  · rw [hinfos]
    decide +kernel

end SchemaScribe.Schema
