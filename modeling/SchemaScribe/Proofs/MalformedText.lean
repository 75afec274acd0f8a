import SchemaScribe.Proofs.CatalogueOfBlocks
import SchemaScribe.Proofs.HeaderAccount

/-!
# Texts without a block

A text is malformed exactly when no closing brace follows any of its headers, whether or not aliases
are in force. The error then points at the first header of the text: the bytes of its span begin and
end between characters, and they are the keyword, the white space behind it and the name.
-/
namespace SchemaScribe.Schema

/-- The bytes of the text that a span takes up. -/
def Span.bytes (s : Span) (text : String) : ByteArray :=
  text.toByteArray.extract s.offset (s.offset + s.length)

/-- Both ends of a span lie between characters of the text. -/
def Span.OnBoundaries (s : Span) (text : String) : Prop :=
  String.Pos.Raw.IsValid text ⟨s.offset⟩ ∧ String.Pos.Raw.IsValid text ⟨s.offset + s.length⟩

/-- A header of the text with no other header before it. -/
structure FirstHeader (cs : List Char) (i : Nat) (h : Header) : Prop where
  headerAt : HeaderAt cs i h
  first : ∀ j h', HeaderAt cs j h' → i ≤ j

/-- A header has no closing brace of its own, so one that comes later comes behind its brace. -/
theorem HeaderAt.closeBrace_mem_drop_iff {cs : List Char} {i : Nat} {h : Header}
    (hh : HeaderAt cs i h) : '}' ∈ cs.drop (i + h.text.length) ↔ '}' ∈ cs.drop i := by
  obtain ⟨rest, hrest⟩ := hh.2.2
  have hbehind : cs.drop (i + h.text.length) = rest := by
    rw [← List.drop_drop, ← hrest, List.drop_left]
  rw [hbehind, ← hrest, List.mem_append]
  exact (or_iff_right hh.1.closeBrace_not_mem).symm

/-- A text has no block when no closing brace follows any of its headers. -/
theorem blocks_eq_nil_iff {text : String} :
    blocks text = [] ↔
      ∀ i h, HeaderAt text.toList i h → '}' ∉ text.toList.drop (i + h.text.length) := by
  constructor
  · intro hnil i h hh hclose
    have hstart := (exists_block_start_iff hh).2
    simp only [hnil, List.not_mem_nil, false_and, exists_false, false_or, not_not] at hstart
    exact hstart (hh.closeBrace_mem_drop_iff.1 hclose)
  · intro hopen
    rw [List.eq_nil_iff_forall_not_mem]
    intro b hb
    obtain ⟨i, t, ht, -⟩ := exists_blockAt_of_mem_blocks hb
    exact hopen i t.header ht.headerAt (ht.headerAt.closeBrace_mem_drop_iff.2 ht.closeBrace_mem)

theorem read_eq_error_iff {text filename : String} {mapping : Bool} {e : Malformed} :
    read text filename mapping = .error e ↔
      blocks text = [] ∧ e = ⟨filename, firstTitle? text⟩ := by
  by_cases hnil : blocks text = []
  · have hread : read text filename mapping = .error ⟨filename, firstTitle? text⟩ := by
      simp [read, hnil, Catalogue.noteAll, Catalogue.isEmpty, Catalogue.empty]
    simp [hread, hnil, eq_comm]
  · simp [read_eq_ok_iff.2 ⟨hnil, rfl⟩, hnil]

/-- The header at the head of the list is the first one of the text. -/
theorem exists_firstHeader_of_head? {text : String} {p : PlacedHeader}
    (hp : (headers text).head? = some p) :
    ∃ i h, FirstHeader text.toList i h ∧ p = .of (placeAt text.toList i, h) := by
  obtain ⟨rest, hrest⟩ := List.head?_eq_some_iff.1 hp
  obtain ⟨i, h, hh, hph⟩ := mem_headers_iff.1 (List.mem_of_head? hp)
  refine ⟨i, h, ⟨hh, fun j h' hh' => ?_⟩, hph⟩
  have hmem : PlacedHeader.of (placeAt text.toList j, h') ∈ headers text :=
    mem_headers_iff.2 ⟨j, h', hh', rfl⟩
  have hsorted := headers_pairwise text
  rw [hrest] at hmem hsorted
  have hle : p.start.offset ≤ (placeAt text.toList j).offset := by
    rcases List.mem_cons.1 hmem with heq | hlater
    · exact Nat.le_of_eq (congrArg (·.start.offset) heq.symm)
    · exact Nat.le_of_lt ((List.pairwise_cons.1 hsorted).1 _ hlater)
  rw [hph] at hle
  exact (offset_placeAt_le_iff hh.le_length hh'.le_length).1 hle

theorem firstTitle?_eq_none_iff {text : String} :
    firstTitle? text = none ↔ ∀ i h, ¬HeaderAt text.toList i h := by
  rw [firstTitle?, Option.map_eq_none_iff, List.head?_eq_none_iff, List.eq_nil_iff_forall_not_mem]
  constructor
  · intro hnone i h hh
    exact hnone _ (mem_headers_iff.2 ⟨i, h, hh, rfl⟩)
  · intro hnone p hp
    obtain ⟨i, h, hh, -⟩ := mem_headers_iff.1 hp
    exact hnone i h hh

/-- The span of what stands at a position of the text. -/
def spanOf (cs : List Char) (i : Nat) (part : List Char) : Span :=
  ⟨(placeAt cs i).offset, (String.ofList part).utf8ByteSize⟩

section Spans

variable {text : String} {i : Nat} {part : List Char}

/-- The place of a position lies between characters. -/
theorem isValid_offset_placeAt (text : String) (i : Nat) :
    String.Pos.Raw.IsValid text ⟨(placeAt text.toList i).offset⟩ := by
  rw [String.Pos.Raw.isValid_iff_exists_take_toList]
  exact ⟨i, offset_placeAt text.toList i⟩

theorem onBoundaries_spanOf (hpart : part <+: text.toList.drop i) :
    (spanOf text.toList i part).OnBoundaries text := by
  refine ⟨isValid_offset_placeAt text i, ?_⟩
  have hend : (spanOf text.toList i part).offset + (spanOf text.toList i part).length =
      (placeAt text.toList (i + part.length)).offset := by
    rw [← advance_placeAt hpart, Place.advance_offset]
    rfl
  rw [hend]
  exact isValid_offset_placeAt text _

/-- The bytes of the middle part of a text. -/
theorem extract_toByteArray_append (before part after : String) :
    (before ++ part ++ after).toByteArray.extract before.utf8ByteSize
      (before.utf8ByteSize + part.utf8ByteSize) = part.toByteArray := by
  rw [String.toByteArray_append, String.toByteArray_append, ← String.size_toByteArray,
    ← String.size_toByteArray, ← ByteArray.size_append, ByteArray.extract_append_size_left]
  exact ByteArray.extract_append_eq_right rfl ByteArray.size_append

/-- The bytes in the span of what stands at a position are its encoding. -/
theorem bytes_spanOf (hpart : part <+: text.toList.drop i) :
    (spanOf text.toList i part).bytes text = (String.ofList part).toByteArray := by
  obtain ⟨rest, hrest⟩ := hpart
  have htext : text =
      String.ofList (text.toList.take i) ++ String.ofList part ++ String.ofList rest := by
    rw [← String.ofList_append, ← String.ofList_append, List.append_assoc, hrest,
      List.take_append_drop, String.ofList_toList]
  have hbytes := extract_toByteArray_append (String.ofList (text.toList.take i))
    (String.ofList part) (String.ofList rest)
  rwa [← htext, ← offset_placeAt] at hbytes

end Spans

/-- Reading fails exactly when no closing brace follows any header of the text, with and without
aliases. The error has a span when the text has a header. The span then begins and ends between
characters, its bytes are the keyword, the white space and the name of the first header, and no
closing brace follows that header. -/
theorem read_fails_iff_unclosed (text filename : String) :
    (∀ mapping, (∃ e, read text filename mapping = .error e) ↔
      ∀ i h, HeaderAt text.toList i h → '}' ∉ text.toList.drop (i + h.text.length)) ∧
    ∀ mapping e, read text filename mapping = .error e →
      e.filename = filename ∧
      (e.span? = none ↔ ∀ i h, ¬HeaderAt text.toList i h) ∧
      ∀ s, e.span? = some s → ∃ i h, FirstHeader text.toList i h ∧
        '}' ∉ text.toList.drop (i + h.text.length) ∧
        s.offset = (placeAt text.toList i).offset ∧ s.OnBoundaries text ∧
        s.bytes text = (String.ofList (keyword ++ h.gap ++ h.name)).toByteArray := by
  refine ⟨fun mapping => ?_, fun mapping e hread => ?_⟩
  · simp only [read_eq_error_iff, exists_and_left, exists_eq, and_true]
    exact blocks_eq_nil_iff
  · obtain ⟨hnil, rfl⟩ := read_eq_error_iff.1 hread
    refine ⟨rfl, firstTitle?_eq_none_iff, fun s hs => ?_⟩
    obtain ⟨p, hp, rfl⟩ := Option.map_eq_some_iff.1 hs
    obtain ⟨i, h, hfirst, rfl⟩ := exists_firstHeader_of_head? hp
    have htitle : h.title <+: text.toList.drop i := by
      refine List.IsPrefix.trans ?_ hfirst.headerAt.2.2
      simp [Header.text]
    exact ⟨i, h, hfirst, blocks_eq_nil_iff.1 hnil i h hfirst.headerAt, rfl,
      onBoundaries_spanOf htitle, bytes_spanOf htitle⟩

/-- A header behind and with characters of two bytes, and no brace that closes it. -/
theorem read_fails_iff_unclosed_accented :
    let text := "\u00e9\nmodel \u00dcnit \x7b"
    read text "schema" true = .error ⟨"schema", some ⟨3, 11⟩⟩ ∧
      ∃ i h, FirstHeader text.toList i h ∧ '}' ∉ text.toList.drop (i + h.text.length) ∧
        3 = (placeAt text.toList i).offset ∧ (Span.mk 3 11).OnBoundaries text ∧
        (Span.mk 3 11).bytes text =
          (String.ofList (keyword ++ h.gap ++ h.name)).toByteArray := by
  intro text
  have hread : read text "schema" true = .error ⟨"schema", some ⟨3, 11⟩⟩ := by decide +kernel
  exact ⟨hread, ((read_fails_iff_unclosed text "schema").2 true _ hread).2.2 _ rfl⟩

end SchemaScribe.Schema
