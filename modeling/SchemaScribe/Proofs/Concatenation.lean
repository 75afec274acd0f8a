import SchemaScribe.Proofs.CatalogueOfBlocks
import SchemaScribe.Proofs.HeaderAccount
import SchemaScribe.Proofs.LineReading

/-!
# One schema behind another

A text that ends with a closing brace is not read differently when another text follows it, and the
text that follows is read as it is read alone, with its places moved on. Nothing that is recognised
reaches over the brace, and the brace is no word character, so the keyword may come right behind it.
Names are therefore listed one text after the other, and the later text decides on the fields of the
names that it declares.
-/
namespace SchemaScribe.Schema

open Unicode (isWord)

/-- A place of a text when other characters are put before the text. -/
def Place.behind (p : Place) (before : List Char) : Place :=
  ⟨p.offset + (String.ofList before).utf8ByteSize, p.line + before.count '\n'⟩

def Block.behind (b : Block) (before : List Char) : Block :=
  { b with start := b.start.behind before, bodyStart := b.bodyStart.behind before }

def PlacedHeader.behind (h : PlacedHeader) (before : List Char) : PlacedHeader :=
  { h with start := h.start.behind before }

namespace Place

theorem eq_of_offset_line {p q : Place} (hoffset : p.offset = q.offset) (hline : p.line = q.line) :
    p = q := by
  cases p
  cases q
  simp_all

theorem behind_inj {p q : Place} {before : List Char} (h : p.behind before = q.behind before) :
    p = q := by
  have hoffset := congrArg Place.offset h
  have hline := congrArg Place.line h
  simp only [behind] at hoffset hline
  exact eq_of_offset_line (by omega) (by omega)

/-- Moving on from a place and putting characters before the text can be done in either order. -/
theorem advance_behind (p : Place) (before cs : List Char) :
    (p.behind before).advance cs = (p.advance cs).behind before := by
  apply eq_of_offset_line
  · simp only [advance_offset, behind]
    omega
  · simp only [advance_line, behind]
    omega

end Place

theorem placeAt_append_left {a : List Char} (b : List Char) {i : Nat} (hi : i ≤ a.length) :
    placeAt (a ++ b) i = placeAt a i := by
  rw [placeAt, placeAt, List.take_append_of_le_length hi]

theorem placeAt_append_right (a b : List Char) (j : Nat) :
    placeAt (a ++ b) (a.length + j) = (placeAt b j).behind a := by
  have hstart : Place.start.advance a = Place.start.behind a := by
    apply Place.eq_of_offset_line
    · rw [Place.advance_offset, Place.behind]
    · rw [Place.advance_line, Place.behind]
  rw [placeAt, placeAt, List.take_length_add_append, Place.advance_append, hstart,
    Place.advance_behind]

namespace Shape

variable {α : Type} {shape : Shape α} {a b : List Char}

/-- What is read does not depend on what comes behind a closing brace. -/
def StopsAtBrace (shape : Shape α) : Prop :=
  ∀ before after, shape.read? (before ++ '}' :: after) = shape.read? (before ++ ['}'])

/-- What is read by its form stops at a closing brace, if only its last character can be one. -/
theorem stopsAtBrace_of_read? {form : α → Prop}
    (hread : ∀ {cs x}, shape.read? cs = some x ↔ form x ∧ shape.text x <+: cs)
    (hclose : ∀ {x}, form x → '}' ∉ (shape.text x).dropLast) : shape.StopsAtBrace := by
  intro before after
  refine Option.ext fun x => ?_
  rw [hread, hread]
  refine and_congr_right fun hx => ⟨fun hpre => ?_, fun hpre => ?_⟩
  · have hlen := length_le_of_prefix ((List.dropLast_prefix _).trans hpre) (hclose hx)
    rw [List.length_dropLast] at hlen
    have hbrace : before ++ ['}'] <+: before ++ '}' :: after := ⟨after, by simp⟩
    refine List.prefix_of_prefix_length_le hpre hbrace ?_
    rw [List.length_append, List.length_singleton]
    omega
  · exact hpre.trans ⟨after, by simp⟩

/-- What stands in the first text stands there with and without the second one. -/
theorem standsAt_append_left_iff (hstop : shape.StopsAtBrace) (ha : a.getLast? = some '}') {i : Nat}
    (hi : i < a.length) {x : α} : shape.StandsAt (a ++ b) i x ↔ shape.StandsAt a i x := by
  obtain ⟨front, rfl⟩ := List.getLast?_eq_some_iff.1 ha
  rw [List.length_append, List.length_singleton] at hi
  have hfront : i ≤ front.length := by omega
  rw [StandsAt, StandsAt, List.take_append_of_le_length (by simp; omega), List.append_assoc,
    List.drop_append_of_le_length hfront, List.drop_append_of_le_length hfront,
    List.singleton_append, hstop]

/-- What stands in the second text stands there alone and behind the first one. -/
theorem standsAt_append_right_iff (ha : a.getLast? = some '}') {j : Nat} {x : α} :
    shape.StandsAt (a ++ b) (a.length + j) x ↔ shape.StandsAt b j x := by
  have hword : (a ++ b.take j).getLast?.any isWord = (b.take j).getLast?.any isWord := by
    rw [List.getLast?_append, ha]
    cases (b.take j).getLast? <;> simp
  rw [StandsAt, StandsAt, List.take_length_add_append, List.drop_length_add_append, hword]

/-- The scans of the two texts make up the scan of both together. -/
theorem ScanFrom.append (hf : shape.Faithful) (hstop : shape.StopsAtBrace)
    (ha : a.getLast? = some '}') {hits others : List (Nat × α)} (hscan : shape.IsScan a hits)
    (hscan' : shape.IsScan b others) :
    shape.IsScan (a ++ b) (hits ++ others.map fun hit => (a.length + hit.1, hit.2)) where
  from_le _ _ := Nat.zero_le _
  stands hit hmem := by
    rcases List.mem_append.1 hmem with hleft | hright
    · have hstands := hscan.stands hit hleft
      have hlen := hstands.lt_length hf
      exact (standsAt_append_left_iff hstop ha (by omega)).2 hstands
    · obtain ⟨other, hother, rfl⟩ := List.mem_map.1 hright
      exact (standsAt_append_right_iff ha).2 (hscan'.stands other hother)
  apart := by
    rw [List.pairwise_append, List.pairwise_map]
    refine ⟨hscan.apart, hscan'.apart.imp ?_, fun hit hmem next hnext => ?_⟩
    · intro hit next hle
      show a.length + hit.1 + (shape.text hit.2).length ≤ a.length + next.1
      omega
    · obtain ⟨other, -, rfl⟩ := List.mem_map.1 hnext
      have hlen := (hscan.stands hit hmem).lt_length hf
      omega
  covered i x _ hstands := by
    by_cases hi : i < a.length
    · obtain ⟨hit, hmem, hcov⟩ :=
        hscan.covered i x (Nat.zero_le _) ((standsAt_append_left_iff hstop ha hi).1 hstands)
      exact ⟨hit, List.mem_append_left _ hmem, hcov⟩
    · obtain ⟨j, rfl⟩ := Nat.exists_eq_add_of_le (Nat.le_of_not_lt hi)
      obtain ⟨hit, hmem, hle, hlt⟩ :=
        hscan'.covered j x (Nat.zero_le _) ((standsAt_append_right_iff ha).1 hstands)
      refine ⟨(a.length + hit.1, hit.2), ?_, ?_, ?_⟩
      · exact List.mem_append_right _ (List.mem_map_of_mem hmem)
      · show a.length + hit.1 ≤ a.length + j
        omega
      · show a.length + j < a.length + hit.1 + (shape.text hit.2).length
        omega

/-- The occurrences in the second text follow those in the first, with their places moved on. -/
theorem occurrences_append (hf : shape.Faithful) (hstop : shape.StopsAtBrace)
    (ha : a.getLast? = some '}') :
    shape.occurrences (a ++ b) = shape.occurrences a ++
      (shape.occurrences b).map fun found => (found.1.behind a, found.2) := by
  obtain ⟨hits, hscan, hocc⟩ := exists_scan hf a
  obtain ⟨others, hscan', hocc'⟩ := exists_scan hf b
  obtain ⟨all, hall, hoccAll⟩ := exists_scan hf (a ++ b)
  have hleft : (hits.map fun hit => (placeAt (a ++ b) hit.1, hit.2)) =
      hits.map fun hit => (placeAt a hit.1, hit.2) := by
    refine List.map_congr_left fun hit hmem => ?_
    have hlen := (hscan.stands hit hmem).lt_length hf
    rw [placeAt_append_left b (by omega)]
  rw [hoccAll, hall.unique (hscan.append hf hstop ha hscan'), hocc, hocc', List.map_append, hleft,
    List.map_map, List.map_map]
  refine congrArg _ (List.map_congr_left fun hit _ => ?_)
  simp only [Function.comp_apply, placeAt_append_right]

/-- An occurrence starts before the end of the text. -/
theorem offset_lt_of_mem_occurrences (hf : shape.Faithful) {found : Place × α}
    (h : found ∈ shape.occurrences a) : found.1.offset < (String.ofList a).utf8ByteSize := by
  obtain ⟨hits, hscan, hocc⟩ := exists_scan hf a
  rw [hocc, List.mem_map] at h
  obtain ⟨hit, hmem, rfl⟩ := h
  have hlen := (hscan.stands hit hmem).lt_length hf
  have hlt : (placeAt a hit.1).offset < (placeAt a a.length).offset :=
    offset_placeAt_lt (by omega) (Nat.le_refl _)
  rwa [offset_placeAt a a.length, List.take_length] at hlt

end Shape

theorem Header.stopsAtBrace : shape.StopsAtBrace :=
  Shape.stopsAtBrace_of_read? read?_eq_some_iff fun hw hmem =>
    hw.closeBrace_not_mem ((List.dropLast_prefix _).mem hmem)

theorem BlockText.stopsAtBrace : shape.StopsAtBrace := by
  refine Shape.stopsAtBrace_of_read? read?_eq_some_iff fun {t} hw hmem => ?_
  simp only [shape, text, List.dropLast_concat, List.mem_append] at hmem
  exact hmem.elim hw.header.closeBrace_not_mem hw.body

section Texts

variable {a b : String}

theorem blocks_append (ha : a.toList.getLast? = some '}') :
    blocks (a ++ b) = blocks a ++ (blocks b).map (·.behind a.toList) := by
  have hof : ∀ found : Place × BlockText,
      Block.of (found.1.behind a.toList, found.2) = (Block.of found).behind a.toList := by
    intro found
    simp [Block.of, Block.behind, Place.advance_behind]
  rw [blocks, blocks, blocks, String.toList_append,
    Shape.occurrences_append BlockText.shape_faithful BlockText.stopsAtBrace ha, List.map_append,
    List.map_map, List.map_map]
  exact congrArg _ (List.map_congr_left fun found _ => hof found)

theorem headers_append (ha : a.toList.getLast? = some '}') :
    headers (a ++ b) = headers a ++ (headers b).map (·.behind a.toList) := by
  rw [headers, headers, headers, String.toList_append,
    Shape.occurrences_append Header.shape_faithful Header.stopsAtBrace ha, List.map_append,
    List.map_map, List.map_map]
  rfl

theorem offset_lt_of_mem_headers {h : PlacedHeader} (hmem : h ∈ headers a) :
    h.start.offset < a.utf8ByteSize := by
  obtain ⟨found, hfound, rfl⟩ := List.mem_map.1 hmem
  have hlt := Shape.offset_lt_of_mem_occurrences Header.shape_faithful hfound
  rwa [String.ofList_toList] at hlt

theorem offset_lt_of_mem_blocks {x : Block} (hmem : x ∈ blocks a) :
    x.start.offset < a.utf8ByteSize := by
  obtain ⟨found, hfound, rfl⟩ := List.mem_map.1 hmem
  have hlt := Shape.offset_lt_of_mem_occurrences BlockText.shape_faithful hfound
  rwa [String.ofList_toList] at hlt

/-- A place of the second text lies behind the first text. -/
theorem le_offset_behind (a : String) (p : Place) :
    a.utf8ByteSize ≤ (p.behind a.toList).offset := by
  simp [Place.behind]

theorem unclosedHeaders_append (ha : a.toList.getLast? = some '}') :
    unclosedHeaders (a ++ b) =
      unclosedHeaders a ++ (unclosedHeaders b).map (·.behind a.toList) := by
  have hstarts : (blocks (a ++ b)).map (·.start) =
      (blocks a).map (·.start) ++ ((blocks b).map (·.start)).map (·.behind a.toList) := by
    simp [blocks_append ha, Block.behind]
  have hleft : ∀ h ∈ headers a,
      ((blocks (a ++ b)).map (·.start)).contains h.start =
        ((blocks a).map (·.start)).contains h.start := by
    intro h hh
    rw [Bool.eq_iff_iff, List.contains_iff_mem, List.contains_iff_mem, hstarts, List.mem_append]
    refine or_iff_left fun hmem => ?_
    obtain ⟨p, -, hp⟩ := List.mem_map.1 hmem
    have hle := le_offset_behind a p
    have hlt := offset_lt_of_mem_headers hh
    rw [hp] at hle
    omega
  have hright : ∀ h ∈ headers b,
      ((blocks (a ++ b)).map (·.start)).contains (h.behind a.toList).start =
        ((blocks b).map (·.start)).contains h.start := by
    intro h _
    rw [Bool.eq_iff_iff, List.contains_iff_mem, List.contains_iff_mem, hstarts, List.mem_append,
      or_iff_right ?_]
    · exact List.mem_map_of_injective fun p q => Place.behind_inj
    · intro hmem
      obtain ⟨x, hx, hstart⟩ := List.mem_map.1 hmem
      have hle := le_offset_behind a h.start
      have hlt := offset_lt_of_mem_blocks hx
      rw [hstart] at hlt
      exact absurd hlt (Nat.not_lt.2 hle)
  simp only [unclosedHeaders]
  rw [headers_append ha, List.filter_append, List.filter_map]
  refine congrArg₂ _ (List.filter_congr fun h hh => ?_)
    (congrArg _ (List.filter_congr fun h hh => ?_))
  · rw [hleft h hh]
  · rw [Function.comp_apply, hright h hh]

end Texts

section Catalogues

variable {x : Block} {before : List Char} {mapping : Bool}

theorem recordName_behind : (x.behind before).recordName mapping = x.recordName mapping := by
  rw [Block.recordName_eq, Block.recordName_eq]
  rfl

theorem fields_behind :
    ((x.behind before).record mapping).fields = (x.record mapping).fields := by
  rw [Block.fields_record, Block.fields_record]
  rfl

end Catalogues

namespace Catalogue

variable (filename : String) (mapping : Bool) (xs ys : List Block) (before : List Char)

theorem names_ofBlocks_append :
    (ofBlocks filename mapping (xs ++ ys.map (·.behind before))).names =
      (ofBlocks filename mapping xs).names ++ (ofBlocks filename mapping ys).names := by
  simp [names_ofBlocks, recordName_behind]

/-- The fields of a name come from the later blocks, if one of them has this name. -/
theorem fields?_ofBlocks_append (name : String) :
    (ofBlocks filename mapping (xs ++ ys.map (·.behind before))).fields? name =
      if name ∈ (ofBlocks filename mapping ys).names then
        (ofBlocks filename mapping ys).fields? name
      else (ofBlocks filename mapping xs).fields? name := by
  have hlater : ((ys.map (·.behind before)).reverse.find? (·.recordName mapping = name)).map
      (fun b => (b.record mapping).fields) = (ofBlocks filename mapping ys).fields? name := by
    rw [fields?_ofBlocks, ← List.map_reverse, List.find?_map, Option.map_map]
    simp only [Function.comp_def, recordName_behind, fields_behind]
  rw [fields?_ofBlocks, List.reverse_append, List.find?_append, Option.map_or, hlater,
    ← fields?_ofBlocks filename mapping xs, names_ofBlocks]
  have hsome := isSome_fields?_ofBlocks filename mapping ys name
  split_ifs with h
  · exact Option.or_of_isSome (hsome.2 h)
  · have hnone := Option.not_isSome_iff_eq_none.1 (mt hsome.1 h)
    rw [hnone, Option.none_or]

end Catalogue

/-- A text behind one that ends with a closing brace adds its blocks and its unclosed headers to
those of the first, with their places moved on by the bytes and the line feeds of the first. When
both texts can be read, so can both together: the names are those of the first and then those of
the second, and a name has the fields that the second text gives it, or else those of the first. -/
theorem schemas_compose (a b : String) (ha : a.toList.getLast? = some '}') :
    blocks (a ++ b) = blocks a ++ (blocks b).map (·.behind a.toList) ∧
    unclosedHeaders (a ++ b) =
      unclosedHeaders a ++ (unclosedHeaders b).map (·.behind a.toList) ∧
    ∀ filename mapping ca cb, read a filename mapping = .ok ca → read b filename mapping = .ok cb →
      ∃ c, read (a ++ b) filename mapping = .ok c ∧ c.names = ca.names ++ cb.names ∧
        ∀ name, c.fields? name = if name ∈ cb.names then cb.fields? name else ca.fields? name := by
  refine ⟨blocks_append ha, unclosedHeaders_append ha, fun filename mapping ca cb hca hcb => ?_⟩
  obtain ⟨hne, rfl⟩ := read_eq_ok_iff.1 hca
  obtain ⟨-, rfl⟩ := read_eq_ok_iff.1 hcb
  refine ⟨_, read_eq_ok_iff.2 ⟨?_, rfl⟩, ?_, fun name => ?_⟩
  · rw [blocks_append ha]
    simp [hne]
  · simp only [Catalogue.names_noteAll, blocks_append ha, Catalogue.names_ofBlocks_append]
  · rw [Catalogue.fields?_noteAll, blocks_append ha]
    exact Catalogue.fields?_ofBlocks_append filename mapping _ _ _ name

/-- The keyword right behind the closing brace, and a name that both texts declare. -/
theorem schemas_compose_redeclared :
    let a := "model A \x7bx Int\x7d\nmodel B \x7bz Int\n\x7d"
    let b := "model A \x7by Int\x7d"
    a.toList.getLast? = some '}' ∧
      (blocks (a ++ b)).map (fun x => (x.name, x.bodyLine)) = [("A", 1), ("B", 2), ("A", 3)] ∧
      ∃ c, read (a ++ b) "schema" false = .ok c ∧ c.names = ["A", "B", "A"] ∧
        c.fields? "A" = some [⟨"y", "Int"⟩] ∧ c.fields? "B" = some [⟨"z", "Int"⟩] := by
  intro a b
  have ha : a.toList.getLast? = some '}' := by decide +kernel
  have hreadA : read a "schema" false =
      .ok ⟨["A", "B"], [("A", [⟨"x", "Int"⟩]), ("B", [⟨"z", "Int"⟩])], []⟩ := by decide +kernel
  have hreadB : read b "schema" false = .ok ⟨["A"], [("A", [⟨"y", "Int"⟩])], []⟩ := by
    decide +kernel
  obtain ⟨hblocks, -, hread⟩ := schemas_compose a b ha
  obtain ⟨c, hc, hnames, hfields⟩ := hread "schema" false _ _ hreadA hreadB
  refine ⟨ha, ?_, c, hc, hnames, ?_, ?_⟩
  · rw [hblocks]
    decide +kernel
  · rw [hfields]
    decide
  · rw [hfields]
    decide

end SchemaScribe.Schema
