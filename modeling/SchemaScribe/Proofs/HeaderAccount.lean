import SchemaScribe.Proofs.BlockGrammar

/-!
# Every header is accounted for

Headers and blocks are found by two scans of one text, and a header counts as unclosed when no block
starts at its place. The two scans agree: the header scan misses no header, and a header is unclosed
exactly when it lies between the braces of a block or no closing brace follows it.
-/
namespace SchemaScribe.Schema

/-- The header lies between the two braces of the block. -/
def Block.Encloses (b : Block) (p : Place) (h : Header) : Prop :=
  b.bodyStart.offset ≤ p.offset ∧
    (p.advance h.text).offset ≤ b.bodyStart.offset + b.body.utf8ByteSize

instance (b : Block) (p : Place) (h : Header) : Decidable (b.Encloses p h) :=
  inferInstanceAs (Decidable (_ ∧ _))

/-- The blocks that start at a place. -/
def blocksAt (text : String) (p : Place) : List Block := (blocks text).filter (·.start = p)

/-- The unclosed headers that are reported at a place. -/
def unclosedAt (text : String) (p : Place) : List PlacedHeader :=
  (unclosedHeaders text).filter (·.start = p)

section Scans

variable {cs : List Char} {headerHits : List (Nat × Header)} {blockHits : List (Nat × BlockText)}
  {i : Nat} {h : Header}

/-- The header scan lists exactly the headers of the text. -/
theorem mem_headerHits_iff (hscan : Header.shape.IsScan cs headerHits) :
    (i, h) ∈ headerHits ↔ HeaderAt cs i h := by
  constructor
  · intro hmem
    exact Header.standsAt_iff.1 (hscan.stands _ hmem)
  · intro hh
    have hstands := Header.standsAt_iff.2 hh
    obtain ⟨⟨j, h'⟩, hmem, hle, hlt⟩ := hscan.covered i h (Nat.zero_le _) hstands
    have hstands' := hscan.stands _ hmem
    have hij : j = i := HeaderAt.eq_of_overlap (Header.standsAt_iff.1 hstands') hh hle hlt
    subst j
    rw [hstands.inj hstands']
    exact hmem

/-- What stands at the head of a text and lacks a character ends before that character. -/
theorem length_le_of_prefix {part before after : List Char} {c : Char}
    (hpre : part <+: before ++ c :: after) (hc : c ∉ part) : part.length ≤ before.length := by
  by_contra hlen
  have hbefore : before ++ [c] <+: before ++ c :: after := ⟨after, by simp⟩
  have hpart := List.prefix_of_prefix_length_le hbefore hpre (by simp; omega)
  exact hc (hpart.mem (by simp))

/-- A header that starts behind the start of a block and before its end lies between its braces. -/
theorem HeaderAt.between_braces {j : Nat} {b : BlockText} (hh : HeaderAt cs i h)
    (hb : BlockAt cs j b) (hlt : j < i) (hin : i < j + b.text.length) :
    j + b.header.text.length ≤ i ∧
      i + h.text.length ≤ j + b.header.text.length + b.body.length := by
  have hbody : j + b.header.text.length ≤ i := by
    by_contra hn
    have := HeaderAt.eq_of_overlap hb.headerAt hh (Nat.le_of_lt hlt) (by omega)
    omega
  refine ⟨hbody, ?_⟩
  obtain ⟨d, rfl⟩ := Nat.exists_eq_add_of_le hbody
  simp only [BlockText.text, List.length_append, List.length_singleton] at hin
  obtain ⟨rest, hdrop⟩ := hb.exists_drop_body (d := d) (by omega)
  have hpre := hh.2.2
  rw [hdrop] at hpre
  have hlen := length_le_of_prefix hpre hh.1.closeBrace_not_mem
  rw [List.length_drop] at hlen
  omega

/-- A header starts a scanned block unless it lies between the braces of another one or no closing
brace follows it. -/
theorem exists_mem_blockHits_iff (hscan : BlockText.shape.IsScan cs blockHits)
    (hh : HeaderAt cs i h) :
    (∃ hit ∈ blockHits, hit.1 = i) ↔
      ¬((∃ hit ∈ blockHits, hit.1 + hit.2.header.text.length ≤ i ∧
        i + h.text.length ≤ hit.1 + hit.2.header.text.length + hit.2.body.length) ∨
          '}' ∉ cs.drop i) := by
  constructor
  · rintro ⟨hit, hmem, rfl⟩ hor
    rcases hor with ⟨other, hmem', hle, hin⟩ | hclose
    · have hpos := other.2.header.length_text_pos
      have hapart := hscan.apart_of_lt hmem' hmem (by omega)
      simp only [BlockText.shape, BlockText.text, List.length_append] at hapart
      have hlen := h.length_text_pos
      omega
    · exact hclose (BlockText.standsAt_iff.1 (hscan.stands _ hmem)).closeBrace_mem
  · intro hn
    rw [not_or, not_not] at hn
    obtain ⟨body, hb⟩ := hh.exists_blockAt hn.2
    obtain ⟨hit, hmem, hle, hlt⟩ := hscan.covered i _ (Nat.zero_le _) (BlockText.standsAt_iff.2 hb)
    refine ⟨hit, hmem, ?_⟩
    -- A block that covers the header without starting there would have it between its braces.
    by_contra hne
    have hhit := BlockText.standsAt_iff.1 (hscan.stands _ hmem)
    exact hn.1 ⟨hit, hmem, hh.between_braces hhit (by omega) hlt⟩

end Scans

/-- A list in the order of its places has one entry at the place of each of its entries. -/
theorem filter_start_eq_singleton {β : Type} {start : β → Place} {xs : List β} {x : β}
    (hsorted : xs.Pairwise fun a b => (start a).offset < (start b).offset) (hmem : x ∈ xs) :
    xs.filter (start · = start x) = [x] := by
  induction xs with
  | nil => simp at hmem
  | cons y xs ih =>
      obtain ⟨hy, hxs⟩ := List.pairwise_cons.1 hsorted
      have hne : ∀ z ∈ xs, start z ≠ start y := by
        intro z hz he
        have := hy z hz
        rw [he] at this
        omega
      rcases List.mem_cons.1 hmem with rfl | hmem
      · simpa using hne
      · simp [Ne.symm (hne x hmem), ih hxs hmem]

/-- Entries of a scan come in the order of their offsets. -/
theorem Shape.ScanFrom.pairwise_offset {α β : Type} {shape : Shape α} {cs : List Char} {n : Nat}
    {hits : List (Nat × α)} (hf : shape.Faithful) (hscan : shape.ScanFrom cs n hits)
    {of : Place × α → β} {start : β → Place} (hstart : ∀ found, start (of found) = found.1) :
    (hits.map fun hit => of (placeAt cs hit.1, hit.2)).Pairwise
      fun a b => (start a).offset < (start b).offset := by
  rw [List.pairwise_map]
  refine List.Pairwise.imp_of_mem ?_ hscan.apart
  intro hit next hmem hmem' hle
  have hlen := (hscan.stands hit hmem).lt_length hf
  have hlen' := (hscan.stands next hmem').lt_length hf
  rw [hstart, hstart]
  exact offset_placeAt_lt (by omega) (by omega)

theorem exists_headerScan (text : String) :
    ∃ hits, Header.shape.IsScan text.toList hits ∧
      headers text = hits.map fun hit => PlacedHeader.of (placeAt text.toList hit.1, hit.2) := by
  obtain ⟨hits, hscan, hocc⟩ := Shape.exists_scan Header.shape_faithful text.toList
  exact ⟨hits, hscan, by simp [headers, hocc]⟩

theorem exists_blockScan (text : String) :
    ∃ hits, BlockText.shape.IsScan text.toList hits ∧
      blocks text = hits.map fun hit => Block.of (placeAt text.toList hit.1, hit.2) := by
  obtain ⟨hits, hscan, hocc⟩ := Shape.exists_scan BlockText.shape_faithful text.toList
  exact ⟨hits, hscan, by simp [blocks, hocc]⟩

/-- A block that is found stands in the text. -/
theorem exists_blockAt_of_mem_blocks {text : String} {b : Block} (hb : b ∈ blocks text) :
    ∃ i t, BlockAt text.toList i t ∧ b = .of (placeAt text.toList i, t) := by
  obtain ⟨hits, hscan, heq⟩ := exists_blockScan text
  rw [heq, List.mem_map] at hb
  obtain ⟨hit, hmem, rfl⟩ := hb
  exact ⟨hit.1, hit.2, BlockText.standsAt_iff.1 (hscan.stands hit hmem), rfl⟩

/-- The headers found in a text are the headers that it has. -/
theorem mem_headers_iff {text : String} {p : PlacedHeader} :
    p ∈ headers text ↔
      ∃ i h, HeaderAt text.toList i h ∧ p = .of (placeAt text.toList i, h) := by
  obtain ⟨hits, hscan, heq⟩ := exists_headerScan text
  simp only [heq, List.mem_map, Prod.exists, mem_headerHits_iff hscan, eq_comm]

theorem headers_pairwise (text : String) :
    (headers text).Pairwise (·.start.offset < ·.start.offset) := by
  obtain ⟨hits, hscan, heq⟩ := exists_headerScan text
  rw [heq]
  exact hscan.pairwise_offset Header.shape_faithful fun _ => rfl

theorem blocks_pairwise (text : String) :
    (blocks text).Pairwise (·.start.offset < ·.start.offset) := by
  obtain ⟨hits, hscan, heq⟩ := exists_blockScan text
  rw [heq]
  exact hscan.pairwise_offset BlockText.shape_faithful fun _ => rfl

theorem unclosedHeaders_pairwise (text : String) :
    (unclosedHeaders text).Pairwise (·.start.offset < ·.start.offset) :=
  (headers_pairwise text).filter _

/-- The body of a block stands behind its header. -/
theorem BlockAt.body_prefix {cs : List Char} {j : Nat} {b : BlockText} (hb : BlockAt cs j b) :
    b.body <+: cs.drop (j + b.header.text.length) := by
  obtain ⟨rest, hrest⟩ := hb.exists_drop_body (Nat.zero_le _)
  simp only [Nat.add_zero, List.drop_zero] at hrest
  simp [hrest]

theorem BlockAt.bodyStart_eq {cs : List Char} {j : Nat} {b : BlockText} (hb : BlockAt cs j b) :
    (Block.of (placeAt cs j, b)).bodyStart = placeAt cs (j + b.header.text.length) :=
  advance_placeAt hb.headerAt.2.2

/-- A header that lies between the braces of a block stands in its body. -/
theorem HeaderAt.prefix_drop_body {cs : List Char} {j d : Nat} {h : Header} {b : BlockText}
    (hh : HeaderAt cs (j + b.header.text.length + d) h) (hb : BlockAt cs j b)
    (hin : d + h.text.length ≤ b.body.length) : h.text <+: b.body.drop d := by
  obtain ⟨rest, hrest⟩ := hb.exists_drop_body (d := d) (by omega)
  have hbody : b.body.drop d <+: cs.drop (j + b.header.text.length + d) := by simp [hrest]
  exact List.prefix_of_prefix_length_le hh.2.2 hbody (by rw [List.length_drop]; omega)

/-- Lying between the braces of a block, in bytes and in positions. -/
theorem encloses_iff {cs : List Char} {i j : Nat} {h : Header} {b : BlockText}
    (hh : HeaderAt cs i h) (hb : BlockAt cs j b) :
    (Block.of (placeAt cs j, b)).Encloses (placeAt cs i) h ↔
      j + b.header.text.length ≤ i ∧
        i + h.text.length ≤ j + b.header.text.length + b.body.length := by
  have hi := (Header.standsAt_iff.2 hh).lt_length Header.shape_faithful
  have hj := (BlockText.standsAt_iff.2 hb).lt_length BlockText.shape_faithful
  simp only [Header.shape, BlockText.shape, BlockText.text, List.length_append,
    List.length_singleton] at hi hj
  have hstop : (placeAt cs (j + b.header.text.length)).offset +
      (Block.of (placeAt cs j, b)).body.utf8ByteSize =
        (placeAt cs (j + b.header.text.length + b.body.length)).offset := by
    rw [← advance_placeAt hb.body_prefix, Place.advance_offset]
    rfl
  rw [Block.Encloses, hb.bodyStart_eq, hstop, advance_placeAt hh.2.2,
    offset_placeAt_le_iff (by omega) (by omega), offset_placeAt_le_iff (by omega) (by omega)]

section Account

variable {text : String} {i : Nat} {h : Header}

theorem HeaderAt.le_length {cs : List Char} (hh : HeaderAt cs i h) : i ≤ cs.length := by
  have := (Header.standsAt_iff.2 hh).lt_length Header.shape_faithful
  omega

/-- A block of the text that starts where a header stands has this header. -/
theorem block_name_eq (hh : HeaderAt text.toList i h) {b : Block} (hb : b ∈ blocks text)
    (hstart : b.start = placeAt text.toList i) : b.name = String.ofList h.name := by
  obtain ⟨j, t, ht, rfl⟩ := exists_blockAt_of_mem_blocks hb
  have hij : j = i := placeAt_inj ht.headerAt.le_length hh.le_length hstart
  subst j
  rw [Shape.StandsAt.inj (Header.standsAt_iff.2 hh) (Header.standsAt_iff.2 ht.headerAt)]
  rfl

/-- A header starts a block unless it lies between the braces of another one or no closing brace
follows it. -/
theorem exists_block_start_iff (hh : HeaderAt text.toList i h) :
    (∃ b ∈ blocks text, b.start = placeAt text.toList i) ↔
      ¬((∃ b ∈ blocks text, b.Encloses (placeAt text.toList i) h) ∨
        '}' ∉ text.toList.drop i) := by
  obtain ⟨hits, hscan, heq⟩ := exists_blockScan text
  have hat : ∀ hit ∈ hits, BlockAt text.toList hit.1 hit.2 := fun hit hmem =>
    BlockText.standsAt_iff.1 (hscan.stands hit hmem)
  have hstarts : (∃ b ∈ blocks text, b.start = placeAt text.toList i) ↔
      ∃ hit ∈ hits, hit.1 = i := by
    simp only [heq, List.mem_map, exists_exists_and_eq_and]
    refine exists_congr fun hit => and_congr_right fun hmem => ⟨fun hstart => ?_, fun he => ?_⟩
    · exact placeAt_inj (hat hit hmem).headerAt.le_length hh.le_length hstart
    · rw [← he]
      rfl
  have hencloses : (∃ b ∈ blocks text, b.Encloses (placeAt text.toList i) h) ↔
      ∃ hit ∈ hits, hit.1 + hit.2.header.text.length ≤ i ∧
        i + h.text.length ≤ hit.1 + hit.2.header.text.length + hit.2.body.length := by
    simp only [heq, List.mem_map, exists_exists_and_eq_and]
    exact exists_congr fun hit => and_congr_right fun hmem => encloses_iff hh (hat hit hmem)
  rw [hstarts, hencloses]
  exact exists_mem_blockHits_iff hscan hh

/-- A block that encloses a header has its brace in its body. -/
theorem openBrace_mem_of_encloses (hh : HeaderAt text.toList i h) {b : Block} (hb : b ∈ blocks text)
    (henc : b.Encloses (placeAt text.toList i) h) : '{' ∈ b.body.toList := by
  obtain ⟨j, t, ht, rfl⟩ := exists_blockAt_of_mem_blocks hb
  obtain ⟨hle, hin⟩ := (encloses_iff hh ht).1 henc
  obtain ⟨d, rfl⟩ := Nat.exists_eq_add_of_le hle
  have hpre := hh.prefix_drop_body ht (by omega)
  have hmem' : '{' ∈ t.body := List.mem_of_mem_drop (hpre.mem (by simp [Header.text]))
  simpa [Block.of] using hmem'

/-- A header is reported as unclosed when no block starts at its place. -/
theorem mem_unclosedHeaders_iff {p : PlacedHeader} :
    p ∈ unclosedHeaders text ↔ p ∈ headers text ∧ ¬∃ b ∈ blocks text, b.start = p.start := by
  simp [unclosedHeaders]

/-- The entry for a header is the only one at its place. -/
theorem unclosedAt_eq_singleton_iff (hh : HeaderAt text.toList i h) :
    unclosedAt text (placeAt text.toList i) = [.of (placeAt text.toList i, h)] ↔
      ¬∃ b ∈ blocks text, b.start = placeAt text.toList i := by
  constructor
  · intro heq
    have hmem : PlacedHeader.of (placeAt text.toList i, h) ∈
        unclosedAt text (placeAt text.toList i) := by simp [heq]
    exact (mem_unclosedHeaders_iff.1 (List.mem_filter.1 hmem).1).2
  · intro hn
    have hmem : PlacedHeader.of (placeAt text.toList i, h) ∈ unclosedHeaders text :=
      mem_unclosedHeaders_iff.2 ⟨mem_headers_iff.2 ⟨i, h, hh, rfl⟩, hn⟩
    exact filter_start_eq_singleton (unclosedHeaders_pairwise text) hmem

/-- Every header of a text is found by the header scan. It starts exactly one block or is reported
as unclosed exactly once, never both. It is unclosed exactly when it lies between the braces of a
block or no closing brace follows it. All lists are in the order of the text. -/
theorem headers_accounted (text : String) :
    (∀ p, p ∈ headers text ↔
      ∃ i h, HeaderAt text.toList i h ∧ p = .of (placeAt text.toList i, h)) ∧
    (∀ i h, HeaderAt text.toList i h →
      ((∃ b, blocksAt text (placeAt text.toList i) = [b] ∧ b.name = String.ofList h.name) ∧
          unclosedAt text (placeAt text.toList i) = [] ∨
        blocksAt text (placeAt text.toList i) = [] ∧
          unclosedAt text (placeAt text.toList i) = [.of (placeAt text.toList i, h)]) ∧
      (unclosedAt text (placeAt text.toList i) = [.of (placeAt text.toList i, h)] ↔
        (∃ b ∈ blocks text, b.Encloses (placeAt text.toList i) h) ∨
          '}' ∉ text.toList.drop i)) ∧
    (headers text).Pairwise (·.start.offset < ·.start.offset) ∧
    (blocks text).Pairwise (·.start.offset < ·.start.offset) ∧
    (unclosedHeaders text).Pairwise (·.start.offset < ·.start.offset) := by
  refine ⟨fun _ => mem_headers_iff, fun i h hh => ⟨?_, ?_⟩, headers_pairwise text,
    blocks_pairwise text, unclosedHeaders_pairwise text⟩
  · by_cases hstart : ∃ b ∈ blocks text, b.start = placeAt text.toList i
    · left
      obtain ⟨b, hb, hbs⟩ := hstart
      refine ⟨⟨b, ?_, block_name_eq hh hb hbs⟩, ?_⟩
      · rw [blocksAt, ← hbs]
        exact filter_start_eq_singleton (blocks_pairwise text) hb
      · rw [unclosedAt, List.filter_eq_nil_iff]
        intro p hp hps
        exact (mem_unclosedHeaders_iff.1 hp).2 ⟨b, hb, by simpa [hbs, eq_comm] using hps⟩
    · right
      refine ⟨?_, (unclosedAt_eq_singleton_iff hh).2 hstart⟩
      rw [blocksAt, List.filter_eq_nil_iff]
      intro b hb hbs
      exact hstart ⟨b, hb, by simpa using hbs⟩
  · rw [unclosedAt_eq_singleton_iff hh, exists_block_start_iff hh, not_not]

/-- One header is swallowed by the block before it, another one has no brace behind it. -/
theorem headers_accounted_swallowed :
    let text := "model A \x7bmodel B \x7b\x7dmodel C \x7b"
    let inner : Header := ⟨[' '], ['B'], [' ']⟩
    let last : Header := ⟨[' '], ['C'], [' ']⟩
    HeaderAt text.toList 9 inner ∧ HeaderAt text.toList 19 last ∧
      unclosedAt text (placeAt text.toList 9) = [.of (placeAt text.toList 9, inner)] ∧
      unclosedAt text (placeAt text.toList 19) = [.of (placeAt text.toList 19, last)] := by
  intro text inner last
  have hinner : HeaderAt text.toList 9 inner := by decide +kernel
  have hlast : HeaderAt text.toList 19 last := by decide +kernel
  have hblock : ⟨"A", "model B \x7b", ⟨0, 1⟩, ⟨9, 1⟩⟩ ∈ blocks text := by decide +kernel
  refine ⟨hinner, hlast, ?_, ?_⟩
  · exact ((headers_accounted text).2.1 9 inner hinner).2.2 (Or.inl ⟨_, hblock, by decide +kernel⟩)
  · exact ((headers_accounted text).2.1 19 last hlast).2.2 (Or.inr (by decide +kernel))

end Account

end SchemaScribe.Schema
