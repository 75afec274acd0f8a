import SchemaScribe.Proofs.HeaderAccount

/-!
# Gaps and blocks

A text is written in exactly one way as gaps and blocks in turn, such that no block of the text
starts inside a gap. The blocks that are found are the blocks of this layout.
-/
namespace SchemaScribe.Schema

/-- Gaps and blocks in turn: every block with the gap before it, and the gap at the end. -/
structure Layout where
  parts : List (List Char × BlockText)
  last : List Char

namespace Layout

/-- The text of gaps and blocks. -/
def partsText (parts : List (List Char × BlockText)) : List Char :=
  parts.flatMap fun part => part.1 ++ part.2.text

@[simp] theorem partsText_nil : partsText [] = [] := rfl

@[simp] theorem partsText_cons (gap : List Char) (b : BlockText)
    (parts : List (List Char × BlockText)) :
    partsText ((gap, b) :: parts) = gap ++ (b.text ++ partsText parts) := by
  simp [partsText]

def text (d : Layout) : List Char := partsText d.parts ++ d.last

/-- From a position on, every gap is followed by a block of the whole text, and no block of the
whole text starts inside a gap or behind the last listed block. -/
def Leftmost (cs : List Char) : Nat → List (List Char × BlockText) → Prop
  | n, [] => ∀ i, n ≤ i → ∀ b, ¬BlockAt cs i b
  | n, (gap, b) :: parts =>
      (∀ i, n ≤ i → i < n + gap.length → ∀ b', ¬BlockAt cs i b') ∧
        BlockAt cs (n + gap.length) b ∧ Leftmost cs (n + gap.length + b.text.length) parts

/-- The layout is a way to write the text in which no block starts inside a gap. -/
structure Divides (d : Layout) (cs : List Char) : Prop where
  text_eq : d.text = cs
  leftmost : Leftmost cs 0 d.parts

/-- Name, body and first body line of each block, where a line number is one more than the number
of line feeds before it. -/
def listingFrom (before : List Char) :
    List (List Char × BlockText) → List (String × String × Nat)
  | [] => []
  | (gap, b) :: parts =>
      (String.ofList b.header.name, String.ofList b.body,
        1 + (before ++ gap ++ b.header.text).count '\n') ::
          listingFrom (before ++ gap ++ b.text) parts

def listing (d : Layout) : List (String × String × Nat) := listingFrom [] d.parts

/-- The positions of the blocks. -/
def hitsFrom : Nat → List (List Char × BlockText) → List (Nat × BlockText)
  | _, [] => []
  | n, (gap, b) :: parts =>
      (n + gap.length, b) :: hitsFrom (n + gap.length + b.text.length) parts

/-- What does not depend on the positions of the blocks can be read off their texts. -/
theorem map_hitsFrom {σ β : Type} {f : Nat × BlockText → β} {g : σ → β}
    {part : σ → List Char × BlockText} (h : ∀ i x, f (i, (part x).2) = g x) (n : Nat)
    (xs : List σ) : (hitsFrom n (xs.map part)).map f = xs.map g := by
  induction xs generalizing n with
  | nil => rfl
  | cons x xs ih => simp [hitsFrom, h, ih]

/-- The blocks of a leftmost layout are the scan of the text. -/
theorem Leftmost.scanFrom {cs : List Char} {n : Nat} {parts : List (List Char × BlockText)}
    (h : Leftmost cs n parts) : BlockText.shape.ScanFrom cs n (hitsFrom n parts) := by
  induction parts generalizing n with
  | nil =>
      refine ⟨by simp [hitsFrom], by simp [hitsFrom], .nil, fun i b hi hb => ?_⟩
      exact absurd (BlockText.standsAt_iff.1 hb) (h i hi b)
  | cons part parts ih =>
      obtain ⟨gap, b⟩ := part
      obtain ⟨hgap, hb, hparts⟩ := h
      apply Shape.ScanFrom.skip (Nat.le_add_right n gap.length)
      · intro i b' hle hlt hb'
        exact hgap i hle hlt b' (BlockText.standsAt_iff.1 hb')
      · exact .cons (BlockText.standsAt_iff.2 hb) (ih hparts)

/-- The positions of the blocks and the text determine the layout. -/
theorem eq_of_hitsFrom_eq {n : Nat} {parts parts' : List (List Char × BlockText)}
    {last last' : List Char} (hhits : hitsFrom n parts = hitsFrom n parts')
    (htext : partsText parts ++ last = partsText parts' ++ last') :
    parts = parts' ∧ last = last' := by
  induction parts generalizing n parts' with
  | nil =>
      cases parts' with
      | nil => exact ⟨rfl, by simpa using htext⟩
      | cons part' parts' => simp [hitsFrom] at hhits
  | cons part parts ih =>
      cases parts' with
      | nil => simp [hitsFrom] at hhits
      | cons part' parts' =>
          obtain ⟨gap, b⟩ := part
          obtain ⟨gap', b'⟩ := part'
          simp only [hitsFrom, List.cons.injEq, Prod.mk.injEq, Nat.add_left_cancel_iff] at hhits
          obtain ⟨⟨hlen, rfl⟩, hhits⟩ := hhits
          simp only [partsText_cons, List.append_assoc] at htext
          obtain ⟨rfl, hrest⟩ := List.append_inj htext hlen
          obtain ⟨rfl, rfl⟩ := ih hhits (List.append_cancel_left hrest)
          exact ⟨rfl, rfl⟩

/-- Every scan of a text comes from a leftmost layout. -/
theorem exists_of_scanFrom {cs : List Char} {n : Nat} {hits : List (Nat × BlockText)}
    (h : BlockText.shape.ScanFrom cs n hits) :
    ∃ parts last, partsText parts ++ last = cs.drop n ∧ Leftmost cs n parts := by
  induction hits generalizing n with
  | nil =>
      refine ⟨[], cs.drop n, rfl, fun i hi b hb => ?_⟩
      obtain ⟨hit, hmem, _⟩ := h.covered i b hi (BlockText.standsAt_iff.2 hb)
      simp at hmem
  | cons hit hits ih =>
      obtain ⟨parts, last, htext, hleft⟩ := ih h.tail
      obtain ⟨i, b⟩ := hit
      obtain ⟨d, rfl⟩ := Nat.exists_eq_add_of_le (h.from_le (i, b) (by simp))
      have hstands : BlockText.shape.StandsAt cs (n + d) b := h.stands (n + d, b) (by simp)
      have hlen := hstands.lt_length BlockText.shape_faithful
      have hb := BlockText.standsAt_iff.1 hstands
      have hgap : ((cs.drop n).take d).length = d := by
        rw [List.length_take, List.length_drop]
        omega
      have hafter : cs.drop (n + d) = b.text ++ cs.drop (n + d + b.text.length) := by
        obtain ⟨rest, hrest⟩ := hb.2.2
        rw [← List.drop_drop (i := b.text.length), ← hrest, List.drop_left]
      refine ⟨((cs.drop n).take d, b) :: parts, last, ?_, ?_, ?_, ?_⟩
      · simp only [partsText_cons, List.append_assoc]
        rw [htext]
        simp only [BlockText.shape]
        rw [← hafter, ← List.drop_drop, List.take_append_drop]
      · intro j hle hlt b' hb'
        rw [hgap] at hlt
        have := h.head_le hle (BlockText.standsAt_iff.2 hb')
        omega
      · rw [hgap]
        exact hb
      · rw [hgap]
        exact hleft

/-- What is listed for the blocks is what is kept of them when they are found. -/
theorem listingFrom_eq {cs last : List Char} (before : List Char)
    {parts : List (List Char × BlockText)}
    (htext : before ++ (partsText parts ++ last) = cs) :
    listingFrom before parts = (hitsFrom before.length parts).map fun hit =>
      let b := Block.of (placeAt cs hit.1, hit.2)
      (b.name, b.body, b.bodyLine) := by
  induction parts generalizing before with
  | nil => rfl
  | cons part parts ih =>
      obtain ⟨gap, b⟩ := part
      simp only [partsText_cons, List.append_assoc] at htext
      have hplace : placeAt cs (before.length + gap.length) =
          Place.start.advance (before ++ gap) := by
        rw [← htext, ← List.length_append, ← List.append_assoc]
        exact placeAt_length_append _ _
      have hline : (Block.of (placeAt cs (before.length + gap.length), b)).bodyLine =
          1 + (before ++ gap ++ b.header.text).count '\n' := by
        simp only [Block.bodyLine, Block.of, hplace, ← Place.advance_append, Place.advance_line]
        rfl
      have hrest := ih (before ++ gap ++ b.text) (by simpa using htext)
      simp only [listingFrom, hitsFrom, List.map_cons, hline, hrest, List.length_append]
      rfl

/-- The blocks of a layout of the text are the blocks that are found. -/
theorem Divides.blocks_eq {text : String} {d : Layout} (h : d.Divides text.toList) :
    blocks text = (hitsFrom 0 d.parts).map fun hit =>
      Block.of (placeAt text.toList hit.1, hit.2) := by
  obtain ⟨hits, hscan, hblocks⟩ := exists_blockScan text
  rw [hblocks, hscan.unique h.leftmost.scanFrom]

/-- A text is divided in one way only. -/
theorem Divides.unique {cs : List Char} {d other : Layout} (h : d.Divides cs)
    (hother : other.Divides cs) : other = d := by
  have hhits := hother.leftmost.scanFrom.unique h.leftmost.scanFrom
  obtain ⟨hparts, hlast⟩ := eq_of_hitsFrom_eq hhits (hother.text_eq.trans h.text_eq.symm)
  cases d
  cases other
  simp_all

theorem exists_divides (cs : List Char) : ∃ d : Layout, d.Divides cs := by
  obtain ⟨hits, hscan, -⟩ := Shape.exists_scan BlockText.shape_faithful cs
  obtain ⟨parts, last, htext, hleft⟩ := exists_of_scanFrom hscan
  exact ⟨⟨parts, last⟩, htext, hleft⟩

/-- A text is divided into gaps and blocks in exactly one way, and the blocks that are found have
the names, the bodies and the line numbers of this layout. -/
theorem blocks_eq_listing (text : String) :
    ∃ d : Layout, d.Divides text.toList ∧
      (∀ other : Layout, other.Divides text.toList → other = d) ∧
      (blocks text).map (fun b => (b.name, b.body, b.bodyLine)) = d.listing := by
  obtain ⟨d, hd⟩ := exists_divides text.toList
  refine ⟨d, hd, fun other => hd.unique, ?_⟩
  rw [listing, listingFrom_eq [] hd.text_eq, hd.blocks_eq, List.map_map]
  rfl

end Layout

end SchemaScribe.Schema
