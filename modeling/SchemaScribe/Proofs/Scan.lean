import SchemaScribe.Schema.Occurrence
import Mathlib.Data.List.Basic

/-!
# Leftmost scans

A shape stands at a position of a text when it can be read there and no word character precedes. A
scan is a list of positions with what stands there, in order and without overlap, such that every
position where the shape stands lies in one of the listed stretches. A text has exactly one scan,
and the occurrences of a shape are this scan, each position turned into a place.
-/
namespace SchemaScribe.Schema

open Unicode (isWord)

namespace Place

/-- The offset grows by the number of bytes. -/
theorem advance_offset (p : Place) (cs : List Char) :
    (p.advance cs).offset = p.offset + (String.ofList cs).utf8ByteSize := by
  induction cs generalizing p with
  | nil => simp [advance]
  | cons c cs ih =>
      have h : (p.advance (c :: cs)).offset = ((p.step c).advance cs).offset := rfl
      rw [h, ih]
      simp [step, String.ofList_cons, Nat.add_assoc]

/-- Moving on by some characters moves the offset on. -/
theorem offset_lt_advance (p : Place) {cs : List Char} (h : cs ≠ []) :
    p.offset < (p.advance cs).offset := by
  obtain ⟨c, rest, rfl⟩ := List.exists_cons_of_ne_nil h
  have hc := Char.utf8Size_pos c
  rw [advance_offset]
  simp only [String.ofList_cons, String.utf8ByteSize_append, String.utf8ByteSize_singleton]
  omega

end Place

/-- The place of a position. -/
def placeAt (cs : List Char) (i : Nat) : Place := Place.start.advance (cs.take i)

/-- The offset of a position is the number of bytes before it. -/
theorem offset_placeAt (cs : List Char) (i : Nat) :
    (placeAt cs i).offset = (String.ofList (cs.take i)).utf8ByteSize := by
  simp [placeAt, Place.advance_offset, Place.start]

/-- The line of a position is one more than the number of line feeds before it. -/
theorem line_placeAt (cs : List Char) (i : Nat) :
    (placeAt cs i).line = (cs.take i).count '\n' + 1 := by
  simp [placeAt, Place.advance_line, Place.start, Nat.add_comm]

@[simp] theorem placeAt_length_append (done todo : List Char) :
    placeAt (done ++ todo) done.length = Place.start.advance done := by
  simp [placeAt]

/-- The place of a later position is reached over the characters between. -/
theorem placeAt_add (cs : List Char) (i n : Nat) :
    placeAt cs (i + n) = (placeAt cs i).advance ((cs.drop i).take n) := by
  rw [placeAt, placeAt, ← Place.advance_append, List.take_add]

/-- A later position of the text has a greater offset. -/
theorem offset_placeAt_lt {cs : List Char} {i j : Nat} (hij : i < j) (hj : j ≤ cs.length) :
    (placeAt cs i).offset < (placeAt cs j).offset := by
  obtain ⟨n, rfl⟩ := Nat.exists_eq_add_of_lt hij
  rw [Nat.add_assoc, placeAt_add]
  apply Place.offset_lt_advance
  have hlen : ((cs.drop i).take (n + 1)).length = n + 1 := by
    rw [List.length_take, List.length_drop]
    omega
  intro hnil
  simp [hnil] at hlen

theorem offset_placeAt_lt_iff {cs : List Char} {i j : Nat} (hi : i ≤ cs.length)
    (hj : j ≤ cs.length) : (placeAt cs i).offset < (placeAt cs j).offset ↔ i < j := by
  constructor
  · intro h
    by_contra hn
    rcases Nat.lt_or_eq_of_le (Nat.le_of_not_lt hn) with hlt | rfl
    · have := offset_placeAt_lt hlt hi
      omega
    · omega
  · intro h
    exact offset_placeAt_lt h hj

theorem offset_placeAt_le_iff {cs : List Char} {i j : Nat} (hi : i ≤ cs.length)
    (hj : j ≤ cs.length) : (placeAt cs i).offset ≤ (placeAt cs j).offset ↔ i ≤ j := by
  have := offset_placeAt_lt_iff hj hi
  omega

/-- Moving over what stands at a position leads to the position behind it. -/
theorem advance_placeAt {cs part : List Char} {i : Nat} (h : part <+: cs.drop i) :
    (placeAt cs i).advance part = placeAt cs (i + part.length) := by
  rw [placeAt_add, ← List.prefix_iff_eq_take.1 h]

/-- Distinct positions of a text have distinct places. -/
theorem placeAt_inj {cs : List Char} {i j : Nat} (hi : i ≤ cs.length) (hj : j ≤ cs.length)
    (h : placeAt cs i = placeAt cs j) : i = j := by
  have hij := offset_placeAt_lt_iff hi hj
  have hji := offset_placeAt_lt_iff hj hi
  rw [h] at hij hji
  omega

namespace Shape

variable {α : Type} {shape : Shape α} {cs : List Char}

/-- What is read is the head of the text, and it is not empty. -/
structure Faithful (shape : Shape α) : Prop where
  text_prefix : ∀ {cs a}, shape.read? cs = some a → shape.text a <+: cs
  text_ne_nil : ∀ {cs a}, shape.read? cs = some a → shape.text a ≠ []

/-- The shape is read at a position that no word character precedes. -/
def StandsAt (shape : Shape α) (cs : List Char) (i : Nat) (a : α) : Prop :=
  (cs.take i).getLast?.any isWord = false ∧ shape.read? (cs.drop i) = some a

/-- The stretch that an entry of a scan takes up. -/
def Covers (shape : Shape α) (hit : Nat × α) (i : Nat) : Prop :=
  hit.1 ≤ i ∧ i < hit.1 + (shape.text hit.2).length

/-- The scan of a text from a position on. -/
structure ScanFrom (shape : Shape α) (cs : List Char) (n : Nat) (hits : List (Nat × α)) :
    Prop where
  from_le : ∀ hit ∈ hits, n ≤ hit.1
  stands : ∀ hit ∈ hits, shape.StandsAt cs hit.1 hit.2
  apart : hits.Pairwise fun hit next => hit.1 + (shape.text hit.2).length ≤ next.1
  covered : ∀ i a, n ≤ i → shape.StandsAt cs i a → ∃ hit ∈ hits, shape.Covers hit i

/-- The scan of a whole text. -/
abbrev IsScan (shape : Shape α) (cs : List Char) (hits : List (Nat × α)) : Prop :=
  shape.ScanFrom cs 0 hits

/-- Something that is not empty stands before the end of the text. -/
theorem StandsAt.lt_length (hf : shape.Faithful) {i : Nat} {a : α} (h : shape.StandsAt cs i a) :
    i + (shape.text a).length ≤ cs.length ∧ 0 < (shape.text a).length := by
  have hpre := (hf.text_prefix h.2).length_le
  have hpos := List.length_pos_iff.mpr (hf.text_ne_nil h.2)
  rw [List.length_drop] at hpre
  omega

theorem StandsAt.inj {i : Nat} {a b : α} (ha : shape.StandsAt cs i a)
    (hb : shape.StandsAt cs i b) : a = b :=
  Option.some.inj (ha.2.symm.trans hb.2)

namespace ScanFrom

/-- Nothing stands at or after the end of a text. -/
theorem nil (hf : shape.Faithful) {n : Nat} (hn : cs.length ≤ n) : shape.ScanFrom cs n [] where
  from_le := by simp
  stands := by simp
  apart := .nil
  covered i a hi h := by
    have := h.lt_length hf
    omega

/-- Positions where nothing stands can be put before a scan. -/
theorem skip {n m : Nat} {hits : List (Nat × α)} (hnm : n ≤ m)
    (hn : ∀ i a, n ≤ i → i < m → ¬shape.StandsAt cs i a) (h : shape.ScanFrom cs m hits) :
    shape.ScanFrom cs n hits where
  from_le hit hmem := Nat.le_trans hnm (h.from_le hit hmem)
  stands := h.stands
  apart := h.apart
  covered i a hi hstands := by
    have hm : m ≤ i := by
      by_contra hlt
      exact hn i a hi (by omega) hstands
    exact h.covered i a hm hstands

/-- What stands at a position can be put before a scan of the text behind it. -/
theorem cons {n : Nat} {a : α} {hits : List (Nat × α)} (hn : shape.StandsAt cs n a)
    (h : shape.ScanFrom cs (n + (shape.text a).length) hits) :
    shape.ScanFrom cs n ((n, a) :: hits) where
  from_le hit hmem := by
    rcases List.mem_cons.1 hmem with rfl | hmem
    · exact Nat.le_refl _
    · have := h.from_le hit hmem
      omega
  stands hit hmem := by
    rcases List.mem_cons.1 hmem with rfl | hmem
    · exact hn
    · exact h.stands hit hmem
  apart := List.pairwise_cons.2 ⟨h.from_le, h.apart⟩
  covered i b hi hstands := by
    by_cases hin : i < n + (shape.text a).length
    · exact ⟨(n, a), by simp, hi, hin⟩
    · obtain ⟨hit, hmem, hcov⟩ := h.covered i b (by omega) hstands
      exact ⟨hit, by simp [hmem], hcov⟩

/-- Behind its first entry a scan is the scan of what is left. -/
theorem tail {n : Nat} {hit : Nat × α} {hits : List (Nat × α)}
    (h : shape.ScanFrom cs n (hit :: hits)) :
    shape.ScanFrom cs (hit.1 + (shape.text hit.2).length) hits where
  from_le := (List.pairwise_cons.1 h.apart).1
  stands next hmem := h.stands next (by simp [hmem])
  apart := (List.pairwise_cons.1 h.apart).2
  covered i a hi hstands := by
    have hn := h.from_le hit (by simp)
    obtain ⟨next, hmem, hcov⟩ := h.covered i a (by omega) hstands
    rcases List.mem_cons.1 hmem with rfl | hmem
    · have := hcov.2
      omega
    · exact ⟨next, hmem, hcov⟩

/-- Of two entries of a scan, the one that starts first ends before the other starts. -/
theorem apart_of_lt {n : Nat} {hits : List (Nat × α)} (h : shape.ScanFrom cs n hits)
    {hit next : Nat × α} (hmem : hit ∈ hits) (hmem' : next ∈ hits) (hlt : hit.1 < next.1) :
    hit.1 + (shape.text hit.2).length ≤ next.1 := by
  obtain ⟨before, after, rfl⟩ := List.append_of_mem hmem
  obtain ⟨-, hafter, hbefore⟩ := List.pairwise_append.1 h.apart
  rcases List.mem_append.1 hmem' with hb | ha
  · have := hbefore next hb hit (by simp)
    omega
  · rcases List.mem_cons.1 ha with rfl | ha
    · omega
    · exact (List.pairwise_cons.1 hafter).1 next ha

/-- The first entry of a scan starts no later than anything that stands there. -/
theorem head_le {n i : Nat} {a : α} {hit : Nat × α} {hits : List (Nat × α)}
    (h : shape.ScanFrom cs n (hit :: hits)) (hi : n ≤ i) (hstands : shape.StandsAt cs i a) :
    hit.1 ≤ i := by
  obtain ⟨next, hmem, hcov⟩ := h.covered i a hi hstands
  rcases List.mem_cons.1 hmem with rfl | hmem
  · exact hcov.1
  · have hnext := (List.pairwise_cons.1 h.apart).1 next hmem
    have := hcov.1
    omega

/-- A text has one scan only. -/
theorem unique {n : Nat} {hits others : List (Nat × α)}
    (h : shape.ScanFrom cs n hits) (h' : shape.ScanFrom cs n others) : hits = others := by
  induction hits generalizing n others with
  | nil =>
      cases others with
      | nil => rfl
      | cons other others =>
          obtain ⟨hit, hmem, _⟩ := h.covered other.1 other.2 (h'.from_le other (by simp))
            (h'.stands other (by simp))
          simp at hmem
  | cons hit hits ih =>
      have hfrom := h.from_le hit (by simp)
      have hstands := h.stands hit (by simp)
      cases others with
      | nil =>
          obtain ⟨other, hmem, _⟩ := h'.covered hit.1 hit.2 hfrom hstands
          simp at hmem
      | cons other others =>
          have hfrom' := h'.from_le other (by simp)
          have hstands' := h'.stands other (by simp)
          have hle := h.head_le hfrom' hstands'
          have hge := h'.head_le hfrom hstands
          have hpos : hit.1 = other.1 := by omega
          rw [← hpos] at hstands'
          have heq : hit = other := Prod.ext hpos (hstands.inj hstands')
          subst other
          rw [ih h.tail h'.tail]

end ScanFrom

/-- The occurrences found behind `done` are the scan of the whole text from there on, apart from
the characters to skip. -/
theorem exists_scanFrom (hf : shape.Faithful) (done todo : List Char) (skip : Nat) :
    ∃ hits, shape.ScanFrom (done ++ todo) (done.length + skip) hits ∧
      shape.occurrencesFrom skip (done.getLast?.any isWord) (Place.start.advance done) todo =
        hits.map fun hit => (placeAt (done ++ todo) hit.1, hit.2) := by
  -- Positions are counted in the whole text, so the part already read goes along.
  induction todo generalizing done skip with
  | nil => exact ⟨[], .nil hf (by simp), by simp [occurrencesFrom]⟩
  | cons c todo ih =>
      have hdone : done ++ c :: todo = (done ++ [c]) ++ todo := by simp
      have hword : isWord c = (done ++ [c]).getLast?.any isWord := by simp
      have hplace : (Place.start.advance done).step c = Place.start.advance (done ++ [c]) := by
        rw [Place.advance_append]
        rfl
      cases skip with
      | succ skip =>
          obtain ⟨hits, hscan, hocc⟩ := ih (done ++ [c]) skip
          refine ⟨hits, ?_, ?_⟩
          · rw [hdone]
            simpa [Nat.add_assoc, Nat.add_comm 1] using hscan
          · rw [occurrencesFrom, hword, hplace, hocc, hdone]
      | zero =>
          have hstands : ∀ a, shape.StandsAt (done ++ c :: todo) done.length a ↔
              (if done.getLast?.any isWord then none else shape.read? (c :: todo)) = some a := by
            intro a
            cases hw : done.getLast?.any isWord <;> simp [StandsAt, hw]
          rw [occurrencesFrom]
          cases hread : (if done.getLast?.any isWord then none else shape.read? (c :: todo)) with
          | none =>
              obtain ⟨hits, hscan, hocc⟩ := ih (done ++ [c]) 0
              refine ⟨hits, ?_, ?_⟩
              · apply ScanFrom.skip (Nat.le_succ done.length)
                · intro i a hle hlt ha
                  obtain rfl : done.length = i := by omega
                  simp [(hstands a).1 ha] at hread
                · rw [hdone]
                  simpa using hscan
              · simp only
                rw [hword, hplace, hocc, hdone]
          | some a =>
              have ha := (hstands a).2 hread
              have hpos := (ha.lt_length hf).2
              obtain ⟨hits, hscan, hocc⟩ := ih (done ++ [c]) ((shape.text a).length - 1)
              refine ⟨(done.length, a) :: hits, ?_, ?_⟩
              · apply ScanFrom.cons ha
                rw [hdone]
                have hn : (done ++ [c]).length + ((shape.text a).length - 1) =
                    done.length + (shape.text a).length := by
                  simp only [List.length_append, List.length_singleton]
                  omega
                rwa [hn] at hscan
              · simp only
                rw [hword, hplace, hocc, hdone]
                simp

/-- The occurrences of a shape in a text are its scan. -/
theorem exists_scan (hf : shape.Faithful) (cs : List Char) :
    ∃ hits, shape.IsScan cs hits ∧
      shape.occurrences cs = hits.map fun hit => (placeAt cs hit.1, hit.2) :=
  exists_scanFrom hf [] cs 0

end Shape

end SchemaScribe.Schema
