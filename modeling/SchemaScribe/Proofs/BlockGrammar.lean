import SchemaScribe.Proofs.CharacterClasses
import SchemaScribe.Proofs.Scan
import SchemaScribe.Schema.Block
import Mathlib.Data.List.TakeWhile

/-!
# Headers and blocks by their form

What a header and a block are is said here without a reader: which characters their parts consist
of, and that they begin at a word boundary. The readers accept exactly this form. Two headers of a
text never overlap, since read from its brace backwards a header has one beginning only.
-/
namespace SchemaScribe

/-- A text is cut at the first of the given characters. -/
theorem Text.upTo?_eq_some_iff {stop : Char} {cs head rest : List Char} :
    upTo? stop cs = some (head, rest) ↔ cs = head ++ stop :: rest ∧ stop ∉ head := by
  refine ⟨upTo?_eq_some, ?_⟩
  rintro ⟨rfl, hmem⟩
  induction head with
  | nil => simp [upTo?]
  | cons c head ih =>
      simp only [List.mem_cons, not_or] at hmem
      simp [upTo?, Ne.symm hmem.1, ih hmem.2]

namespace Schema

open Unicode (isSpace isWord)

/-- Exactly one of the two characters beside a position is a word character. -/
def WordBoundary (cs : List Char) (i : Nat) : Prop :=
  (cs.take i).getLast?.any isWord ≠ (cs.drop i).head?.any isWord

/-- The parts of a header: white space, a word and optional white space. -/
structure Header.WellFormed (h : Header) : Prop where
  gap_ne_nil : h.gap ≠ []
  gap_space : ∀ c ∈ h.gap, isSpace c = true
  name_ne_nil : h.name ≠ []
  name_word : ∀ c ∈ h.name, isWord c = true
  space_space : ∀ c ∈ h.space, isSpace c = true

/-- The parts of a block: a header and a body without a closing brace. -/
structure BlockText.WellFormed (b : BlockText) : Prop where
  header : b.header.WellFormed
  body : '}' ∉ b.body

/-- A header stands at a position of the text, at a word boundary. -/
def HeaderAt (cs : List Char) (i : Nat) (h : Header) : Prop :=
  h.WellFormed ∧ WordBoundary cs i ∧ h.text <+: cs.drop i

/-- A block stands at a position of the text, at a word boundary. -/
def BlockAt (cs : List Char) (i : Nat) (b : BlockText) : Prop :=
  b.WellFormed ∧ WordBoundary cs i ∧ b.text <+: cs.drop i

instance (cs : List Char) (i : Nat) : Decidable (WordBoundary cs i) :=
  inferInstanceAs (Decidable (_ ≠ _))

instance (h : Header) : Decidable h.WellFormed :=
  decidable_of_iff (h.gap ≠ [] ∧ h.gap.all isSpace = true ∧ h.name ≠ [] ∧
      h.name.all isWord = true ∧ h.space.all isSpace = true) <| by
    simp only [List.all_eq_true]
    exact ⟨fun ⟨hg, hgs, hn, hnw, hs⟩ => ⟨hg, hgs, hn, hnw, hs⟩,
      fun ⟨hg, hgs, hn, hnw, hs⟩ => ⟨hg, hgs, hn, hnw, hs⟩⟩

instance (cs : List Char) (i : Nat) (h : Header) : Decidable (HeaderAt cs i h) :=
  inferInstanceAs (Decidable (_ ∧ _ ∧ _))

namespace Header

theorem WellFormed.head_name {h : Header} (hw : h.WellFormed) (rest : List Char) :
    ∀ c ∈ (h.name ++ rest).head?, isSpace c = false :=
  Unicode.head_run hw.name_ne_nil (fun c hc => Unicode.isSpace_of_isWord (hw.name_word c hc)) rest

theorem WellFormed.head_space {h : Header} (hw : h.WellFormed) (rest : List Char) :
    ∀ c ∈ (h.space ++ '{' :: rest).head?, isWord c = false := by
  cases hspace : h.space with
  | nil => simp
  | cons d ds =>
      rw [← hspace]
      exact Unicode.head_run (by simp [hspace])
        (fun c hc => Unicode.isWord_of_isSpace (hw.space_space c hc)) _

/-- The reader accepts the head of a text as a header exactly when it has the form of one. -/
theorem split?_eq_some_iff {cs rest : List Char} {h : Header} :
    split? cs = some (h, rest) ↔ h.WellFormed ∧ cs = h.text ++ rest := by
  constructor
  · intro hs
    simp only [split?, Option.bind_eq_bind, Option.bind_eq_some_iff] at hs
    obtain ⟨afterKeyword, hk, hs⟩ := hs
    split at hs
    · simp at hs
    · rename_i hne
      obtain ⟨rest', hr, hs⟩ := Option.bind_eq_some_iff.1 hs
      simp only [Option.some.injEq, Prod.mk.injEq] at hs
      obtain ⟨rfl, rfl⟩ := hs
      rw [not_or] at hne
      refine ⟨⟨hne.1, fun c hc => List.mem_takeWhile_imp hc, hne.2,
        fun c hc => List.mem_takeWhile_imp hc, fun c hc => List.mem_takeWhile_imp hc⟩, ?_⟩
      rw [Text.eq_append_of_after? hk]
      simp only [text, title, List.append_assoc, List.append_cancel_left_eq]
      rw [← Text.eq_append_of_after? hr]
      simp only [List.takeWhile_append_dropWhile]
  · rintro ⟨hw, rfl⟩
    have hgap := hw.head_name (h.space ++ '{' :: rest)
    have hname := hw.head_space rest
    have hspace : ∀ c ∈ ('{' :: rest).head?, isSpace c = false := by simp
    simp only [split?, text, title, List.append_assoc, Text.after?_append, List.cons_append,
      List.nil_append, Option.bind_eq_bind, Option.bind_some,
      Unicode.takeWhile_run hw.gap_space hgap, Unicode.dropWhile_run hw.gap_space hgap,
      Unicode.takeWhile_run hw.name_word hname, Unicode.dropWhile_run hw.name_word hname,
      Unicode.takeWhile_run hw.space_space hspace, Unicode.dropWhile_run hw.space_space hspace,
      hw.gap_ne_nil, hw.name_ne_nil, or_self, if_false, Text.after?, if_true]

/-- The header without its brace. -/
def stem (h : Header) : List Char := h.title ++ h.space

theorem text_eq_stem (h : Header) : h.text = h.stem ++ ['{'] := rfl

theorem length_text_pos (h : Header) : 0 < h.text.length := by
  simp [text_eq_stem]

/-- The characters of a header before its brace are letters of words and white space. -/
theorem WellFormed.isWord_or_isSpace {h : Header} (hw : h.WellFormed) {c : Char}
    (hc : c ∈ h.stem) : isWord c = true ∨ isSpace c = true := by
  have hkeyword : keyword.all isWord = true := by decide
  simp only [stem, title, List.mem_append] at hc
  rcases hc with ((hk | hg) | hn) | hs
  · exact Or.inl (List.all_eq_true.1 hkeyword c hk)
  · exact Or.inr (hw.gap_space c hg)
  · exact Or.inl (hw.name_word c hn)
  · exact Or.inr (hw.space_space c hs)

theorem WellFormed.openBrace_not_mem {h : Header} (hw : h.WellFormed) : '{' ∉ h.stem := by
  intro hc
  simpa using hw.isWord_or_isSpace hc

theorem WellFormed.closeBrace_not_mem {h : Header} (hw : h.WellFormed) : '}' ∉ h.text := by
  intro hc
  rw [text_eq_stem, List.mem_append] at hc
  rcases hc with hc | hc
  · simpa using hw.isWord_or_isSpace hc
  · simp at hc

theorem WellFormed.head_reverse_name {h : Header} (hw : h.WellFormed) (rest : List Char) :
    ∀ c ∈ (h.name.reverse ++ rest).head?, isSpace c = false :=
  Unicode.head_run (by simpa using hw.name_ne_nil)
    (fun c hc => Unicode.isSpace_of_isWord (hw.name_word c (by simpa using hc))) rest

theorem WellFormed.head_reverse_gap {h : Header} (hw : h.WellFormed) (rest : List Char) :
    ∀ c ∈ (h.gap.reverse ++ rest).head?, isWord c = false :=
  Unicode.head_run (by simpa using hw.gap_ne_nil)
    (fun c hc => Unicode.isWord_of_isSpace (hw.gap_space c (by simpa using hc))) rest

/-- Read backwards from the brace, a header has one beginning only. -/
theorem WellFormed.eq_nil_of_suffix {h h' : Header} (hw : h.WellFormed) (hw' : h'.WellFormed)
    {before : List Char} (heq : h.stem = before ++ h'.stem) : before = [] := by
  -- From the brace backwards the classes alternate: white space, name, white space, keyword.
  have hrev := congrArg List.reverse heq
  simp only [stem, title, List.reverse_append, List.append_assoc] at hrev
  obtain ⟨-, hname⟩ := Unicode.run_append_inj (by simpa using hw.space_space)
    (hw.head_reverse_name _) (by simpa using hw'.space_space) (hw'.head_reverse_name _) hrev
  obtain ⟨-, hgap⟩ := Unicode.run_append_inj (by simpa using hw.name_word)
    (hw.head_reverse_gap _) (by simpa using hw'.name_word) (hw'.head_reverse_gap _) hname
  have hkeyword : ∀ rest c, c ∈ (keyword.reverse ++ rest).head? → isSpace c = false := by
    intro rest c hc
    have hl : c = 'l' := by simpa [keyword, eq_comm] using hc
    rw [hl]
    decide
  obtain ⟨-, hend⟩ := Unicode.run_append_inj (by simpa using hw.gap_space)
    (by simpa using hkeyword []) (by simpa using hw'.gap_space) (hkeyword _) hgap
  simpa using hend

/-- Headers are read where they have the form of one. -/
theorem read?_eq_some_iff {cs : List Char} {h : Header} :
    shape.read? cs = some h ↔ h.WellFormed ∧ h.text <+: cs := by
  simp only [shape, Option.map_eq_some_iff, Prod.exists, exists_and_right, exists_eq_right,
    split?_eq_some_iff, exists_and_left]
  constructor
  · rintro ⟨hw, rest, rfl⟩
    exact ⟨hw, List.prefix_append _ _⟩
  · rintro ⟨hw, rest, rfl⟩
    exact ⟨hw, rest, rfl⟩

theorem shape_faithful : shape.Faithful where
  text_prefix h := (read?_eq_some_iff.1 h).2
  text_ne_nil _ := by simp [shape, text]

end Header

namespace BlockText

/-- Blocks are read where they have the form of one. -/
theorem read?_eq_some_iff {cs : List Char} {b : BlockText} :
    shape.read? cs = some b ↔ b.WellFormed ∧ b.text <+: cs := by
  obtain ⟨h, body⟩ := b
  simp only [shape, Option.bind_eq_bind, Option.bind_eq_some_iff, Option.some.injEq, Prod.exists,
    Header.split?_eq_some_iff, Text.upTo?_eq_some_iff, mk.injEq]
  constructor
  · rintro ⟨h, rest, ⟨hw, rfl⟩, body, rest', ⟨rfl, hmem⟩, rfl, rfl⟩
    exact ⟨⟨hw, hmem⟩, rest', by simp [text]⟩
  · rintro ⟨hw, rest, rfl⟩
    exact ⟨h, body ++ '}' :: rest, ⟨hw.header, by simp [text]⟩, body, rest, ⟨rfl, hw.body⟩, rfl,
      rfl⟩

theorem shape_faithful : shape.Faithful where
  text_prefix h := (read?_eq_some_iff.1 h).2
  text_ne_nil _ := by simp [shape, text]

end BlockText

/-- Before the keyword, a position is a word boundary when no word character precedes it. -/
theorem wordBoundary_iff {cs : List Char} {i : Nat} (h : keyword <+: cs.drop i) :
    WordBoundary cs i ↔ (cs.take i).getLast?.any isWord = false := by
  obtain ⟨after, hafter⟩ := h
  have hm : isWord 'm' = true := by decide
  have hhead : (cs.drop i).head?.any isWord = true := by
    rw [← hafter]
    simp [keyword, hm]
  rw [WordBoundary, hhead]
  simp

/-- Something that is read by its form and starts with the keyword stands where its form stands at
a word boundary. -/
theorem standsAt_iff_of_read? {α : Type} {shape : Shape α} {a : α} {form : Prop}
    (hread : ∀ cs, shape.read? cs = some a ↔ form ∧ shape.text a <+: cs)
    (hkeyword : keyword <+: shape.text a) {cs : List Char} {i : Nat} :
    shape.StandsAt cs i a ↔ form ∧ WordBoundary cs i ∧ shape.text a <+: cs.drop i := by
  rw [Shape.StandsAt, hread]
  constructor
  · rintro ⟨hb, hform, hpre⟩
    exact ⟨hform, (wordBoundary_iff (hkeyword.trans hpre)).2 hb, hpre⟩
  · rintro ⟨hform, hb, hpre⟩
    exact ⟨(wordBoundary_iff (hkeyword.trans hpre)).1 hb, hform, hpre⟩

theorem Header.keyword_prefix (h : Header) : keyword <+: h.text := by
  simp [text, title]

theorem Header.standsAt_iff {cs : List Char} {i : Nat} {h : Header} :
    shape.StandsAt cs i h ↔ HeaderAt cs i h :=
  standsAt_iff_of_read? (fun _ => read?_eq_some_iff) h.keyword_prefix

theorem BlockText.header_prefix (b : BlockText) : b.header.text <+: b.text := by
  simp [text]

theorem BlockText.keyword_prefix (b : BlockText) : keyword <+: b.text :=
  b.header.keyword_prefix.trans b.header_prefix

theorem BlockText.standsAt_iff {cs : List Char} {i : Nat} {b : BlockText} :
    shape.StandsAt cs i b ↔ BlockAt cs i b :=
  standsAt_iff_of_read? (fun _ => read?_eq_some_iff) b.keyword_prefix

/-- A block starts with its header. -/
theorem BlockAt.headerAt {cs : List Char} {i : Nat} {b : BlockText} (h : BlockAt cs i b) :
    HeaderAt cs i b.header :=
  ⟨h.1.header, h.2.1, b.header_prefix.trans h.2.2⟩

/-- A header with a closing brace somewhere behind it starts a block. -/
theorem HeaderAt.exists_blockAt {cs : List Char} {i : Nat} {h : Header} (hh : HeaderAt cs i h)
    (hclose : '}' ∈ cs.drop i) : ∃ body, BlockAt cs i ⟨h, body⟩ := by
  obtain ⟨rest, hrest⟩ := hh.2.2
  have hmem : '}' ∈ rest := by
    rw [← hrest, List.mem_append] at hclose
    exact hclose.resolve_left hh.1.closeBrace_not_mem
  obtain ⟨body, rest', rfl, hbody⟩ := List.eq_append_cons_of_mem hmem
  exact ⟨body, ⟨hh.1, hbody⟩, hh.2.1, rest', by simp [← hrest, BlockText.text]⟩

/-- A block has a closing brace. -/
theorem BlockAt.closeBrace_mem {cs : List Char} {i : Nat} {b : BlockText} (h : BlockAt cs i b) :
    '}' ∈ cs.drop i :=
  h.2.2.mem (by simp [BlockText.text])

/-- What stands at a position of the body of a block. -/
theorem BlockAt.exists_drop_body {cs : List Char} {i d : Nat} {b : BlockText} (h : BlockAt cs i b)
    (hd : d ≤ b.body.length) :
    ∃ rest, cs.drop (i + b.header.text.length + d) = b.body.drop d ++ '}' :: rest := by
  obtain ⟨rest, hrest⟩ := h.2.2
  refine ⟨rest, ?_⟩
  rw [← List.drop_drop, ← List.drop_drop, ← hrest]
  simp [BlockText.text, List.drop_append_of_le_length hd]

/-- Headers that overlap start at the same position. -/
theorem HeaderAt.eq_of_overlap {cs : List Char} {i j : Nat} {h h' : Header}
    (hi : HeaderAt cs i h) (hj : HeaderAt cs j h') (hij : i ≤ j)
    (hlt : j < i + h.text.length) : i = j := by
  obtain ⟨rest, hrest⟩ := hi.2.2
  obtain ⟨rest', hrest'⟩ := hj.2.2
  obtain ⟨d, rfl⟩ := Nat.exists_eq_add_of_le hij
  simp only [Header.text_eq_stem, List.length_append, List.length_singleton] at hlt
  have hd : d ≤ h.stem.length := by omega
  have hdrop : h.stem.drop d ++ '{' :: rest = h'.stem ++ '{' :: rest' := by
    rw [← List.drop_drop, ← hrest, Header.text_eq_stem, Header.text_eq_stem] at hrest'
    simpa [List.drop_append_of_le_length hd] using hrest'.symm
  have hmem : '{' ∉ h.stem.drop d := fun hc => hi.1.openBrace_not_mem (List.mem_of_mem_drop hc)
  have hcut := Text.upTo?_eq_some_iff.2 ⟨hdrop, hj.1.openBrace_not_mem⟩
  rw [Text.upTo?_eq_some_iff.2 ⟨rfl, hmem⟩, Option.some.injEq, Prod.mk.injEq] at hcut
  have hstem := hcut.1
  have hbefore : h.stem.take d = [] :=
    hi.1.eq_nil_of_suffix hj.1 (by rw [← hstem, List.take_append_drop])
  have hlen : (h.stem.take d).length = d := by rw [List.length_take]; omega
  rw [hbefore, List.length_nil] at hlen
  omega

end Schema

end SchemaScribe
