import SchemaScribe.Proofs.CatalogueOfBlocks
import SchemaScribe.Proofs.HeaderAccount
import SchemaScribe.Proofs.TextLines

/-!
# Line endings

A carriage return before each line feed changes nothing that is read. It is white space and no word
character, so it lengthens the runs of white space in a header and is trimmed off the lines of a
body; no header starts at it, and it ends no line. The scans of the two texts therefore list the
same headers and blocks at positions that correspond, on the same lines.
-/
namespace SchemaScribe

namespace Text

/-- The characters with a carriage return put before each line feed. -/
def crlf (cs : List Char) : List Char := cs.flatMap fun c => if c = '\n' then ['\r', '\n'] else [c]

/-- The text with a carriage return put before each line feed. -/
def withReturns (s : String) : String := String.ofList (crlf s.toList)

@[simp] theorem crlf_nil : crlf [] = [] := rfl

@[simp] theorem crlf_append (cs ds : List Char) : crlf (cs ++ ds) = crlf cs ++ crlf ds :=
  List.flatMap_append

@[simp] theorem crlf_lineFeed (cs : List Char) : crlf ('\n' :: cs) = '\r' :: '\n' :: crlf cs := rfl

theorem crlf_cons_of_ne {c : Char} (h : c ≠ '\n') (cs : List Char) :
    crlf (c :: cs) = c :: crlf cs := by
  simp [crlf, h]

theorem crlf_eq_self {cs : List Char} (h : '\n' ∉ cs) : crlf cs = cs := by
  induction cs with
  | nil => rfl
  | cons c cs ih =>
      simp only [List.mem_cons, not_or] at h
      rw [crlf_cons_of_ne (Ne.symm h.1), ih h.2]

@[simp] theorem crlf_eq_nil_iff {cs : List Char} : crlf cs = [] ↔ cs = [] := by
  cases cs with
  | nil => simp
  | cons c cs => by_cases h : c = '\n' <;> simp [crlf, h]

theorem count_crlf (cs : List Char) : (crlf cs).count '\n' = cs.count '\n' := by
  induction cs with
  | nil => rfl
  | cons c cs ih =>
      by_cases h : c = '\n'
      · simp [h, ih]
      · simp [crlf_cons_of_ne h, h, ih]

/-- The last character stays. -/
theorem getLast?_crlf (cs : List Char) : (crlf cs).getLast? = cs.getLast? := by
  induction cs using List.reverseRecOn with
  | nil => rfl
  | append_singleton cs c _ => by_cases h : c = '\n' <;> simp [crlf, h]

section Readers

variable {p : Char → Bool} (hp : p '\r' = p '\n') (cs : List Char)

include hp

/-- A class that has both characters or none is taken in the same way. -/
theorem takeWhile_crlf : (crlf cs).takeWhile p = crlf (cs.takeWhile p) := by
  induction cs with
  | nil => rfl
  | cons c cs ih =>
      by_cases h : c = '\n'
      · cases hfeed : p '\n' <;> simp [h, hp, hfeed, ih]
      · cases hc : p c <;> simp [crlf_cons_of_ne h, hc, ih]

theorem dropWhile_crlf : (crlf cs).dropWhile p = crlf (cs.dropWhile p) := by
  induction cs with
  | nil => rfl
  | cons c cs ih =>
      by_cases h : c = '\n'
      · cases hfeed : p '\n' <;> simp [h, hp, hfeed, ih]
      · cases hc : p c <;> simp [crlf_cons_of_ne h, hc, ih]

end Readers

theorem after?_crlf {word : List Char} (hfeed : '\n' ∉ word) (hreturn : '\r' ∉ word)
    (cs : List Char) : after? word (crlf cs) = (after? word cs).map crlf := by
  induction word generalizing cs with
  | nil => rfl
  | cons w word ih =>
      simp only [List.mem_cons, not_or] at hfeed hreturn
      cases cs with
      | nil => rfl
      | cons c cs =>
          by_cases h : c = '\n'
          · simp [h, after?, Ne.symm hfeed.1, Ne.symm hreturn.1]
          · by_cases hw : w = c <;> simp [crlf_cons_of_ne h, after?, hw, ih hfeed.2 hreturn.2]

theorem upTo?_crlf {stop : Char} (hfeed : stop ≠ '\n') (hreturn : stop ≠ '\r') (cs : List Char) :
    upTo? stop (crlf cs) = (upTo? stop cs).map fun cut => (crlf cut.1, crlf cut.2) := by
  induction cs with
  | nil => rfl
  | cons c cs ih =>
      by_cases h : c = '\n'
      · simp [h, upTo?, Ne.symm hfeed, Ne.symm hreturn, ih, Function.comp_def]
      · by_cases hc : c = stop
        · subst hc
          simp [crlf_cons_of_ne h, upTo?]
        · simp [crlf_cons_of_ne h, upTo?, hc, ih, Function.comp_def]

end Text

namespace Unicode

@[simp] theorem isWord_return : isWord '\r' = false := by decide
@[simp] theorem isSpace_return : isSpace '\r' = true := by decide
@[simp] theorem isSpace_lineFeed : isSpace '\n' = true := by decide

/-- White space at the end of a line is trimmed. -/
theorem trim_append_return (line : List Char) : trim (line ++ ['\r']) = trim line := by
  rw [trim, trim, List.dropWhile_append]
  split_ifs with h
  · simp [List.isEmpty_iff.1 h]
  · simp

end Unicode

namespace Schema

open Text (crlf withReturns)

/-- The position that corresponds to a position when the carriage returns are put in. -/
def returnedPosition (cs : List Char) (i : Nat) : Nat := (crlf (cs.take i)).length

section Positions

variable {cs : List Char} {i j : Nat}

/-- At a corresponding position the text is divided in the same way. -/
theorem crlf_eq_append (cs : List Char) (i : Nat) :
    crlf cs = crlf (cs.take i) ++ crlf (cs.drop i) := by
  rw [← Text.crlf_append, List.take_append_drop]

theorem take_returnedPosition (cs : List Char) (i : Nat) :
    (crlf cs).take (returnedPosition cs i) = crlf (cs.take i) := by
  rw [crlf_eq_append cs i, returnedPosition, List.take_left]

theorem drop_returnedPosition (cs : List Char) (i : Nat) :
    (crlf cs).drop (returnedPosition cs i) = crlf (cs.drop i) := by
  rw [crlf_eq_append cs i, returnedPosition, List.drop_left]

/-- A position either corresponds to one of the first text or has a line feed behind it. -/
theorem exists_returnedPosition (hj : j ≤ (crlf cs).length) :
    (∃ i ≤ cs.length, j = returnedPosition cs i) ∨ ∃ rest, (crlf cs).drop j = '\n' :: rest := by
  induction cs generalizing j with
  | nil => exact Or.inl ⟨0, Nat.le_refl _, by simpa [returnedPosition] using hj⟩
  | cons c cs ih =>
      have hcons : crlf (c :: cs) = crlf [c] ++ crlf cs := Text.crlf_append [c] cs
      by_cases hlt : j < (crlf [c]).length
      · cases j with
        | zero => exact Or.inl ⟨0, Nat.zero_le _, rfl⟩
        | succ j =>
            -- Only a line feed is replaced by two characters.
            by_cases h : c = '\n'
            · subst h
              obtain rfl : j = 0 := Nat.lt_one_iff.1 (Nat.lt_of_succ_lt_succ hlt)
              exact Or.inr ⟨crlf cs, rfl⟩
            · simp [Text.crlf_cons_of_ne h] at hlt
      · obtain ⟨k, rfl⟩ := Nat.exists_eq_add_of_le (Nat.le_of_not_lt hlt)
        rw [hcons, List.length_append] at hj
        rw [hcons, List.drop_length_add_append]
        refine (ih (by omega)).imp_left ?_
        rintro ⟨i, hi, rfl⟩
        refine ⟨i + 1, Nat.succ_le_succ hi, ?_⟩
        have htake : crlf ((c :: cs).take (i + 1)) = crlf [c] ++ crlf (cs.take i) :=
          Text.crlf_append [c] _
        rw [returnedPosition, returnedPosition, htake, List.length_append]

theorem returnedPosition_add {part : List Char} (h : part <+: cs.drop i) :
    returnedPosition cs (i + part.length) = returnedPosition cs i + (crlf part).length := by
  rw [returnedPosition, returnedPosition, List.take_add, ← List.prefix_iff_eq_take.1 h,
    Text.crlf_append, List.length_append]

theorem returnedPosition_lt (hij : i < j) (hj : j ≤ cs.length) :
    returnedPosition cs i < returnedPosition cs j := by
  have hlen : ((cs.drop i).take (j - i)).length = j - i := by
    rw [List.length_take, List.length_drop]
    omega
  have hpos : 0 < (crlf ((cs.drop i).take (j - i))).length := by
    rw [List.length_pos_iff, ne_eq, Text.crlf_eq_nil_iff]
    intro hnil
    rw [hnil, List.length_nil] at hlen
    omega
  have hadd := returnedPosition_add (List.take_prefix (j - i) (cs.drop i))
  rw [hlen, Nat.add_sub_cancel' (Nat.le_of_lt hij)] at hadd
  omega

theorem returnedPosition_le_iff (hi : i ≤ cs.length) (hj : j ≤ cs.length) :
    returnedPosition cs i ≤ returnedPosition cs j ↔ i ≤ j := by
  constructor
  · intro h
    by_contra hn
    have := returnedPosition_lt (Nat.lt_of_not_le hn) hi
    omega
  · intro h
    rcases Nat.lt_or_eq_of_le h with hlt | rfl
    · exact Nat.le_of_lt (returnedPosition_lt hlt hj)
    · exact Nat.le_refl _

/-- Corresponding positions are on the same line. -/
theorem line_placeAt_returnedPosition (cs : List Char) (i : Nat) :
    (placeAt (crlf cs) (returnedPosition cs i)).line = (placeAt cs i).line := by
  rw [line_placeAt, line_placeAt, take_returnedPosition, Text.count_crlf]

end Positions

namespace Shape

variable {α : Type} {shape : Shape α} {returned : α → α} {cs : List Char}

/-- A shape is read alike with and without the carriage returns, which go into what is read, and
nothing is read at a line feed. -/
structure IgnoresReturns (shape : Shape α) (returned : α → α) : Prop where
  read?_crlf : ∀ cs, shape.read? (crlf cs) = (shape.read? cs).map returned
  text_returned : ∀ a, shape.text (returned a) = crlf (shape.text a)
  read?_lineFeed : ∀ cs, shape.read? ('\n' :: cs) = none

theorem IgnoresReturns.standsAt_iff (h : shape.IgnoresReturns returned) {i : Nat} {x : α} :
    shape.StandsAt (crlf cs) (returnedPosition cs i) x ↔
      ∃ a, shape.StandsAt cs i a ∧ returned a = x := by
  simp only [StandsAt, take_returnedPosition, drop_returnedPosition, Text.getLast?_crlf,
    h.read?_crlf, Option.map_eq_some_iff, and_assoc, exists_and_left]

/-- What the scan of a text lists, at the corresponding positions, is the scan of the text with the
carriage returns. -/
theorem ScanFrom.crlf (hf : shape.Faithful) (h : shape.IgnoresReturns returned)
    {hits : List (Nat × α)} (hscan : shape.IsScan cs hits) :
    shape.IsScan (Text.crlf cs)
      (hits.map fun hit => (returnedPosition cs hit.1, returned hit.2)) where
  from_le _ _ := Nat.zero_le _
  stands hit hmem := by
    obtain ⟨other, hother, rfl⟩ := List.mem_map.1 hmem
    exact h.standsAt_iff.2 ⟨other.2, hscan.stands other hother, rfl⟩
  apart := by
    rw [List.pairwise_map]
    refine hscan.apart.imp_of_mem fun {hit next} hmem hmem' hle => ?_
    have hstands := hscan.stands hit hmem
    have hlen := hstands.lt_length hf
    have hlen' := (hscan.stands next hmem').lt_length hf
    rw [h.text_returned, ← returnedPosition_add (hf.text_prefix hstands.2)]
    exact (returnedPosition_le_iff hlen.1 (by omega)).2 hle
  covered j x _ hstands := by
    have hlen := hstands.lt_length hf
    rcases exists_returnedPosition (by omega : j ≤ (Text.crlf cs).length) with
      ⟨i, hi, rfl⟩ | ⟨rest, hrest⟩
    · obtain ⟨a, ha, -⟩ := h.standsAt_iff.1 hstands
      obtain ⟨hit, hmem, hle, hlt⟩ := hscan.covered i a (Nat.zero_le _) ha
      have hhit := hscan.stands hit hmem
      have hend := (hhit.lt_length hf).1
      refine ⟨_, List.mem_map_of_mem hmem, ?_, ?_⟩
      · exact (returnedPosition_le_iff (by omega) hi).2 hle
      · rw [h.text_returned, ← returnedPosition_add (hf.text_prefix hhit.2)]
        exact returnedPosition_lt hlt hend
    · rw [StandsAt, hrest, h.read?_lineFeed] at hstands
      exact absurd hstands.2 (by simp)

end Shape

namespace Header

/-- The header with the carriage returns put in. -/
def returned (h : Header) : Header := ⟨crlf h.gap, crlf h.name, crlf h.space⟩

theorem text_returned (h : Header) : h.returned.text = crlf h.text := by
  have hkeyword : crlf keyword = keyword := Text.crlf_eq_self (by decide)
  have hbrace : crlf ['{'] = ['{'] := Text.crlf_eq_self (by decide)
  simp [text, title, returned, hkeyword, hbrace]

theorem split?_crlf (cs : List Char) :
    split? (crlf cs) = (split? cs).map fun cut => (cut.1.returned, crlf cut.2) := by
  have hspace : Unicode.isSpace '\r' = Unicode.isSpace '\n' := by simp
  have hword : Unicode.isWord '\r' = Unicode.isWord '\n' := by simp
  simp only [split?, Text.after?_crlf (by decide : '\n' ∉ keyword) (by decide : '\r' ∉ keyword)]
  cases Text.after? keyword cs with
  | none => rfl
  | some rest =>
      simp only [Option.map_some, Option.bind_eq_bind, Option.bind_some,
        Text.takeWhile_crlf hspace, Text.dropWhile_crlf hspace, Text.takeWhile_crlf hword,
        Text.dropWhile_crlf hword, Text.crlf_eq_nil_iff,
        Text.after?_crlf (by decide : '\n' ∉ ['{']) (by decide : '\r' ∉ ['{'])]
      split_ifs with hne
      · rfl
      · generalize ((rest.dropWhile _).dropWhile _).dropWhile Unicode.isSpace = fromBrace
        cases Text.after? ['{'] fromBrace <;> rfl

theorem ignoresReturns : shape.IgnoresReturns returned where
  read?_crlf cs := by
    simp only [shape, split?_crlf, Option.map_map, Function.comp_def]
  text_returned := text_returned
  read?_lineFeed _ := rfl

theorem WellFormed.name_returned {h : Header} (hw : h.WellFormed) : h.returned.name = h.name :=
  Text.crlf_eq_self fun hmem => by simpa using hw.name_word _ hmem

end Header

namespace BlockText

/-- The block with the carriage returns put in. -/
def returned (b : BlockText) : BlockText := ⟨b.header.returned, crlf b.body⟩

theorem ignoresReturns : shape.IgnoresReturns returned where
  read?_crlf cs := by
    simp only [shape, Header.split?_crlf]
    cases Header.split? cs with
    | none => rfl
    | some cut =>
        simp only [Option.map_some, Option.bind_eq_bind, Option.bind_some,
          Text.upTo?_crlf (by decide : '}' ≠ '\n') (by decide : '}' ≠ '\r')]
        cases Text.upTo? '}' cut.2 <;> rfl
  text_returned b := by
    have hbrace : crlf ['}'] = ['}'] := Text.crlf_eq_self (by decide)
    simp [shape, text, returned, Header.text_returned, hbrace]
  read?_lineFeed _ := rfl

end BlockText

namespace Block

/-- Two blocks are read alike: they have the same name, and the same lines at the same numbers. -/
structure ReadsAs (b other : Block) : Prop where
  name_eq : b.name = other.name
  bodyLine_eq : b.bodyLine = other.bodyLine
  trimmedLines_eq : b.trimmedLines = other.trimmedLines

/-- Blocks that are read alike add the same to a catalogue. -/
theorem ReadsAs.addBlock_eq {b other : Block} (h : b.ReadsAs other) (filename : String)
    (mapping : Bool) (c : Catalogue) :
    Catalogue.addBlock filename mapping c b = Catalogue.addBlock filename mapping c other := by
  have hclasses : b.classes = other.classes := by
    rw [classes_eq_map, classes_eq_map, h.trimmedLines_eq]
  have hname : b.recordName mapping = other.recordName mapping := by
    rw [recordName_eq, recordName_eq, hclasses, h.name_eq]
  have hfields : (b.record mapping).fields = (other.record mapping).fields := by
    rw [fields_record, fields_record, hclasses]
  have hcomplaints : b.complaints filename = other.complaints filename := by
    simp only [complaints, unparsableLines, bodyLines_eq, hclasses, h.bodyLine_eq, h.name_eq]
  simp only [Catalogue.addBlock_eq, Catalogue.redeclared, hname, hfields, hcomplaints,
    h.bodyLine_eq]

end Block

/-- Each line but the last gets a carriage return at its end, which is trimmed off again. -/
theorem map_trim_splitOn_crlf (cs : List Char) :
    ((crlf cs).splitOn '\n').map Unicode.trim = (cs.splitOn '\n').map Unicode.trim := by
  obtain ⟨lines, last, rfl, hlines, hlast⟩ := Text.exists_endedLines cs
  have hended : crlf (lines.flatMap (· ++ ['\n'])) =
      (lines.map (· ++ ['\r'])).flatMap (· ++ ['\n']) := by
    clear hlast
    induction lines with
    | nil => rfl
    | cons line lines ih =>
        simp only [List.mem_cons, forall_eq_or_imp] at hlines
        simp [Text.crlf_eq_self hlines.1, ih hlines.2]
  have hlines' : ∀ line ∈ lines.map (· ++ ['\r']), '\n' ∉ line := by
    intro line hmem
    obtain ⟨line, hline, rfl⟩ := List.mem_map.1 hmem
    simpa using hlines line hline
  rw [Text.crlf_append, hended, Text.crlf_eq_self hlast, Text.splitOn_endedLines_append hlines',
    Text.splitOn_endedLines_append hlines, List.map_append, List.map_append, List.map_map]
  simp [Function.comp_def, Unicode.trim_append_return]

/-- A block of a text is read like the corresponding block of the text with carriage returns. -/
theorem BlockAt.readsAs_returned {cs : List Char} {i : Nat} {t : BlockText} (ht : BlockAt cs i t) :
    (Block.of (placeAt (crlf cs) (returnedPosition cs i), t.returned)).ReadsAs
      (Block.of (placeAt cs i, t)) where
  name_eq := congrArg String.ofList ht.1.header.name_returned
  bodyLine_eq := by
    simp only [Block.bodyLine, Block.of, Place.advance_line, BlockText.returned,
      Header.text_returned, Text.count_crlf, line_placeAt_returnedPosition]
  trimmedLines_eq := by
    simp only [Block.trimmedLines, Block.of, BlockText.returned, String.toList_ofList,
      map_trim_splitOn_crlf]

/-- A number is listed when its image is, if no other listed number has this image. -/
theorem contains_map_eq {β : Type} [DecidableEq β] {f : Nat → β} {is : List Nat} {i : Nat}
    (hinj : ∀ j ∈ is, f j = f i → j = i) : (is.map f).contains (f i) = is.contains i := by
  rw [Bool.eq_iff_iff, List.contains_iff_mem, List.contains_iff_mem, List.mem_map]
  constructor
  · rintro ⟨j, hj, hij⟩
    exact hinj j hj hij ▸ hj
  · intro hi
    exact ⟨i, hi, rfl⟩

/-- A header is unclosed when the scan for blocks has no entry at its position. -/
theorem unclosedHeaders_eq_filter {text : String} {headerHits : List (Nat × Header)}
    {blockHits : List (Nat × BlockText)} (hheaders : Header.shape.IsScan text.toList headerHits)
    (hblocks : BlockText.shape.IsScan text.toList blockHits) :
    unclosedHeaders text =
      (headerHits.filter fun hit => !(blockHits.map (·.1)).contains hit.1).map fun hit =>
        PlacedHeader.of (placeAt text.toList hit.1, hit.2) := by
  obtain ⟨hits, hscan, heq⟩ := exists_headerScan text
  obtain ⟨hits', hscan', heq'⟩ := exists_blockScan text
  obtain rfl := hscan.unique hheaders
  obtain rfl := hscan'.unique hblocks
  have hstarts : (blocks text).map (·.start) = (hits'.map (·.1)).map (placeAt text.toList) := by
    rw [heq', List.map_map, List.map_map]
    rfl
  simp only [unclosedHeaders, heq, hstarts, List.filter_map]
  refine congrArg _ (List.filter_congr fun hit hmem => ?_)
  have hle := (Header.standsAt_iff.1 (hscan.stands hit hmem)).le_length
  have hcontains : ((hits'.map (·.1)).map (placeAt text.toList)).contains
      (placeAt text.toList hit.1) = (hits'.map (·.1)).contains hit.1 := by
    apply contains_map_eq
    intro j hj hplace
    obtain ⟨other, hother, rfl⟩ := List.mem_map.1 hj
    have hat := BlockText.standsAt_iff.1 (hscan'.stands other hother)
    exact placeAt_inj hat.headerAt.le_length hle hplace
  exact congrArg not hcontains

section Texts

variable (text : String)

theorem toList_withReturns : (withReturns text).toList = crlf text.toList := String.toList_ofList

/-- The blocks of the two texts correspond. -/
theorem exists_blocks_withReturns :
    ∃ hits : List (Nat × BlockText), BlockText.shape.IsScan text.toList hits ∧
      blocks text = hits.map (fun hit => Block.of (placeAt text.toList hit.1, hit.2)) ∧
      blocks (withReturns text) = hits.map fun hit => Block.of
        (placeAt (crlf text.toList) (returnedPosition text.toList hit.1), hit.2.returned) := by
  obtain ⟨hits, hscan, heq⟩ := exists_blockScan text
  obtain ⟨hits', hscan', heq'⟩ := exists_blockScan (withReturns text)
  rw [toList_withReturns] at hscan' heq'
  have hreturned := hscan.crlf BlockText.shape_faithful BlockText.ignoresReturns
  obtain rfl := hscan'.unique hreturned
  exact ⟨hits, hscan, heq, by rw [heq', List.map_map]; rfl⟩

theorem blocks_withReturns_eq_nil_iff : blocks (withReturns text) = [] ↔ blocks text = [] := by
  obtain ⟨hits, -, heq, heq'⟩ := exists_blocks_withReturns text
  rw [heq, heq', List.map_eq_nil_iff, List.map_eq_nil_iff]

theorem ofBlocks_withReturns (filename : String) (mapping : Bool) :
    Catalogue.ofBlocks filename mapping (blocks (withReturns text)) =
      Catalogue.ofBlocks filename mapping (blocks text) := by
  obtain ⟨hits, hscan, heq, heq'⟩ := exists_blocks_withReturns text
  rw [heq, heq', Catalogue.ofBlocks, Catalogue.ofBlocks, List.foldl_map, List.foldl_map]
  refine List.foldl_ext _ _ _ fun c hit hmem => ?_
  have hat := BlockText.standsAt_iff.1 (hscan.stands hit hmem)
  exact hat.readsAs_returned.addBlock_eq filename mapping c

/-- The unclosed headers of the two texts correspond. -/
theorem exists_unclosedHeaders_withReturns :
    ∃ hits : List (Nat × Header), (∀ hit ∈ hits, HeaderAt text.toList hit.1 hit.2) ∧
      unclosedHeaders text = hits.map (fun hit =>
        PlacedHeader.of (placeAt text.toList hit.1, hit.2)) ∧
      unclosedHeaders (withReturns text) = hits.map fun hit => PlacedHeader.of
        (placeAt (crlf text.toList) (returnedPosition text.toList hit.1), hit.2.returned) := by
  obtain ⟨headerHits, hheaders, -⟩ := exists_headerScan text
  obtain ⟨blockHits, hblocks, -⟩ := exists_blockScan text
  have hat : ∀ hit ∈ headerHits, HeaderAt text.toList hit.1 hit.2 := fun hit hmem =>
    Header.standsAt_iff.1 (hheaders.stands hit hmem)
  have hheaders' := hheaders.crlf Header.shape_faithful Header.ignoresReturns
  have hblocks' := hblocks.crlf BlockText.shape_faithful BlockText.ignoresReturns
  rw [← toList_withReturns] at hheaders' hblocks'
  have hpositions : (blockHits.map fun hit => (returnedPosition text.toList hit.1,
      hit.2.returned)).map (·.1) = (blockHits.map (·.1)).map (returnedPosition text.toList) := by
    rw [List.map_map, List.map_map]
    rfl
  have hcontains : ∀ hit ∈ headerHits,
      ((blockHits.map (·.1)).map (returnedPosition text.toList)).contains
        (returnedPosition text.toList hit.1) = (blockHits.map (·.1)).contains hit.1 := by
    intro hit hmem
    apply contains_map_eq
    intro j hj hpos
    obtain ⟨other, hother, rfl⟩ := List.mem_map.1 hj
    have hle := (hat hit hmem).le_length
    have hle' := (BlockText.standsAt_iff.1 (hblocks.stands other hother)).headerAt.le_length
    have hto := returnedPosition_le_iff hle' hle
    have hfrom := returnedPosition_le_iff hle hle'
    omega
  refine ⟨_, fun hit hmem => hat hit (List.mem_of_mem_filter hmem),
    unclosedHeaders_eq_filter hheaders hblocks, ?_⟩
  rw [unclosedHeaders_eq_filter hheaders' hblocks', hpositions, List.filter_map, List.map_map,
    toList_withReturns]
  exact congrArg _ (List.filter_congr fun hit hmem => congrArg not (hcontains hit hmem))

/-- The same headers are reported, on the same lines. -/
theorem complaints_withReturns (filename : String) :
    (unclosedHeaders (withReturns text)).map (·.complaint filename) =
      (unclosedHeaders text).map (·.complaint filename) := by
  obtain ⟨hits, hat, heq, heq'⟩ := exists_unclosedHeaders_withReturns text
  rw [heq, heq', List.map_map, List.map_map]
  refine List.map_congr_left fun hit hmem => ?_
  simp only [Function.comp_apply, PlacedHeader.complaint, PlacedHeader.of,
    (hat hit hmem).1.name_returned, line_placeAt_returnedPosition]

/-- With a carriage return before each line feed a text can be read exactly when it can be read
without, and then to the same catalogue: names, fields and diagnostics with their locations. -/
theorem read_withReturns_iff (filename : String) (mapping : Bool) (c : Catalogue) :
    read (withReturns text) filename mapping = .ok c ↔ read text filename mapping = .ok c := by
  rw [read_eq_ok_iff, read_eq_ok_iff, ne_eq, ne_eq, blocks_withReturns_eq_nil_iff,
    ofBlocks_withReturns, complaints_withReturns]

end Texts

/-- A block over several lines, an unreadable line in it and a header that is not closed. -/
theorem read_withReturns_iff_unclosed :
    let text := "model A \x7b\n  x Int @map(\"a\")\n  ?\n\x7d\nmodel B \x7b"
    withReturns text = "model A \x7b\r\n  x Int @map(\"a\")\r\n  ?\r\n\x7d\r\nmodel B \x7b" ∧
    read (withReturns text) "s" true = .ok ⟨["A"], [("A", [⟨"a", "Int"⟩])],
      [⟨.unparsableLine "?" "A", some "s:3"⟩, ⟨.unclosedBlock "B", some "s:5"⟩]⟩ := by
  intro text
  have hread : read text "s" true = .ok ⟨["A"], [("A", [⟨"a", "Int"⟩])],
      [⟨.unparsableLine "?" "A", some "s:3"⟩, ⟨.unclosedBlock "B", some "s:5"⟩]⟩ := by
    decide +kernel
  exact ⟨by decide, (read_withReturns_iff text "s" true _).2 hread⟩

end Schema

end SchemaScribe
