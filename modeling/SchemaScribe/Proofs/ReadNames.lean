import SchemaScribe.Proofs.CatalogueOfBlocks
import SchemaScribe.Proofs.HeaderAccount
import SchemaScribe.Proofs.LineReading
import SchemaScribe.Unicode.FinalSigma

/-!
# What names and types can hold

A name that is read is a word or an alias. Neither has a quote or a line feed in it, so it can be
put between quotes on a line and found again. Types have no line feed either. Upper case does not
bring in such a character: every image that differs from its origin lies at or above the letters.
-/
namespace SchemaScribe

namespace Unicode

/-- A case table that only leads to code points from a bound on keeps those below it apart. -/
theorem le_of_mem_caseImage {bound n m : Nat} {expansions : List (Nat × List Nat)}
    {runs : List CaseRun} (hexpansions : ∀ entry ∈ expansions, ∀ k ∈ entry.2, bound ≤ k)
    (hruns : ∀ run ∈ runs, bound ≤ run.target) (h : m ∈ caseImage expansions runs n) :
    m = n ∨ bound ≤ m := by
  rw [caseImage] at h
  split at h
  · rename_i ns hlookup
    obtain ⟨before, after, hentry, -⟩ := List.lookup_eq_some_iff.1 hlookup
    exact Or.inr (hexpansions (n, ns) (by simp [hentry]) m h)
  · rw [List.mem_singleton] at h
    cases himage : runs.findSome? (·.image? n) with
    | none => exact Or.inl (by simpa [himage] using h)
    | some k =>
        obtain ⟨run, hrun, hk⟩ := List.exists_of_findSome?_eq_some himage
        have htarget := hruns run hrun
        rw [CaseRun.image?] at hk
        split_ifs at hk
        have hm : m = run.target + (n - run.first) := by
          simpa [himage, ← Option.some.inj hk] using h
        omega

theorem toNat_ofNat (n : Nat) : (Char.ofNat n).toNat = n ∨ (Char.ofNat n).toNat = 0 := by
  by_cases h : n.isValidChar
  · have hvalid : Char.ofNat n = Char.ofNatAux n h := dif_pos h
    exact Or.inl (congrArg Char.toNat hvalid)
  · exact Or.inr (congrArg Char.toNat (dif_neg h))

/-- A character below the letters is only in its own image under a table that leads to the letters
and what is above them. -/
theorem eq_of_mem_map_caseImage {c d : Char} {expansions : List (Nat × List Nat)}
    {runs : List CaseRun} (hexpansions : ∀ entry ∈ expansions, ∀ k ∈ entry.2, 0x41 ≤ k)
    (hruns : ∀ run ∈ runs, 0x41 ≤ run.target) (hpos : 0 < c.toNat) (hlt : c.toNat < 0x41)
    (h : c ∈ (caseImage expansions runs d.toNat).map Char.ofNat) : c = d := by
  obtain ⟨m, hm, rfl⟩ := List.mem_map.1 h
  rcases le_of_mem_caseImage hexpansions hruns hm with rfl | hle
  · exact Char.ofNat_toNat d
  · rcases toNat_ofNat m with he | he <;> omega

theorem upperExpansions_from_letters : ∀ entry ∈ upperExpansions, ∀ k ∈ entry.2, 0x41 ≤ k := by
  decide +kernel

theorem upperRuns_from_letters : ∀ run ∈ upperRuns, 0x41 ≤ run.target := by
  decide +kernel

theorem lowerExpansions_from_letters : ∀ entry ∈ lowerExpansions, ∀ k ∈ entry.2, 0x41 ≤ k := by
  decide +kernel

theorem lowerRuns_from_letters : ∀ run ∈ lowerRuns, 0x41 ≤ run.target := by
  decide +kernel

/-- A character below the letters is in the upper case of a text only if it is in the text. -/
theorem mem_of_mem_upperText {c : Char} {s : String} (hpos : 0 < c.toNat) (hlt : c.toNat < 0x41)
    (h : c ∈ (upperText s).toList) : c ∈ s.toList := by
  rw [upperText, String.toList_ofList, List.mem_flatMap] at h
  obtain ⟨d, hd, hc⟩ := h
  rwa [eq_of_mem_map_caseImage upperExpansions_from_letters upperRuns_from_letters hpos hlt hc]

/-- A character below the letters is in the lower case of another character only if it is this
character. -/
theorem eq_of_mem_lowerChar {c d : Char} (hpos : 0 < c.toNat) (hlt : c.toNat < 0x41)
    (h : c ∈ lowerChar d) : c = d :=
  eq_of_mem_map_caseImage lowerExpansions_from_letters lowerRuns_from_letters hpos hlt h

end Unicode

/-- A text that stays between quotes and within a line. -/
structure Text.Quotable (s : String) : Prop where
  no_quote : '"' ∉ s.toList
  no_lineFeed : '\n' ∉ s.toList

theorem Text.Quotable.upperText {s : String} (h : Quotable s) : Quotable (Unicode.upperText s) :=
  ⟨fun hmem => h.no_quote (Unicode.mem_of_mem_upperText (by decide) (by decide) hmem),
    fun hmem => h.no_lineFeed (Unicode.mem_of_mem_upperText (by decide) (by decide) hmem)⟩

theorem Text.Quotable.of_isWord {cs : List Char} (h : ∀ c ∈ cs, Unicode.isWord c = true) :
    Quotable (String.ofList cs) := by
  have hquote : Unicode.isWord '"' = false := by decide
  refine ⟨fun hmem => ?_, fun hmem => ?_⟩ <;> rw [String.toList_ofList] at hmem
  · simpa [hquote] using h _ hmem
  · simpa using h _ hmem

theorem Text.Quotable.takeWhile_isWord (cs : List Char) :
    Quotable (String.ofList (cs.takeWhile Unicode.isWord)) :=
  .of_isWord fun _ hc => List.mem_takeWhile_imp hc

namespace Schema

open Text (Quotable)

/-- A field whose name can be put between quotes and whose type stays within a line. -/
structure Field.Plain (f : Field) : Prop where
  name : Quotable f.name
  type : '\n' ∉ f.type.toList

/-- An alias on a line can be put between quotes. -/
theorem quotable_of_aliasAt? {opening cs name : List Char} (hcs : '\n' ∉ cs)
    (h : aliasAt? opening cs = some name) : Quotable (String.ofList name) := by
  obtain ⟨-, hquote, rest, rfl⟩ := aliasAt?_eq_some_iff.1 h
  simp only [List.mem_append, not_or] at hcs
  exact ⟨by simpa using hquote, by simpa using hcs.2.1⟩

theorem not_mem_typeMarks (cs : List Char) : '\n' ∉ typeMarks cs := by
  unfold typeMarks
  split <;> decide

/-- A field that is read from a line is plain, under either name. -/
theorem FieldLine.plain_of_read? {cs : List Char} {line : FieldLine} (hcs : '\n' ∉ cs)
    (h : read? cs = some line) (mapping : Bool) : (line.field mapping).Plain := by
  rw [read?] at h
  split_ifs at h with hne
  obtain rfl := (Option.some.inj h).symm
  have hdeclared := Quotable.takeWhile_isWord cs
  refine ⟨?_, ?_⟩
  · cases mapping with
    | false => exact hdeclared
    | true =>
        cases halias : fieldAliasFrom? false cs with
        | none => simpa [field, halias] using hdeclared
        | some name =>
            obtain ⟨rest, hsuffix, hrest⟩ := exists_suffix_of_fieldAliasFrom? halias
            have hquotable := quotable_of_aliasAt? (fun hmem => hcs (hsuffix.mem hmem)) hrest
            simpa [field, halias] using hquotable
  · simp only [field, String.toList_ofList, List.mem_append, not_or, not_mem_typeMarks,
      not_false_eq_true, and_true]
    intro hmem
    exact (Quotable.takeWhile_isWord _).no_lineFeed (by rwa [String.toList_ofList])

namespace BodyLine

theorem read?_of_classify {cs : List Char} {line : FieldLine}
    (h : (classify cs).field? = some line) : FieldLine.read? cs = some line := by
  rw [classify] at h
  split_ifs at h
  · simp [field?] at h
  · simp [field?] at h
  · cases hread : FieldLine.read? cs with
    | none => simp [hread, field?] at h
    | some f => simpa [hread, field?] using h

theorem aliasAt?_of_classify {cs : List Char} {name : String}
    (h : (classify cs).tableAlias? = some name) :
    ∃ chars, aliasAt? tableAliasOpening cs = some chars ∧ String.ofList chars = name := by
  rw [classify] at h
  split_ifs at h
  · simp [tableAlias?] at h
  · exact Option.map_eq_some_iff.1 h
  · cases hread : FieldLine.read? cs <;> simp [hread, tableAlias?] at h

end BodyLine

namespace Block

variable {b : Block} {mapping : Bool}

/-- The lines of a body have no line feed when they are classified. -/
theorem exists_of_mem_classes {line : BodyLine} (h : line ∈ b.classes) :
    ∃ cs, '\n' ∉ cs ∧ line = .classify cs := by
  obtain ⟨raw, hraw, rfl⟩ := List.mem_map.1 h
  exact ⟨Unicode.trim raw, fun hmem =>
    Text.not_mem_of_mem_splitOn hraw (Unicode.mem_of_mem_trim hmem), rfl⟩

theorem plain_of_mem_fields {f : Field} (h : f ∈ (b.record mapping).fields) : f.Plain := by
  rw [fields_record, List.mem_filterMap] at h
  obtain ⟨line, hline, hf⟩ := h
  obtain ⟨cs, hcs, rfl⟩ := exists_of_mem_classes hline
  obtain ⟨fieldLine, hread, rfl⟩ := Option.map_eq_some_iff.1 hf
  exact FieldLine.plain_of_read? hcs (BodyLine.read?_of_classify hread) mapping

/-- The name of a block of a text is a word. -/
theorem isWord_of_mem_name {text : String} (h : b ∈ blocks text) :
    ∀ c ∈ b.name.toList, Unicode.isWord c = true := by
  obtain ⟨i, t, ht, rfl⟩ := exists_blockAt_of_mem_blocks h
  simpa [Block.of] using ht.1.header.name_word

theorem quotable_recordName {text : String} (h : b ∈ blocks text) :
    Quotable (b.recordName mapping) := by
  have hname : Quotable b.name := by
    rw [← String.ofList_toList (s := b.name)]
    exact .of_isWord (isWord_of_mem_name h)
  rw [recordName_eq]
  split_ifs
  · cases halias : b.classes.findSome? BodyLine.tableAlias? with
    | none => exact hname
    | some name =>
        obtain ⟨line, hline, hname'⟩ := List.exists_of_findSome?_eq_some halias
        obtain ⟨cs, hcs, rfl⟩ := exists_of_mem_classes hline
        obtain ⟨chars, hchars, rfl⟩ := BodyLine.aliasAt?_of_classify hname'
        exact quotable_of_aliasAt? hcs hchars
  · exact hname

end Block

/-- A catalogue whose names and fields are plain. -/
structure Catalogue.Plain (c : Catalogue) : Prop where
  names : ∀ name ∈ c.names, Quotable name
  fields : ∀ r ∈ c.records, ∀ f ∈ r.fields, f.Plain

/-- What is read is plain. -/
theorem plain_of_read {text filename : String} {mapping : Bool} {c : Catalogue}
    (h : read text filename mapping = .ok c) : c.Plain := by
  obtain ⟨-, rfl⟩ := read_eq_ok_iff.1 h
  refine ⟨fun name hname => ?_, fun r hr f hf => ?_⟩
  · rw [Catalogue.noteAll, Catalogue.names_ofBlocks, List.mem_map] at hname
    obtain ⟨b, hb, rfl⟩ := hname
    exact Block.quotable_recordName hb
  · obtain ⟨name, -, rfl⟩ := List.mem_map.1 hr
    rw [Catalogue.fields?_noteAll, Catalogue.fields?_ofBlocks] at hf
    cases hfind : (blocks text).reverse.find? (·.recordName mapping = name) with
    | none => simp [hfind] at hf
    | some b => exact Block.plain_of_mem_fields (by simpa [hfind] using hf)

end Schema

end SchemaScribe
