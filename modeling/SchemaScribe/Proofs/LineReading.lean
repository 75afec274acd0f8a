import SchemaScribe.Proofs.BlockGrammar
import SchemaScribe.Schema.Reading
import Mathlib.Data.List.DropRight

/-!
# Reading body lines

A body is cut at its line feeds, and each line is trimmed and classified. The lemmas here compute
the readers on lines that are given by their parts: a field line by its name, its type and what
follows, an alias by the text in its quotes.
-/
namespace SchemaScribe

namespace Text

theorem after?_cons_of_ne {w c : Char} (ws cs : List Char) (h : w ≠ c) :
    after? (w :: ws) (c :: cs) = none := by
  simp [after?, h]

theorem not_mem_of_mem_splitOn {sep : Char} {cs piece : List Char} (h : piece ∈ cs.splitOn sep) :
    sep ∉ piece := by
  induction cs generalizing piece with
  | nil =>
      rw [List.splitOn_nil, List.mem_singleton] at h
      simp [h]
  | cons c cs ih =>
      rw [List.splitOn_cons_eq_if_modifyHead] at h
      split_ifs at h with hc
      · rcases List.mem_cons.1 h with rfl | h
        · exact List.not_mem_nil
        · exact ih h
      · obtain ⟨first, pieces, hpieces⟩ := List.exists_cons_of_ne_nil (List.splitOn_ne_nil sep cs)
        rw [hpieces] at ih h
        rcases List.mem_cons.1 h with rfl | h
        · have hne : c ≠ sep := by simpa using hc
          simp [Ne.symm hne, ih (List.mem_cons_self ..)]
        · exact ih (List.mem_cons_of_mem _ h)

/-- Lines that are each ended by a line feed are cut off before the rest of the text. -/
theorem splitOn_endedLines_append {lines : List (List Char)} (h : ∀ line ∈ lines, '\n' ∉ line)
    (cs : List Char) :
    (lines.flatMap (· ++ ['\n']) ++ cs).splitOn '\n' = lines ++ cs.splitOn '\n' := by
  induction lines with
  | nil => rfl
  | cons line lines ih =>
      rw [List.flatMap_cons, List.append_assoc, List.append_assoc, List.singleton_append,
        List.splitOn_append_cons_self_of_not_mem (h line (by simp)),
        ih fun other hmem => h other (by simp [hmem])]
      rfl

/-- Lines that are each ended by a line feed are found again, with nothing behind the last. -/
theorem splitOn_endedLines {lines : List (List Char)} (h : ∀ line ∈ lines, '\n' ∉ line) :
    (lines.flatMap (· ++ ['\n'])).splitOn '\n' = lines ++ [[]] := by
  simpa using splitOn_endedLines_append h []

end Text

namespace Unicode

theorem mem_of_mem_trim {c : Char} {cs : List Char} (h : c ∈ trim cs) : c ∈ cs := by
  rw [trim, List.mem_reverse] at h
  have hback := (List.dropWhile_sublist isSpace).mem h
  rw [List.mem_reverse] at hback
  exact (List.dropWhile_sublist isSpace).mem hback

/-- White space before a text that has none at its ends is all that is trimmed. -/
theorem trim_append {blanks core : List Char} (hblanks : ∀ c ∈ blanks, isSpace c = true)
    (hhead : ∀ c ∈ core.head?, isSpace c = false) (hlast : ∀ c ∈ core.getLast?, isSpace c = false) :
    trim (blanks ++ core) = core := by
  have hback : ([] ++ core.reverse).dropWhile isSpace = core.reverse :=
    dropWhile_run (by simp) (by simpa using hlast)
  rw [List.nil_append] at hback
  rw [trim, dropWhile_run hblanks hhead, hback, List.reverse_reverse]

/-- White space before a core and at the end of what follows it is trimmed. -/
theorem trim_append_append {blanks core : List Char} (hne : core ≠ [])
    (hblanks : ∀ c ∈ blanks, isSpace c = true) (hhead : ∀ c ∈ core.head?, isSpace c = false)
    (hlast : ∀ c ∈ core.getLast?, isSpace c = false) (rest : List Char) :
    trim (blanks ++ (core ++ rest)) = core ++ rest.rdropWhile isSpace := by
  have hfront : (blanks ++ (core ++ rest)).dropWhile isSpace = core ++ rest := by
    apply dropWhile_run hblanks
    rwa [List.head?_append_of_ne_nil _ hne]
  have hback : core.reverse.dropWhile isSpace = core.reverse := by
    obtain ⟨c, cs, hcs⟩ := List.exists_cons_of_ne_nil (List.reverse_ne_nil_iff.2 hne)
    have hc : isSpace c = false := hlast c (by rw [← List.head?_reverse, hcs]; rfl)
    simp [hcs, hc]
  rw [trim, hfront, List.reverse_append, List.dropWhile_append, hback, List.rdropWhile]
  split_ifs with h
  · rw [List.isEmpty_iff.1 h]
    simp
  · simp

/-- What has no white space at its ends is not trimmed, wherever it stands. -/
theorem infix_trim {part : List Char} (hne : part ≠ [])
    (hhead : ∀ c ∈ part.head?, isSpace c = false) (hlast : ∀ c ∈ part.getLast?, isSpace c = false)
    (left right : List Char) : part <:+: trim (left ++ (part ++ right)) := by
  have hleft : left ++ (part ++ right) =
      left.takeWhile isSpace ++ ((left.dropWhile isSpace ++ part) ++ right) := by
    nth_rewrite 1 [← List.takeWhile_append_dropWhile (p := isSpace) (l := left)]
    simp only [List.append_assoc]
  have hcore : ∀ c ∈ (left.dropWhile isSpace ++ part).head?, isSpace c = false := by
    intro c hc
    have hnot := List.head?_dropWhile_not isSpace left
    cases hrest : left.dropWhile isSpace with
    | nil => exact hhead c (by simpa [hrest] using hc)
    | cons d ds =>
        rw [hrest] at hc hnot
        obtain rfl : d = c := by simpa using hc
        simpa using hnot
  rw [hleft, trim_append_append (by simp [hne]) (fun _ hc => List.mem_takeWhile_imp hc) hcore
    (by rwa [List.getLast?_append_of_ne_nil _ hne])]
  exact ⟨left.dropWhile isSpace, right.rdropWhile isSpace, rfl⟩

/-- A text is what is left of it between what was trimmed. -/
theorem exists_trim_eq (cs : List Char) : ∃ left right, cs = left ++ (trim cs ++ right) := by
  refine ⟨cs.takeWhile isSpace, (cs.dropWhile isSpace).rtakeWhile isSpace, ?_⟩
  have hback : trim cs ++ (cs.dropWhile isSpace).rtakeWhile isSpace = cs.dropWhile isSpace :=
    List.rdropWhile_append_rtakeWhile
  rw [hback, List.takeWhile_append_dropWhile]

end Unicode

namespace Schema

open Unicode (isSpace isWord)

/-- An alias is what stands in the quotes of an attribute. -/
theorem aliasAt?_eq_some_iff {opening cs name : List Char} :
    aliasAt? opening cs = some name ↔
      name ≠ [] ∧ '"' ∉ name ∧ ∃ rest, cs = opening ++ (name ++ '"' :: ')' :: rest) := by
  constructor
  · intro h
    simp only [aliasAt?, Option.bind_eq_bind, Option.bind_eq_some_iff, Prod.exists] at h
    obtain ⟨afterOpening, hopening, name', afterQuote, hname, h⟩ := h
    obtain ⟨rfl, hquote⟩ := Text.upTo?_eq_some_iff.1 hname
    split at h
    · simp at h
    · rename_i hne
      obtain ⟨rest, hrest, h⟩ := Option.bind_eq_some_iff.1 h
      obtain rfl := Option.some.inj h
      refine ⟨hne, hquote, rest, ?_⟩
      rw [Text.eq_append_of_after? hopening, Text.eq_append_of_after? hrest]
      rfl
  · rintro ⟨hne, hquote, rest, rfl⟩
    have hname : Text.upTo? '"' (name ++ '"' :: ')' :: rest) = some (name, ')' :: rest) :=
      Text.upTo?_eq_some_iff.2 ⟨rfl, hquote⟩
    simp [aliasAt?, hname, hne, Text.after?]

theorem fieldAliasFrom?_of_aliasAt? {cs name : List Char}
    (h : aliasAt? fieldAliasOpening cs = some name) : fieldAliasFrom? false cs = some name := by
  cases cs with
  | nil => simp [aliasAt?, fieldAliasOpening, Text.after?] at h
  | cons c cs => simp [fieldAliasFrom?, h]

/-- A field alias is read somewhere in the line. -/
theorem exists_suffix_of_fieldAliasFrom? {afterAt : Bool} {cs name : List Char}
    (h : fieldAliasFrom? afterAt cs = some name) :
    ∃ rest, rest <:+ cs ∧ aliasAt? fieldAliasOpening rest = some name := by
  induction cs generalizing afterAt with
  | nil => simp [fieldAliasFrom?] at h
  | cons c cs ih =>
      rw [fieldAliasFrom?] at h
      split at h
      · rename_i found hfound
        obtain rfl := Option.some.inj h
        cases afterAt with
        | true => simp at hfound
        | false => exact ⟨c :: cs, List.suffix_rfl, by simpa using hfound⟩
      · obtain ⟨rest, hsuffix, hrest⟩ := ih h
        exact ⟨rest, hsuffix.trans (List.suffix_cons c cs), hrest⟩

/-- No field alias starts before the first `@`. -/
theorem fieldAliasFrom?_append {before : List Char} (rest : List Char) (h : '@' ∉ before) :
    fieldAliasFrom? false (before ++ rest) = fieldAliasFrom? false rest := by
  induction before with
  | nil => rfl
  | cons c before ih =>
      simp only [List.mem_cons, not_or] at h
      have hnone : aliasAt? fieldAliasOpening (c :: (before ++ rest)) = none := by
        simp [aliasAt?, fieldAliasOpening, Text.after?_cons_of_ne _ _ h.1]
      have hc : (c == '@') = false := by simpa using Ne.symm h.1
      simp [fieldAliasFrom?, hnone, hc, ih h.2]

/-- A field line is read from its name, white space, its type and what follows. -/
theorem FieldLine.read?_append {name gap type rest : List Char} (hname : name ≠ [])
    (hname' : ∀ c ∈ name, isWord c = true) (hgap : gap ≠ [])
    (hgap' : ∀ c ∈ gap, isSpace c = true) (htype : type ≠ [])
    (htype' : ∀ c ∈ type, isWord c = true) (hrest : ∀ c ∈ rest.head?, isWord c = false) :
    FieldLine.read? (name ++ (gap ++ (type ++ rest))) = some {
      declared := String.ofList name
      type := String.ofList (type ++ typeMarks rest)
      alias? := (fieldAliasFrom? false (name ++ (gap ++ (type ++ rest)))).map String.ofList } := by
  have hafter := Unicode.head_run hgap (fun c hc => Unicode.isWord_of_isSpace (hgap' c hc))
    (type ++ rest)
  have hfrom := Unicode.head_run htype (fun c hc => Unicode.isSpace_of_isWord (htype' c hc)) rest
  simp only [FieldLine.read?, Unicode.takeWhile_run hname' hafter,
    Unicode.dropWhile_run hname' hafter, Unicode.takeWhile_run hgap' hfrom,
    Unicode.dropWhile_run hgap' hfrom, Unicode.takeWhile_run htype' hrest,
    Unicode.dropWhile_run htype' hrest, hname, hgap, htype, or_self, if_false]

/-- A line that can be read as a field is neither a comment nor an attribute. -/
theorem BodyLine.classify_of_read? {cs : List Char} {line : FieldLine}
    (h : FieldLine.read? cs = some line) : classify cs = .field line := by
  have hname : cs.takeWhile isWord ≠ [] := by
    rw [FieldLine.read?] at h
    split_ifs at h with hnone
    exact (not_or.1 hnone).1
  cases cs with
  | nil => simp at hname
  | cons c cs =>
      have hc : isWord c = true := by
        by_contra hn
        simp [hn] at hname
      have hslash : '/' ≠ c := (Unicode.ne_of_isWord hc (by decide +kernel)).symm
      have hat : '@' ≠ c := (Unicode.ne_of_isWord hc (by decide +kernel)).symm
      simp [classify, Text.after?_cons_of_ne _ _ hslash, Text.after?_cons_of_ne _ _ hat, h]

namespace Block

/-- The classes of the lines of a body. -/
def classes (b : Block) : List BodyLine :=
  (b.body.toList.splitOn '\n').map fun line => .classify (Unicode.trim line)

/-- The lines of a body without the white space at their ends. -/
def trimmedLines (b : Block) : List (List Char) :=
  (b.body.toList.splitOn '\n').map Unicode.trim

theorem classes_eq_map (b : Block) : b.classes = b.trimmedLines.map .classify := by
  simp [classes, trimmedLines]

/-- The classified lines are numbered from the line on which the body starts. -/
theorem bodyLines_eq (b : Block) : b.bodyLines = b.classes.zipIdx b.bodyLine := by
  simp only [bodyLines, lines, classes, List.zipIdx_map, List.map_map]
  refine List.map_congr_left fun line _ => ?_
  simp [BodyLine.ofRaw, Prod.map]

/-- Each line of the body has its class at the same position. -/
theorem exists_classes_eq {b : Block} {lines after : List (List Char)} {line : List Char}
    (hsplit : b.body.toList.splitOn '\n' = lines ++ line :: after) :
    ∃ before behind, b.classes = before ++ .classify (Unicode.trim line) :: behind ∧
      before.length = lines.length := by
  refine ⟨lines.map fun line => .classify (Unicode.trim line),
    after.map fun line => .classify (Unicode.trim line), ?_, List.length_map _⟩
  rw [classes, hsplit, List.map_append, List.map_cons]

theorem map_fst_bodyLines (b : Block) : b.bodyLines.map (·.1) = b.classes := by
  rw [bodyLines_eq]
  exact List.zipIdx_map_fst b.bodyLine b.classes

theorem fields_record (b : Block) (mapping : Bool) :
    (b.record mapping).fields =
      b.classes.filterMap fun line => line.field?.map (·.field mapping) := by
  rw [← map_fst_bodyLines, List.filterMap_map]
  rfl

theorem recordName_eq (b : Block) (mapping : Bool) :
    b.recordName mapping =
      if mapping then (b.classes.findSome? BodyLine.tableAlias?).getD b.name else b.name := by
  rw [← map_fst_bodyLines, List.findSome?_map]
  rfl

theorem complaints_eq_nil (b : Block) (filename : String)
    (h : ∀ line ∈ b.classes, line.unparsable? = none) : b.complaints filename = [] := by
  have hlines : b.unparsableLines = [] := by
    rw [unparsableLines, List.filterMap_eq_nil_iff]
    intro x hx
    have hmem : x.1 ∈ b.classes := by
      rw [← map_fst_bodyLines]
      exact List.mem_map_of_mem hx
    simp [h x.1 hmem]
  simp [complaints, hlines]

end Block

end Schema

end SchemaScribe
