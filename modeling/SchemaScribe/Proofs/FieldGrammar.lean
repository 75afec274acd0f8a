import SchemaScribe.Proofs.AliasSwitch

/-!
# The grammar of field lines

A field line is a name, white space, a type word and a rest that does not go on with the word. The
two words and the blanks between them are maximal runs of disjoint classes, so a line has these
parts in one way at most. The marks of the type are the longest that the rest starts with. An alias
is looked for in the whole line: the leftmost attribute counts that no further `@` stands before,
and one that is not complete does not hide those behind it.
-/
namespace SchemaScribe.Schema

open Unicode (isSpace isWord)

/-- The parts of a field line. -/
@[ext]
structure FieldParts (line : List Char) where
  name : List Char
  gap : List Char
  type : List Char
  rest : List Char
  eq : line = name ++ (gap ++ (type ++ rest))
  name_ne_nil : name ≠ []
  name_word : ∀ c ∈ name, isWord c = true
  gap_ne_nil : gap ≠ []
  gap_space : ∀ c ∈ gap, isSpace c = true
  type_ne_nil : type ≠ []
  type_word : ∀ c ∈ type, isWord c = true
  rest_head : ∀ c ∈ rest.head?, isWord c = false

namespace FieldParts

variable {line : List Char}

/-- Behind the blanks there is a character that is not white space. -/
theorem head_type (p : FieldParts line) : ∀ c ∈ (p.type ++ p.rest).head?, isSpace c = false :=
  Unicode.head_run p.type_ne_nil (fun c hc => Unicode.isSpace_of_isWord (p.type_word c hc)) _

/-- Behind the name there is a character that is not in a word. -/
theorem head_gap (p : FieldParts line) :
    ∀ c ∈ (p.gap ++ (p.type ++ p.rest)).head?, isWord c = false :=
  Unicode.head_run p.gap_ne_nil (fun c hc => Unicode.isWord_of_isSpace (p.gap_space c hc)) _

/-- A line has its parts in one way only. -/
theorem unique (p q : FieldParts line) : p = q := by
  obtain ⟨hname, hline⟩ := Unicode.run_append_inj p.name_word p.head_gap q.name_word q.head_gap
    (p.eq.symm.trans q.eq)
  obtain ⟨hgap, hline⟩ :=
    Unicode.run_append_inj p.gap_space p.head_type q.gap_space q.head_type hline
  obtain ⟨htype, hrest⟩ :=
    Unicode.run_append_inj p.type_word p.rest_head q.type_word q.rest_head hline
  exact FieldParts.ext hname hgap htype hrest

/-- The parts that are read from a line. -/
def ofRuns (line : List Char) (hname : line.takeWhile isWord ≠ [])
    (hgap : (line.dropWhile isWord).takeWhile isSpace ≠ [])
    (htype : ((line.dropWhile isWord).dropWhile isSpace).takeWhile isWord ≠ []) :
    FieldParts line where
  name := line.takeWhile isWord
  gap := (line.dropWhile isWord).takeWhile isSpace
  type := ((line.dropWhile isWord).dropWhile isSpace).takeWhile isWord
  rest := ((line.dropWhile isWord).dropWhile isSpace).dropWhile isWord
  eq := by simp only [List.takeWhile_append_dropWhile]
  name_ne_nil := hname
  name_word _ hc := List.mem_takeWhile_imp hc
  gap_ne_nil := hgap
  gap_space _ hc := List.mem_takeWhile_imp hc
  type_ne_nil := htype
  type_word _ hc := List.mem_takeWhile_imp hc
  rest_head c hc := by
    have hnot := List.head?_dropWhile_not isWord ((line.dropWhile isWord).dropWhile isSpace)
    rw [hc] at hnot
    exact hnot

end FieldParts

/-- The marks that a type may carry. -/
def markTexts : List (List Char) := [['[', ']', '?'], ['[', ']'], ['?'], []]

/-- The longest marks that a text starts with. -/
structure LongestMarks (marks cs : List Char) : Prop where
  mem : marks ∈ markTexts
  stands : marks <+: cs
  longest : ∀ other ∈ markTexts, other <+: cs → other.length ≤ marks.length

theorem LongestMarks.unique {marks marks' cs : List Char} (h : LongestMarks marks cs)
    (h' : LongestMarks marks' cs) : marks = marks' := by
  have hle := h'.longest marks h.mem h.stands
  have hge := h.longest marks' h'.mem h'.stands
  exact (List.prefix_of_prefix_length_le h.stands h'.stands hle).eq_of_length (by omega)

theorem eq_of_mem_markTexts {marks : List Char} (h : marks ∈ markTexts) :
    marks = ['[', ']', '?'] ∨ marks = ['[', ']'] ∨ marks = ['?'] ∨ marks = [] := by
  simpa [markTexts] using h

theorem longestMarks_typeMarks (cs : List Char) : LongestMarks (typeMarks cs) cs := by
  unfold typeMarks
  split
  · refine ⟨by decide, by simp, fun other hother _ => ?_⟩
    rcases eq_of_mem_markTexts hother with rfl | rfl | rfl | rfl <;> simp
  · rename_i rest hno
    refine ⟨by decide, by simp, fun other hother hstands => ?_⟩
    rcases eq_of_mem_markTexts hother with rfl | rfl | rfl | rfl
    · obtain ⟨behind, hbehind⟩ := hstands
      exact absurd (by simpa using hbehind.symm) (hno behind)
    all_goals simp
  · refine ⟨by decide, by simp, fun other hother hstands => ?_⟩
    rcases eq_of_mem_markTexts hother with rfl | rfl | rfl | rfl
    · simp at hstands
    · simp at hstands
    all_goals simp
  · rename_i hboth hlist hoptional
    refine ⟨by decide, by simp, fun other hother hstands => ?_⟩
    obtain ⟨behind, rfl⟩ := hstands
    rcases eq_of_mem_markTexts hother with rfl | rfl | rfl | rfl
    · exact absurd rfl (hboth behind)
    · exact absurd rfl (hlist behind)
    · exact absurd rfl (hoptional behind)
    · simp

/-- An alias of a field stands in a line behind some of its characters. -/
structure AliasBehind (before name line : List Char) : Prop where
  lone : before.getLast? ≠ some '@'
  opens : ∃ rest, line = before ++ rest ∧ OpensAlias fieldAliasOpening name rest

/-- The leftmost alias of a line, if there is any. -/
def LeftmostAlias (line : List Char) : Option (List Char) → Prop
  | none => ∀ before name, ¬AliasBehind before name line
  | some name => ∃ before, AliasBehind before name line ∧
      ∀ before' name', AliasBehind before' name' line → before.length ≤ before'.length

theorem aliasBehind_iff {before name cs : List Char} :
    AliasBehind before name (before ++ cs) ↔
      before.getLast? ≠ some '@' ∧ aliasAt? fieldAliasOpening cs = some name := by
  rw [← opensAlias_iff]
  constructor
  · rintro ⟨hlone, rest, hrest, hopens⟩
    exact ⟨hlone, List.append_cancel_left hrest ▸ hopens⟩
  · rintro ⟨hlone, hopens⟩
    exact ⟨hlone, cs, rfl, hopens⟩

/-- An alias is not behind the whole line. -/
theorem AliasBehind.length_lt {before name line : List Char} (h : AliasBehind before name line) :
    before.length < line.length := by
  obtain ⟨rest, rfl, hopens⟩ := h.opens
  have hle := hopens.stands.length_le
  simp only [List.length_append, fieldAliasOpening, List.length_cons] at hle ⊢
  omega

/-- Behind the same number of characters stands one alias. -/
theorem AliasBehind.unique {before before' name name' line : List Char}
    (h : AliasBehind before name line) (h' : AliasBehind before' name' line)
    (hlength : before.length = before'.length) : before = before' ∧ name = name' := by
  obtain ⟨rest, rfl, hopens⟩ := h.opens
  obtain ⟨rest', hrest, hopens'⟩ := h'.opens
  obtain ⟨rfl, rfl⟩ := List.append_inj hrest hlength
  rw [opensAlias_iff] at hopens hopens'
  exact ⟨rfl, Option.some.inj (hopens.symm.trans hopens')⟩

theorem LeftmostAlias.unique {line : List Char} {alias? alias?' : Option (List Char)}
    (h : LeftmostAlias line alias?) (h' : LeftmostAlias line alias?') : alias? = alias?' := by
  cases alias? with
  | none =>
      cases alias?' with
      | none => rfl
      | some name' =>
          obtain ⟨before', hbefore', -⟩ := h'
          exact absurd hbefore' (h before' name')
  | some name =>
      obtain ⟨before, hbefore, hleft⟩ := h
      cases alias?' with
      | none => exact absurd hbefore (h' before name)
      | some name' =>
          obtain ⟨before', hbefore', hleft'⟩ := h'
          have hle := hleft before' name' hbefore'
          have hge := hleft' before name hbefore
          rw [(hbefore.unique hbefore' (by omega)).2]

/-- The search goes from left to right: if no alias stands behind fewer characters than those that
were passed, it finds the leftmost one. -/
theorem leftmostAlias_fieldAliasFrom? {afterAt : Bool} {before cs : List Char}
    (hat : afterAt = true ↔ before.getLast? = some '@')
    (hpassed : ∀ before' name, AliasBehind before' name (before ++ cs) →
      before.length ≤ before'.length) :
    LeftmostAlias (before ++ cs) (fieldAliasFrom? afterAt cs) := by
  induction cs generalizing before afterAt with
  | nil =>
      intro before' name hbehind
      have hle := hpassed before' name hbehind
      have hlt := hbehind.length_lt
      rw [List.append_nil] at hlt
      omega
  | cons c cs ih =>
      rw [fieldAliasFrom?]
      split
      · rename_i name hfound
        cases afterAt with
        | true => simp at hfound
        | false =>
            refine ⟨before, aliasBehind_iff.2 ⟨?_, by simpa using hfound⟩, hpassed⟩
            simpa using hat
      · rename_i hnone
        have hline : before ++ c :: cs = before ++ [c] ++ cs := by simp
        rw [hline] at hpassed ⊢
        refine ih (by simp) fun before' name hbehind => ?_
        -- Nothing is found here, so what is not passed is behind one more character.
        have hle := hpassed before' name hbehind
        by_contra hlt
        obtain ⟨rest, hrest, hopens⟩ := hbehind.opens
        have hsame : before = before' := by
          rw [List.append_assoc] at hrest
          refine (List.append_inj hrest ?_).1
          simp only [List.length_append, List.length_singleton] at hlt
          omega
        subst hsame
        rw [← hline] at hbehind
        obtain ⟨hlone, halias⟩ := aliasBehind_iff.1 hbehind
        have hfalse : afterAt = false := by
          rw [← Bool.not_eq_true, hat]
          exact hlone
        simp [hfalse, halias] at hnone

/-- The field that a line declares, under its alias when aliases are in force. -/
def Declares (line : List Char) (mapping : Bool) (f : Field) : Prop :=
  ∃ (p : FieldParts line) (marks : List Char) (alias? : Option (List Char)),
    LongestMarks marks p.rest ∧ LeftmostAlias line alias? ∧
    f.name = String.ofList (if mapping then alias?.getD p.name else p.name) ∧
    f.type = String.ofList (p.type ++ marks)

theorem leftmostAlias_line (line : List Char) :
    LeftmostAlias line (fieldAliasFrom? false line) := by
  have hline : LeftmostAlias ([] ++ line) (fieldAliasFrom? false line) :=
    leftmostAlias_fieldAliasFrom? (by simp) (by simp)
  exact hline

theorem FieldLine.read?_of_parts {line : List Char} (p : FieldParts line) :
    read? line = some {
      declared := String.ofList p.name
      type := String.ofList (p.type ++ typeMarks p.rest)
      alias? := (fieldAliasFrom? false line).map String.ofList } := by
  have hread := read?_append p.name_ne_nil p.name_word p.gap_ne_nil p.gap_space p.type_ne_nil
    p.type_word p.rest_head
  rwa [← p.eq] at hread

theorem FieldLine.nonempty_parts_of_read? {line : List Char} {found : FieldLine}
    (h : read? line = some found) : Nonempty (FieldParts line) := by
  rw [read?] at h
  split_ifs at h with hnone
  simp only [not_or] at hnone
  exact ⟨.ofRuns line hnone.1 hnone.2.1 hnone.2.2⟩

/-- A line is read as a field exactly if it has the parts of one. -/
theorem FieldLine.isSome_read?_iff {line : List Char} :
    (read? line).isSome ↔ Nonempty (FieldParts line) := by
  rw [Option.isSome_iff_exists]
  constructor
  · rintro ⟨found, hfound⟩
    exact nonempty_parts_of_read? hfound
  · rintro ⟨p⟩
    exact ⟨_, read?_of_parts p⟩

/-- A line is read as the field that it declares. -/
theorem FieldLine.field_read?_eq_some_iff {line : List Char} {mapping : Bool} {f : Field} :
    (read? line).map (·.field mapping) = some f ↔ Declares line mapping f := by
  constructor
  · intro h
    obtain ⟨found, hfound, hf⟩ := Option.map_eq_some_iff.1 h
    obtain ⟨p⟩ := nonempty_parts_of_read? hfound
    refine ⟨p, _, _, longestMarks_typeMarks p.rest, leftmostAlias_line line, ?_⟩
    rw [read?_of_parts p] at hfound
    obtain rfl := Option.some.inj hfound
    rw [← hf]
    cases fieldAliasFrom? false line <;> cases mapping <;> exact ⟨rfl, rfl⟩
  · rintro ⟨p, marks, alias?, hmarks, halias, hname, htype⟩
    rw [hmarks.unique (longestMarks_typeMarks p.rest)] at htype
    rw [halias.unique (leftmostAlias_line line)] at hname
    rw [read?_of_parts p, Option.map_some]
    congr 1
    refine (Field.mk.injEq ..).mpr ⟨?_, htype.symm⟩
    rw [hname]
    cases fieldAliasFrom? false line <;> cases mapping <;> rfl

example : (FieldLine.read? "x String?[] @@map(\"a\") @map(\"\") @map(\"b\") @map(\"c\")".toList).map
    (·.field true) = some ⟨"b", "String?"⟩ := by
  decide +kernel

/-- The reader accepts exactly the lines with the parts of a field line. These parts are unique, and
they tell the field: its type is the type word with the longest marks behind it, its name is the
declared one or, when aliases are in force and there is one, the leftmost alias. -/
theorem field_line_read_iff_declares (line : List Char) (mapping : Bool) :
    (((FieldLine.read? line).map (·.field mapping)).isSome ↔ Nonempty (FieldParts line)) ∧
    (∀ p q : FieldParts line, p = q) ∧
    ∀ f, (FieldLine.read? line).map (·.field mapping) = some f ↔ Declares line mapping f := by
  refine ⟨?_, FieldParts.unique, fun f => FieldLine.field_read?_eq_some_iff⟩
  rw [Option.isSome_map, FieldLine.isSome_read?_iff]

end SchemaScribe.Schema
