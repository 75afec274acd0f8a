import SchemaScribe.Proofs.BlockLayout
import SchemaScribe.Proofs.LineReading

/-!
# Printed schemas

The plain way to write a schema down: each block opens on a line of its own, has one line for each
field and at most one alias line, and closes on a line of its own. The parts that vary are words and
aliases, and both carry the conditions under which they can be read back. A printed schema has
exactly its blocks and no header besides theirs, and its lines are read as they were meant.
-/
namespace SchemaScribe.Schema

open Unicode (isSpace isWord)

/-- One or more word characters. -/
structure Word where
  chars : List Char
  ne_nil : chars ≠ []
  isWord : ∀ c ∈ chars, Unicode.isWord c = true

/-- A name to be used in place of a declared one. It stays within a line, a pair of quotes and a
pair of braces. -/
structure Alias where
  chars : List Char
  ne_nil : chars ≠ []
  no_quote : '"' ∉ chars
  no_lineFeed : '\n' ∉ chars
  no_openBrace : '{' ∉ chars
  no_closeBrace : '}' ∉ chars

/-- The line that renames a record, without its line feed. -/
def Alias.line (a : Alias) : List Char :=
  [' ', ' ', '@', '@', 'm', 'a', 'p', '(', '"'] ++ a.chars ++ ['"', ')']

/-- What may follow the word of a type. -/
inductive TypeMark where
  | plain
  | list
  | optional
  | optionalList
  deriving DecidableEq, Repr

def TypeMark.text : TypeMark → List Char
  | .plain => []
  | .list => ['[', ']']
  | .optional => ['?']
  | .optionalList => ['[', ']', '?']

structure FieldSource where
  name : Word
  type : Word
  mark : TypeMark
  alias? : Option Alias

structure BlockSource where
  name : Word
  fields : List FieldSource
  alias? : Option Alias

namespace FieldSource

/-- What is written behind the type. -/
def aliasText (f : FieldSource) : List Char :=
  match f.alias? with
  | none => []
  | some a => [' ', '@', 'm', 'a', 'p', '(', '"'] ++ a.chars ++ ['"', ')']

/-- The line of a field, without its line feed. -/
def line (f : FieldSource) : List Char :=
  [' ', ' '] ++ f.name.chars ++ [' '] ++ f.type.chars ++ f.mark.text ++ f.aliasText

/-- The field that the line stands for. -/
def field (f : FieldSource) (mapping : Bool) : Field where
  name := String.ofList
    (if mapping then (f.alias?.map Alias.chars).getD f.name.chars else f.name.chars)
  type := String.ofList (f.type.chars ++ f.mark.text)

end FieldSource

namespace BlockSource

/-- The lines between the braces. -/
def lines (b : BlockSource) : List (List Char) :=
  b.fields.map FieldSource.line ++ (b.alias?.map Alias.line).toList

/-- A block as it is written. -/
def text (b : BlockSource) : List Char :=
  ['m', 'o', 'd', 'e', 'l', ' '] ++ b.name.chars ++ [' ', '{', '\n'] ++
    b.lines.flatMap (· ++ ['\n']) ++ ['}', '\n']

/-- The name of the record that the block stands for. -/
def recordName (b : BlockSource) (mapping : Bool) : String :=
  String.ofList (if mapping then (b.alias?.map Alias.chars).getD b.name.chars else b.name.chars)

end BlockSource

/-- Blocks one after the other. -/
def printed (bs : List BlockSource) : String := String.ofList (bs.flatMap BlockSource.text)

/-- The characters that end a line or a block. -/
def Ends (c : Char) : Prop := c = '\n' ∨ c = '{' ∨ c = '}'

theorem Word.not_mem_of_ends {c : Char} (w : Word) (hc : Ends c) : c ∉ w.chars := by
  intro hmem
  have hword := w.isWord c hmem
  rcases hc with rfl | rfl | rfl <;> simp at hword

theorem Word.at_not_mem (w : Word) : '@' ∉ w.chars := by
  have hat : Unicode.isWord '@' = false := by decide
  intro hmem
  simpa [hat] using w.isWord _ hmem

namespace Alias

theorem not_mem_of_ends {c : Char} (a : Alias) (hc : Ends c) : c ∉ a.chars := by
  rcases hc with rfl | rfl | rfl
  · exact a.no_lineFeed
  · exact a.no_openBrace
  · exact a.no_closeBrace

theorem not_mem_line_of_ends {c : Char} (a : Alias) (hc : Ends c) : c ∉ a.line := by
  have hchars := a.not_mem_of_ends hc
  rcases hc with rfl | rfl | rfl <;> simp [line, hchars]

theorem trim_line (a : Alias) :
    Unicode.trim a.line = tableAliasOpening ++ (a.chars ++ ['"', ')']) := by
  have hline : a.line = [' ', ' '] ++ (tableAliasOpening ++ (a.chars ++ ['"', ')'])) := by
    simp [line, tableAliasOpening, fieldAliasOpening]
  rw [hline]
  apply Unicode.trim_append (by simp)
  · simp only [tableAliasOpening, List.cons_append, List.head?_cons, Option.mem_some_iff]
    rintro c rfl
    decide
  · simp only [List.getLast?_append, List.getLast?_cons_cons, List.getLast?_singleton,
      Option.some_or, Option.mem_some_iff]
    rintro c rfl
    decide

/-- A printed alias line is read as the alias it was printed from. -/
theorem classify_line (a : Alias) :
    BodyLine.classify (Unicode.trim a.line) = .attribute (some (String.ofList a.chars)) := by
  have hname : aliasAt? tableAliasOpening (tableAliasOpening ++ (a.chars ++ ['"', ')'])) =
      some a.chars :=
    aliasAt?_eq_some_iff.2 ⟨a.ne_nil, a.no_quote, [], rfl⟩
  rw [trim_line, BodyLine.classify, hname]
  simp [tableAliasOpening, fieldAliasOpening, Text.after?]

end Alias

theorem TypeMark.head_text (m : TypeMark) : ∀ c ∈ m.text.head?, isWord c = false := by
  have hbracket : isWord '[' = false := by decide
  have hquestion : isWord '?' = false := by decide
  cases m <;> simp [text, hbracket, hquestion]

theorem TypeMark.last_text (m : TypeMark) : ∀ c ∈ m.text.getLast?, isSpace c = false := by
  have hbracket : isSpace ']' = false := by decide
  have hquestion : isSpace '?' = false := by decide
  cases m <;> simp [text, hbracket, hquestion]

namespace FieldSource

theorem aliasText_of_none {f : FieldSource} (h : f.alias? = none) : f.aliasText = [] := by
  simp [aliasText, h]

theorem aliasText_of_some {f : FieldSource} {a : Alias} (h : f.alias? = some a) :
    f.aliasText = ' ' :: (fieldAliasOpening ++ (a.chars ++ ['"', ')'])) := by
  simp [aliasText, h, fieldAliasOpening]

theorem not_mem_line_of_ends {c : Char} (f : FieldSource) (hc : Ends c) : c ∉ f.line := by
  have hname := f.name.not_mem_of_ends hc
  have htype := f.type.not_mem_of_ends hc
  have hmark : c ∉ f.mark.text := by
    rcases hc with rfl | rfl | rfl <;> cases f.mark <;> decide
  have halias : c ∉ f.aliasText := by
    rw [aliasText]
    cases f.alias? with
    | none => simp
    | some a =>
        have ha := a.not_mem_of_ends hc
        rcases hc with rfl | rfl | rfl <;> simp [ha]
  rcases hc with rfl | rfl | rfl <;> simp [line, hname, htype, hmark, halias]

/-- The line without the white space before it. -/
def core (f : FieldSource) : List Char :=
  f.name.chars ++ ([' '] ++ (f.type.chars ++ (f.mark.text ++ f.aliasText)))

theorem line_eq (f : FieldSource) : f.line = [' ', ' '] ++ f.core := by
  simp [line, core]

theorem head_core (f : FieldSource) : ∀ c ∈ f.core.head?, isWord c = true :=
  Unicode.head_run f.name.ne_nil f.name.isWord _

theorem last_core (f : FieldSource) : ∀ c ∈ f.core.getLast?, isSpace c = false := by
  intro c hc
  have hcore : f.core =
      (f.name.chars ++ [' ']) ++ (f.type.chars ++ (f.mark.text ++ f.aliasText)) := by
    simp [core]
  rw [hcore, List.getLast?_append_of_ne_nil _ (by simp [f.type.ne_nil])] at hc
  cases halias : f.alias? with
  | some a =>
      have hlast : c = ')' := by
        simpa [aliasText_of_some halias, List.getLast?_append, List.getLast?_cons, eq_comm] using hc
      rw [hlast]
      decide
  | none =>
      rw [aliasText_of_none halias, List.append_nil] at hc
      by_cases hmark : f.mark.text = []
      · rw [hmark, List.append_nil] at hc
        exact Unicode.isSpace_of_isWord (f.type.isWord c (List.mem_of_getLast? hc))
      · rw [List.getLast?_append_of_ne_nil _ hmark] at hc
        exact f.mark.last_text c hc

theorem trim_line (f : FieldSource) : Unicode.trim f.line = f.core := by
  rw [line_eq]
  apply Unicode.trim_append (by simp) _ f.last_core
  intro c hc
  exact Unicode.isSpace_of_isWord (f.head_core c hc)

theorem typeMarks_append (f : FieldSource) :
    typeMarks (f.mark.text ++ f.aliasText) = f.mark.text := by
  rw [aliasText]
  cases f.mark <;> cases f.alias? <;> simp [TypeMark.text, typeMarks]

theorem head_typeRest (f : FieldSource) :
    ∀ c ∈ (f.mark.text ++ f.aliasText).head?, isWord c = false := by
  intro c hc
  by_cases hmark : f.mark.text = []
  · cases halias : f.alias? with
    | none => simp [hmark, aliasText_of_none halias] at hc
    | some a =>
        have hblank : c = ' ' := by simpa [hmark, aliasText_of_some halias, eq_comm] using hc
        simp [hblank]
  · rw [List.head?_append_of_ne_nil _ hmark] at hc
    exact f.mark.head_text c hc

/-- The alias of a printed line is the one it was printed with. -/
theorem fieldAlias_core (f : FieldSource) :
    fieldAliasFrom? false f.core = f.alias?.map Alias.chars := by
  have hmark : '@' ∉ f.mark.text := by cases f.mark <;> decide
  have hcore : f.core = (f.name.chars ++ [' '] ++ f.type.chars ++ f.mark.text) ++ f.aliasText := by
    simp [core]
  rw [hcore, fieldAliasFrom?_append _ (by simp [f.name.at_not_mem, f.type.at_not_mem, hmark])]
  cases halias : f.alias? with
  | none =>
      rw [aliasText_of_none halias]
      rfl
  | some a =>
      rw [aliasText_of_some halias, ← List.singleton_append, fieldAliasFrom?_append _ (by simp)]
      exact fieldAliasFrom?_of_aliasAt? (aliasAt?_eq_some_iff.2 ⟨a.ne_nil, a.no_quote, [], rfl⟩)

/-- A printed field line is read as the field it was printed from. -/
theorem classify_line (f : FieldSource) :
    BodyLine.classify (Unicode.trim f.line) = .field {
      declared := String.ofList f.name.chars
      type := String.ofList (f.type.chars ++ f.mark.text)
      alias? := f.alias?.map fun a => String.ofList a.chars } := by
  have hread : FieldLine.read? f.core = some {
      declared := String.ofList f.name.chars
      type := String.ofList (f.type.chars ++ f.mark.text)
      alias? := f.alias?.map fun a => String.ofList a.chars } := by
    have halias := f.fieldAlias_core
    rw [core] at halias ⊢
    rw [FieldLine.read?_append f.name.ne_nil f.name.isWord (by simp) (by simp)
      f.type.ne_nil f.type.isWord f.head_typeRest, halias, f.typeMarks_append, Option.map_map]
    rfl
  rw [trim_line]
  exact BodyLine.classify_of_read? hread

/-- The field of a printed line. -/
theorem field_of_classify (f : FieldSource) (mapping : Bool) :
    (BodyLine.classify (Unicode.trim f.line)).field?.map (·.field mapping) =
      some (f.field mapping) := by
  rw [classify_line]
  cases mapping <;> cases halias : f.alias? <;>
    simp [BodyLine.field?, FieldLine.field, field, halias]

end FieldSource

namespace BlockSource

/-- What stands between the braces. -/
def body (b : BlockSource) : List Char := '\n' :: b.lines.flatMap (· ++ ['\n'])

def blockText (b : BlockSource) : BlockText := ⟨⟨[' '], b.name.chars, [' ']⟩, b.body⟩

theorem text_eq (b : BlockSource) : b.text = b.blockText.text ++ ['\n'] := by
  simp [text, blockText, body, BlockText.text, Header.text, Header.title, keyword]

theorem not_mem_of_mem_lines {c : Char} {b : BlockSource} (hc : Ends c) {line : List Char}
    (hline : line ∈ b.lines) : c ∉ line := by
  rw [lines, List.mem_append, List.mem_map] at hline
  rcases hline with ⟨f, -, rfl⟩ | hline
  · exact f.not_mem_line_of_ends hc
  · cases halias : b.alias? with
    | none => simp [halias] at hline
    | some a =>
        have heq : line = a.line := by simpa [halias] using hline
        rw [heq]
        exact a.not_mem_line_of_ends hc

theorem not_mem_body {c : Char} (b : BlockSource) (hc : c = '{' ∨ c = '}') : c ∉ b.body := by
  have hfeed : c ≠ '\n' := by rcases hc with rfl | rfl <;> decide
  simp only [body, List.mem_cons, List.mem_flatMap, List.mem_append, hfeed, false_or,
    List.not_mem_nil, or_false, not_exists, not_and]
  intro line hline
  exact not_mem_of_mem_lines (Or.inr hc) hline

theorem wellFormed_blockText (b : BlockSource) : b.blockText.WellFormed where
  header := ⟨by simp [blockText], by simp [blockText], b.name.ne_nil, b.name.isWord,
    by simp [blockText]⟩
  body := b.not_mem_body (Or.inr rfl)

/-- The lines of a printed body, with nothing before the first line feed and behind the last. -/
theorem splitOn_body (b : BlockSource) : b.body.splitOn '\n' = [] :: (b.lines ++ [[]]) := by
  have hlines : ∀ line ∈ b.lines, '\n' ∉ line := fun _ => not_mem_of_mem_lines (Or.inl rfl)
  rw [← Text.splitOn_endedLines hlines]
  exact List.splitOn_append_cons_self_of_not_mem List.not_mem_nil _

/-- A block of a text that has the name and the body of a printed one. -/
structure Describes (b : BlockSource) (x : Block) : Prop where
  name_eq : x.name = String.ofList b.name.chars
  body_eq : x.body = String.ofList b.body

namespace Describes

variable {b : BlockSource} {x : Block}

/-- The lines of a printed body are read as its fields and its alias. -/
theorem classes_eq (h : b.Describes x) :
    x.classes = .ignored :: ((b.fields.map fun f => BodyLine.classify (Unicode.trim f.line)) ++
      ((b.alias?.map fun a => BodyLine.attribute (some (String.ofList a.chars))).toList ++
        [.ignored])) := by
  have halias : ((b.alias?.map Alias.line).toList.map fun line =>
      BodyLine.classify (Unicode.trim line)) =
        (b.alias?.map fun a => BodyLine.attribute (some (String.ofList a.chars))).toList := by
    cases b.alias? with
    | none => rfl
    | some a => simp [a.classify_line]
  have hblank : BodyLine.classify (Unicode.trim []) = .ignored := by decide
  rw [Block.classes, h.body_eq, String.toList_ofList, splitOn_body, lines, ← halias]
  simp [hblank, Function.comp_def]

theorem fields_eq (h : b.Describes x) (mapping : Bool) :
    (x.record mapping).fields = b.fields.map (·.field mapping) := by
  have hfields : (b.fields.map fun f => BodyLine.classify (Unicode.trim f.line)).filterMap
      (fun line => line.field?.map (·.field mapping)) = b.fields.map (·.field mapping) := by
    rw [List.filterMap_map, ← List.filterMap_eq_map']
    exact List.filterMap_congr fun f _ => f.field_of_classify mapping
  rw [Block.fields_record, h.classes_eq, List.filterMap_cons_none rfl, List.filterMap_append,
    hfields]
  cases b.alias? <;> simp [BodyLine.field?]

theorem recordName_eq (h : b.Describes x) (mapping : Bool) :
    x.recordName mapping = b.recordName mapping := by
  have hnone : (b.fields.map fun f => BodyLine.classify (Unicode.trim f.line)).findSome?
      BodyLine.tableAlias? = none := by
    simp [List.findSome?_eq_none_iff, FieldSource.classify_line, BodyLine.tableAlias?]
  rw [Block.recordName_eq, recordName, h.classes_eq, h.name_eq, List.findSome?_cons]
  simp only [BodyLine.tableAlias?, List.findSome?_append, hnone, Option.none_or]
  cases mapping <;> cases b.alias? <;> simp [List.findSome?, BodyLine.tableAlias?]

theorem complaints_eq (h : b.Describes x) (filename : String) : x.complaints filename = [] := by
  apply Block.complaints_eq_nil
  intro line hline
  rw [h.classes_eq] at hline
  simp only [List.mem_cons, List.mem_append, List.mem_map, Option.mem_toList,
    Option.map_eq_some_iff, List.not_mem_nil, or_false] at hline
  rcases hline with rfl | ⟨f, -, rfl⟩ | ⟨a, -, rfl⟩ | rfl
  · rfl
  · rw [f.classify_line]
    rfl
  · rfl
  · rfl

end Describes

end BlockSource

end SchemaScribe.Schema
