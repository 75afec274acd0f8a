import SchemaScribe.Code.Declaration
import SchemaScribe.Proofs.LineReading

/-!
# Declarations as framed rows

An enum, a frozen object and a class are written alike: an opening line, a row for each member one
level deeper, and what closes the declaration. Given the frame, the text determines the rows, as
long as no row has a line feed in it. The frame itself may have line feeds.
-/
namespace SchemaScribe.Code

namespace Draft

theorem each_line {α : Type} (d : Draft) (items : List α) (row : α → String) :
    d.each items (fun d x => d.line (row x)) =
      ⟨d.level, d.lines ++ items.map fun x => indentation d.level ++ row x⟩ := by
  induction items generalizing d with
  | nil => simp [each]
  | cons x items ih =>
      have hstep : d.each (x :: items) (fun d x => d.line (row x)) =
          (d.line (row x)).each items fun d x => d.line (row x) := rfl
      rw [hstep, ih]
      simp [line]

end Draft

/-- The lines around the rows of a declaration. -/
structure Frame where
  opening : String
  closing : List String
  closing_ne_nil : closing ≠ []

namespace Frame

/-- The lines of a declaration with the given rows. -/
def lines (frame : Frame) (rows : List String) : List String :=
  frame.opening :: (rows.map (indentation 1 ++ ·) ++ frame.closing)

def text (frame : Frame) (rows : List String) : String := "\n".intercalate (frame.lines rows)

def ofEnum (name : String) : Frame := ⟨"export enum " ++ name ++ " \x7b", ["\x7d"], by simp⟩

def ofObject (name : String) : Frame :=
  ⟨"export const " ++ name ++ " = \x7b", ["\x7d as const;"], by simp⟩

def ofClass (name : String) : Frame := ⟨"export class " ++ name ++ " \x7b", ["\x7d"], by simp⟩

/-- Further lines behind a declaration. -/
def followedBy (frame : Frame) (lines : List String) : Frame :=
  ⟨frame.opening, frame.closing ++ lines, by simp [frame.closing_ne_nil]⟩

/-- Lines before the last ones are each ended by a line feed. -/
theorem toList_intercalate_append (lines : List String) {rest : List String} (h : rest ≠ []) :
    ("\n".intercalate (lines ++ rest)).toList =
      (lines.map String.toList).flatMap (· ++ ['\n']) ++ ("\n".intercalate rest).toList := by
  induction lines with
  | nil => rfl
  | cons line lines ih =>
      have hne : lines ++ rest ≠ [] := by simp [h]
      rw [List.cons_append, String.intercalate_cons_of_ne_nil hne, String.toList_append,
        String.toList_append, ih]
      simp

/-- In a given frame the text determines the rows. -/
theorem rows_eq_of_text_eq (frame : Frame) {rows rows' : List String}
    (hrows : ∀ row ∈ rows, '\n' ∉ row.toList) (hrows' : ∀ row ∈ rows', '\n' ∉ row.toList)
    (h : frame.text rows = frame.text rows') : rows = rows' := by
  have hlines : ∀ {rows : List String}, (∀ row ∈ rows, '\n' ∉ row.toList) →
      ∀ line ∈ (rows.map (indentation 1 ++ ·)).map String.toList, '\n' ∉ line := by
    intro rows hrows line hline
    rw [List.map_map, List.mem_map] at hline
    obtain ⟨row, hrow, rfl⟩ := hline
    have hindent : '\n' ∉ (indentation 1).toList := by decide
    simp [hindent, hrows row hrow]
  -- The frame may have line feeds of its own, so it cancels before the text is cut into lines.
  have htext := congrArg String.toList h
  simp only [text, lines, ← List.cons_append, toList_intercalate_append _ frame.closing_ne_nil,
    List.map_cons, List.flatMap_cons, List.append_assoc, List.append_cancel_left_eq,
    List.append_cancel_right_eq] at htext
  have hsplit := congrArg (List.splitOn '\n') htext
  rw [Text.splitOn_endedLines (hlines hrows), Text.splitOn_endedLines (hlines hrows')] at hsplit
  have hmap := List.append_cancel_right hsplit
  have hindented := List.map_injective_iff.2 (fun _ _ => String.toList_inj.1) hmap
  exact List.map_injective_iff.2 (fun _ _ => String.append_right_inj _ |>.1) hindented

end Frame

/-- A block with a row for each item, written on its own. -/
theorem Draft.block_each {α : Type} (opening closing : String) (items : List α)
    (row : α → String) :
    (Draft.empty.block opening closing fun d => d.each items fun d x => d.line (row x)) =
      ⟨0, Frame.lines ⟨opening, [closing], List.cons_ne_nil _ _⟩ (items.map row)⟩ := by
  have hzero : indentation 0 = "" := rfl
  rw [Draft.block, Draft.each_line]
  simp [Draft.empty, Draft.line, Draft.indent, Draft.dedent, Frame.lines, hzero,
    Function.comp_def]

namespace Declaration

theorem write_stringEnum (name : String) (members : List (String × String)) :
    write .empty (.stringEnum name members) =
      ⟨0, (Frame.ofEnum name).lines (members.map memberLine)⟩ :=
  Draft.block_each ..

theorem write_frozenObject (name : String) (entries : List (String × Slot)) :
    write .empty (.frozenObject name entries) =
      ⟨0, (Frame.ofObject name).lines (entries.map entryLine)⟩ :=
  Draft.block_each ..

theorem write_shapeClass (name : String) (fields : List (String × String)) :
    write .empty (.shapeClass name fields) =
      ⟨0, (Frame.ofClass name).lines (fields.map fieldLine)⟩ :=
  Draft.block_each ..

end Declaration

end SchemaScribe.Code
