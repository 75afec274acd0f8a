import SchemaScribe.Code.Declaration
import Mathlib.Order.Bounds.Basic
import Mathlib.Algebra.Order.Group.Int

/-!
# Levels of a draft

An addition to a draft is level-free if it puts the same lines into every draft, each one indented
by the level of the draft, and keeps the level. Lines, series of them and blocks around them are
level-free, hence so is every declaration. A blank line is not: it is never indented.

Going back at level zero changes nothing, so the level follows a walk that is cut off at zero. It
ends at the highest of these: the end of the walk without the cut, and the rise of each stretch of
turns up to the last one.
-/
namespace SchemaScribe.Code

theorem indentation_zero : indentation 0 = "" := rfl

theorem indentation_succ (level : ℕ) :
    indentation (level + 1) = indentation level ++ indentation 1 := by
  unfold indentation
  rw [← String.ofList_append, List.replicate_append_replicate]
  rfl

namespace Draft

/-- The draft with further lines at its level. -/
def addLines (d : Draft) (lines : List String) : Draft :=
  ⟨d.level, d.lines ++ lines.map (indentation d.level ++ ·)⟩

/-- An addition that puts the same lines into every draft, at the level of the draft. -/
def LevelFree (add : Draft → Draft) : Prop := ∀ d, add d = d.addLines (add .empty).lines

theorem addLines_addLines (d : Draft) (lines more : List String) :
    (d.addLines lines).addLines more = d.addLines (lines ++ more) := by
  simp [addLines]

theorem addLines_empty (lines : List String) : empty.addLines lines = ⟨0, lines⟩ := by
  simp [addLines, empty, indentation_zero]

theorem levelFree_line (s : String) : LevelFree (·.line s) := by
  intro d
  simp [line, addLines, empty, indentation_zero]

theorem LevelFree.comp {add more : Draft → Draft} (hadd : LevelFree add) (hmore : LevelFree more) :
    LevelFree fun d => more (add d) := by
  intro d
  have hlines : (more (add .empty)).lines = (add .empty).lines ++ (more .empty).lines := by
    rw [hmore, hadd .empty, addLines_addLines, addLines_empty, addLines_empty]
  show more (add d) = d.addLines (more (add .empty)).lines
  rw [hmore, hadd d, addLines_addLines, hlines]

/-- A series of level-free additions, one for each item. -/
theorem levelFree_each {α : Type} {add : Draft → α → Draft} (hadd : ∀ x, LevelFree (add · x))
    (items : List α) : LevelFree (·.each items add) := by
  induction items with
  | nil =>
      intro d
      simp [each, addLines, empty]
  | cons x items ih => exact (hadd x).comp ih

/-- A block around a level-free addition. -/
theorem LevelFree.block {inner : Draft → Draft} (hinner : LevelFree inner)
    (opening closing : String) : LevelFree (·.block opening closing inner) := by
  -- One level deeper each inner line gets one more pair of blanks.
  have hblock : ∀ d : Draft, d.block opening closing inner =
      d.addLines (opening :: (inner .empty).lines.map (indentation 1 ++ ·) ++ [closing]) := by
    intro d
    unfold Draft.block
    rw [hinner]
    simp [addLines, line, indent, dedent, indentation_succ d.level, String.append_assoc]
  intro d
  show d.block opening closing inner = d.addLines (empty.block opening closing inner).lines
  rw [hblock d, hblock .empty, addLines_empty]

end Draft

theorem Declaration.levelFree_write (decl : Declaration) : Draft.LevelFree (write · decl) := by
  cases decl with
  | stringEnum name members =>
      exact (Draft.levelFree_each (fun m => Draft.levelFree_line (memberLine m)) members).block _ _
  | frozenObject name entries =>
      exact (Draft.levelFree_each (fun e => Draft.levelFree_line (entryLine e)) entries).block _ _
  | shapeClass name fields =>
      exact (Draft.levelFree_each (fun f => Draft.levelFree_line (fieldLine f)) fields).block _ _
  | keyAlias name value => exact Draft.levelFree_line _

/-- A change of the level. -/
inductive Turn where
  | deeper
  | back
  deriving DecidableEq, Repr

namespace Turn

def shift : Turn → ℤ
  | .deeper => 1
  | .back => -1

/-- How much some turns rise altogether. -/
def rise : List Turn → ℤ
  | [] => 0
  | turn :: rest => turn.shift + rise rest

/-- The walk along some turns, cut off at zero after each of them. -/
def clampedWalk (start : ℤ) (turns : List Turn) : ℤ :=
  turns.foldl (fun height turn => max 0 (height + turn.shift)) start

theorem clampedWalk_append (start : ℤ) (turns more : List Turn) :
    clampedWalk start (turns ++ more) = clampedWalk (clampedWalk start turns) more :=
  List.foldl_append

/-- A walk that is cut off at zero ends at the highest of the end without the cut and the rises of
the last turns. -/
theorem isGreatest_clampedWalk {start : ℤ} (hstart : 0 ≤ start) (turns : List Turn) :
    IsGreatest {height | height = start + rise turns ∨ ∃ last, last <:+ turns ∧ height = rise last}
      (clampedWalk start turns) := by
  induction turns generalizing start with
  | nil =>
      refine ⟨Or.inl (by simp [clampedWalk, rise]), ?_⟩
      rintro height (rfl | ⟨last, hlast, rfl⟩)
      · simp [clampedWalk, rise]
      · rw [List.suffix_nil.1 hlast]
        exact hstart
  | cons turn turns ih =>
      have hwalk : clampedWalk start (turn :: turns) =
          clampedWalk (max 0 (start + turn.shift)) turns := rfl
      obtain ⟨hmem, hupper⟩ := ih (le_max_left 0 (start + turn.shift))
      rw [hwalk]
      constructor
      · rcases hmem with hend | ⟨last, hlast, hend⟩
        · -- After a cut the walk starts anew at zero, and only the turns behind it count.
          rcases max_cases 0 (start + turn.shift) with ⟨hmax, -⟩ | ⟨hmax, -⟩
          · refine Or.inr ⟨turns, List.suffix_cons turn turns, ?_⟩
            rw [hend, hmax, zero_add]
          · refine Or.inl ?_
            rw [hend, hmax, rise, add_assoc]
        · exact Or.inr ⟨last, hlast.trans (List.suffix_cons turn turns), hend⟩
      · have hfree := hupper (Or.inl rfl)
        have hcut := le_max_right 0 (start + turn.shift)
        rintro height (rfl | ⟨last, hlast, rfl⟩)
        · rw [rise]
          omega
        · rcases List.suffix_cons_iff.1 hlast with rfl | hlast
          · rw [rise]
            omega
          · exact hupper (Or.inr ⟨last, hlast, rfl⟩)

end Turn

/-- A step in building a draft. Inside a block and for each item of a series come further steps. -/
inductive Step where
  | line (s : String)
  | blank
  | indent
  | dedent
  | block (opening closing : String) (inner : List Step)
  | each (items : List (List Step))

namespace Step

mutual

/-- The draft after one step. -/
def run (d : Draft) : Step → Draft
  | .line s => d.line s
  | .blank => d.blank
  | .indent => d.indent
  | .dedent => d.dedent
  | .block opening closing inner => d.block opening closing fun e => runAll e inner
  | .each items => runEach d items

/-- The draft after some steps. -/
def runAll (d : Draft) : List Step → Draft
  | [] => d
  | step :: rest => runAll (run d step) rest

/-- The draft after the steps of each item. -/
def runEach (d : Draft) : List (List Step) → Draft
  | [] => d
  | item :: rest => runEach (runAll d item) rest

end

/-- A series adds the steps of each item in order. -/
theorem run_each (d : Draft) (items : List (List Step)) :
    run d (.each items) = d.each items runAll := by
  have hitems : ∀ d, runEach d items = d.each items runAll := by
    induction items with
    | nil =>
        intro d
        rw [runEach]
        rfl
    | cons item items ih =>
        intro d
        rw [runEach, ih]
        rfl
  rw [run, hitems]

mutual

/-- The turns of one step. A block goes deeper, and back behind its inner steps. -/
def turns : Step → List Turn
  | .line _ => []
  | .blank => []
  | .indent => [.deeper]
  | .dedent => [.back]
  | .block _ _ inner => .deeper :: allTurns inner ++ [.back]
  | .each items => eachTurns items

def allTurns : List Step → List Turn
  | [] => []
  | step :: rest => turns step ++ allTurns rest

def eachTurns : List (List Step) → List Turn
  | [] => []
  | item :: rest => allTurns item ++ eachTurns rest

end

open Turn (clampedWalk clampedWalk_append)

theorem level_indent (d : Draft) : (d.indent.level : ℤ) = clampedWalk d.level [.deeper] := by
  show ((d.level + 1 : ℕ) : ℤ) = max 0 ((d.level : ℤ) + 1)
  omega

theorem level_dedent (d : Draft) : (d.dedent.level : ℤ) = clampedWalk d.level [.back] := by
  show ((d.level - 1 : ℕ) : ℤ) = max 0 ((d.level : ℤ) + -1)
  omega

mutual

/-- One step moves the level along its turns. -/
theorem level_run (d : Draft) : ∀ step : Step,
    ((run d step).level : ℤ) = clampedWalk d.level (turns step)
  | .line s => by rw [run, turns]; rfl
  | .blank => by rw [run, turns]; rfl
  | .indent => by rw [run, turns]; exact level_indent d
  | .dedent => by rw [run, turns]; exact level_dedent d
  | .block opening closing inner => by
      have hinner := level_runAll (d.line opening).indent inner
      rw [run, turns, Draft.block, Draft.level_line, level_dedent, hinner, level_indent,
        Draft.level_line, clampedWalk_append]
      rfl
  | .each items => by rw [run, turns]; exact level_runEach d items

/-- The level after some steps. -/
theorem level_runAll (d : Draft) : ∀ steps : List Step,
    ((runAll d steps).level : ℤ) = clampedWalk d.level (allTurns steps)
  | [] => by rw [runAll, allTurns]; rfl
  | step :: rest => by
      rw [runAll, allTurns, level_runAll, level_run, clampedWalk_append]

theorem level_runEach (d : Draft) : ∀ items : List (List Step),
    ((runEach d items).level : ℤ) = clampedWalk d.level (eachTurns items)
  | [] => by rw [runEach, eachTurns]; rfl
  | item :: rest => by
      rw [runEach, eachTurns, level_runEach, level_runAll, clampedWalk_append]

end

end Step

/-- In whatever state a draft is after some steps, a declaration adds the lines it has on its own,
each one behind two blanks for each level, and keeps the level. The level is where the walk along
the turns ends that is cut off at zero, and a block restores it if what stands inside does. -/
theorem declarations_written_at_level (start : Draft) (steps : List Step) :
    let d := Step.runAll start steps
    (∀ decl : Declaration, Declaration.write d decl =
      ⟨d.level, d.lines ++ (Declaration.write .empty decl).lines.map
        (String.ofList (List.replicate (2 * d.level) ' ') ++ ·)⟩) ∧
    d.level = Turn.clampedWalk start.level (Step.allTurns steps) ∧
    IsGreatest {height | height = start.level + Turn.rise (Step.allTurns steps) ∨
      ∃ last, last <:+ Step.allTurns steps ∧ height = Turn.rise last} (d.level : ℤ) ∧
    ∀ (opening closing : String) (inner : Draft → Draft),
      (inner (d.line opening).indent).level = (d.line opening).indent.level →
        (d.block opening closing inner).level = d.level := by
  intro d
  have hlevel : (d.level : ℤ) = Turn.clampedWalk start.level (Step.allTurns steps) :=
    Step.level_runAll start steps
  refine ⟨fun decl => decl.levelFree_write d, hlevel, ?_, fun opening closing inner hinner =>
    d.level_block opening closing hinner⟩
  rw [hlevel]
  exact Turn.isGreatest_clampedWalk (Int.natCast_nonneg _) _

/-- After a step back at level zero, and after a block that ends deeper than it began, an enum is
written behind one pair of blanks. -/
theorem declarations_written_at_level_unbalanced :
    let steps : List Step := [.dedent, .indent, .block "a \x7b" "\x7d" [.line "b", .blank, .indent],
      .each [[.dedent, .dedent], [.indent, .line "c"]]]
    let lines := ["  a \x7b", "    b", "", "    \x7d", "  c"]
    Step.runAll .empty steps = ⟨1, lines⟩ ∧
    Declaration.write (Step.runAll .empty steps) (.stringEnum "E" [("x", "y")]) =
      ⟨1, lines ++ ["  export enum E \x7b", "    x = \"y\",", "  \x7d"]⟩ := by
  intro steps lines
  obtain ⟨hwrite, -⟩ := declarations_written_at_level .empty steps
  have hrun : Step.runAll .empty steps = ⟨1, lines⟩ := by decide
  refine ⟨hrun, ?_⟩
  rw [hwrite, hrun]
  decide

end SchemaScribe.Code
