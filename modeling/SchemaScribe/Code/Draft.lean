/-!
# Drafts of indented code

A draft is a list of finished lines and the level at which the next line is indented. The text of a
draft is its lines with line feeds between them, so it does not end with one.
-/
namespace SchemaScribe.Code

structure Draft where
  level : Nat
  lines : List String
  deriving DecidableEq, Repr

/-- Two blanks for each level. -/
def indentation (level : Nat) : String := String.ofList (List.replicate (2 * level) ' ')

namespace Draft

def empty : Draft := ⟨0, []⟩

/-- Adds a line at the current level. -/
def line (d : Draft) (s : String) : Draft :=
  { d with lines := d.lines ++ [indentation d.level ++ s] }

/-- Adds an empty line, whatever the level. -/
def blank (d : Draft) : Draft := { d with lines := d.lines ++ [""] }

def indent (d : Draft) : Draft := { d with level := d.level + 1 }

/-- Goes one level back; level zero stays. -/
def dedent (d : Draft) : Draft := { d with level := d.level - 1 }

/-- Adds an opening line, what `inner` adds one level deeper, and a closing line. -/
def block (d : Draft) (opening closing : String) (inner : Draft → Draft) : Draft :=
  (inner (d.line opening).indent).dedent.line closing

/-- Adds something for each item, in order. -/
def each {α : Type} (d : Draft) (items : List α) (add : Draft → α → Draft) : Draft :=
  items.foldl add d

def text (d : Draft) : String := "\n".intercalate d.lines

@[simp] theorem level_line (d : Draft) (s : String) : (d.line s).level = d.level := rfl

@[simp] theorem level_blank (d : Draft) : d.blank.level = d.level := rfl

@[simp] theorem dedent_indent (d : Draft) : d.indent.dedent = d := rfl

/-- A block leaves the level as it was, if what stands inside it does. -/
theorem level_block (d : Draft) (opening closing : String) {inner : Draft → Draft}
    (h : (inner (d.line opening).indent).level = (d.line opening).indent.level) :
    (d.block opening closing inner).level = d.level := by
  rw [block, level_line, dedent, h]
  rfl

end Draft

end SchemaScribe.Code
