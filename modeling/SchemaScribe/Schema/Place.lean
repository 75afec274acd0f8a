/-!
# Places in a text

A place is a byte offset in the UTF-8 text together with the number of the line, counted from one.
Lines end at line feeds only.
-/
namespace SchemaScribe.Schema

structure Place where
  offset : Nat
  line : Nat
  deriving DecidableEq, Repr

namespace Place

/-- The beginning of a text. -/
def start : Place := ⟨0, 1⟩

/-- The place after one character. -/
def step (p : Place) (c : Char) : Place :=
  ⟨p.offset + c.utf8Size, if c = '\n' then p.line + 1 else p.line⟩

/-- The place after a run of characters. -/
def advance (p : Place) (cs : List Char) : Place := cs.foldl step p

theorem advance_append (p : Place) (cs ds : List Char) :
    p.advance (cs ++ ds) = (p.advance cs).advance ds := List.foldl_append

/-- The line number grows by the number of line feeds. -/
theorem advance_line (p : Place) (cs : List Char) :
    (p.advance cs).line = p.line + cs.count '\n' := by
  induction cs generalizing p with
  | nil => rfl
  | cons c cs ih =>
      have h : (p.advance (c :: cs)).line = ((p.step c).advance cs).line := rfl
      rw [h, ih]
      by_cases hc : c = '\n'
      · simp only [step, hc, if_true, List.count_cons_self]
        omega
      · simp [step, hc]

end Place

end SchemaScribe.Schema
