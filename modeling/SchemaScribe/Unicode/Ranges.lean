/-!
# Sets of code points

A character class of the Unicode standard is stored as the ascending list of its maximal runs of
code points. Membership stops at the first run that starts beyond the code point asked for, so the
characters of everyday text are decided within the first few runs.
-/
namespace SchemaScribe.Unicode

/-- Closed runs of code points, in ascending order and disjoint. -/
abbrev Ranges := List (Nat × Nat)

/-- Whether a code point lies in one of the runs. -/
def Ranges.covers : Ranges → Nat → Bool
  | [], _ => false
  | (first, last) :: rest, n =>
      if n < first then false else decide (n ≤ last) || Ranges.covers rest n

end SchemaScribe.Unicode
