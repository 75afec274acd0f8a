import SchemaScribe.Proofs.LineReading
import SchemaScribe.Proofs.Scan
import Mathlib.Data.List.Induction

/-!
# Lines of a text

A text is cut at its line feeds, and the pieces are counted from one. The number of the line that
holds a position is one more than the number of line feeds before the position, so the line of a
place is the line that holds it.
-/
namespace SchemaScribe

namespace Text

/-- Characters without a line feed belong to the first line of what follows them. -/
theorem splitOn_append_of_not_mem {part : List Char} (hpart : '\n' ∉ part) (cs : List Char) :
    (part ++ cs).splitOn '\n' = (cs.splitOn '\n').modifyHead (part ++ ·) := by
  induction part with
  | nil =>
      rw [List.nil_append]
      cases cs.splitOn '\n' <;> rfl
  | cons c part ih =>
      simp only [List.mem_cons, not_or] at hpart
      have hc : (c == '\n') = false := by simpa using Ne.symm hpart.1
      rw [List.cons_append, List.splitOn_cons_eq_if_modifyHead, if_neg (by simp [hc]), ih hpart.2,
        List.modifyHead_modifyHead]
      rfl

/-- A line of a text stands behind the lines before it, each with its line feed. -/
theorem exists_rest_of_splitOn_eq {cs line : List Char} {before after : List (List Char)}
    (h : cs.splitOn '\n' = before ++ line :: after) :
    ∃ rest, cs = before.flatMap (· ++ ['\n']) ++ (line ++ rest) := by
  have hcs : ['\n'].intercalate (cs.splitOn '\n') = cs := List.intercalate_splitOn '\n'
  rw [← hcs, h]
  clear h hcs
  induction before with
  | nil =>
      cases after with
      | nil => exact ⟨[], by simp⟩
      | cons next after =>
          exact ⟨['\n'] ++ ['\n'].intercalate (next :: after),
            by simp [List.intercalate_cons_cons]⟩
  | cons first before ih =>
      obtain ⟨rest, hrest⟩ := ih
      refine ⟨rest, ?_⟩
      rw [List.cons_append, List.intercalate_cons_of_ne_nil (by simp), hrest]
      simp

theorem count_endedLines {lines : List (List Char)} (h : ∀ line ∈ lines, '\n' ∉ line) :
    (lines.flatMap (· ++ ['\n'])).count '\n' = lines.length := by
  induction lines with
  | nil => rfl
  | cons line lines ih =>
      have hline : line.count '\n' = 0 := List.count_eq_zero.2 (h line (by simp))
      have hlines := ih fun other hmem => h other (by simp [hmem])
      simp [hline, hlines]

/-- A text is a number of ended lines and a last one. -/
theorem exists_endedLines (cs : List Char) :
    ∃ (lines : List (List Char)) (last : List Char), cs = lines.flatMap (· ++ ['\n']) ++ last ∧
      (∀ line ∈ lines, '\n' ∉ line) ∧ '\n' ∉ last := by
  induction cs using List.reverseRecOn with
  | nil => exact ⟨[], [], rfl, by simp, by simp⟩
  | append_singleton cs c ih =>
      obtain ⟨lines, last, rfl, hlines, hlast⟩ := ih
      by_cases hc : c = '\n'
      · refine ⟨lines ++ [last], [], by simp [hc], fun line hmem => ?_, by simp⟩
        rcases List.mem_append.1 hmem with hmem | hmem
        · exact hlines line hmem
        · rwa [List.mem_singleton.1 hmem]
      · exact ⟨lines, last ++ [c], by simp, hlines, by simp [hlast, Ne.symm hc]⟩

/-- The last line and the lines before it are found again in a text. -/
theorem endedLines_append_inj {lines lines' : List (List Char)} {last last' : List Char}
    (hlines : ∀ line ∈ lines, '\n' ∉ line) (hlast : '\n' ∉ last)
    (hlines' : ∀ line ∈ lines', '\n' ∉ line) (hlast' : '\n' ∉ last')
    (h : lines.flatMap (· ++ ['\n']) ++ last = lines'.flatMap (· ++ ['\n']) ++ last') :
    lines = lines' ∧ last = last' := by
  have hsplit := congrArg (List.splitOn '\n') h
  rw [splitOn_endedLines_append hlines, splitOn_endedLines_append hlines',
    List.splitOn_eq_singleton hlast, List.splitOn_eq_singleton hlast'] at hsplit
  simpa using List.append_inj' hsplit rfl

/-- A text that is empty or ends with a line feed is a number of ended lines. -/
theorem exists_eq_endedLines {cs : List Char} (h : cs = [] ∨ cs.getLast? = some '\n') :
    ∃ lines : List (List Char), cs = lines.flatMap (· ++ ['\n']) ∧ ∀ line ∈ lines, '\n' ∉ line := by
  obtain ⟨lines, last, hcs, hlines, hlast⟩ := exists_endedLines cs
  have hnil : last = [] := by
    by_contra hne
    rcases h with hempty | hfeed
    · simp [hempty, hne] at hcs
    · rw [hcs, List.getLast?_append_of_ne_nil _ hne] at hfeed
      exact hlast (List.mem_of_getLast? hfeed)
  rw [hnil, List.append_nil] at hcs
  exact ⟨lines, hcs, hlines⟩

/-- The lines before some characters, and the line that they are on. -/
theorem exists_splitOn_eq {part : List Char} (before rest : List Char) (hpart : '\n' ∉ part) :
    ∃ lines left right after, before = lines.flatMap (· ++ ['\n']) ++ left ∧
      lines.length = before.count '\n' ∧ right <+: rest ∧
      (before ++ (part ++ rest)).splitOn '\n' = lines ++ (left ++ (part ++ right)) :: after := by
  obtain ⟨lines, left, rfl, hlines, hleft⟩ := exists_endedLines before
  obtain ⟨right, after, hright⟩ := List.exists_cons_of_ne_nil (List.splitOn_ne_nil '\n' rest)
  refine ⟨lines, left, right, after, rfl, ?_, ?_, ?_⟩
  · rw [List.count_append, count_endedLines hlines, List.count_eq_zero.2 hleft, Nat.add_zero]
  · have hfirst : rest.splitOn '\n' = [] ++ right :: after := hright
    obtain ⟨behind, hbehind⟩ := exists_rest_of_splitOn_eq hfirst
    exact ⟨behind, hbehind.symm⟩
  · have hsame : '\n' ∉ left ++ part := by simp [hleft, hpart]
    rw [List.append_assoc, splitOn_endedLines_append hlines, ← List.append_assoc left,
      splitOn_append_of_not_mem hsame, hright, List.modifyHead_cons, List.append_assoc]

end Text

namespace Schema

/-- Some characters stand at a position of the text, within the line of the given number. -/
def OnLine (cs : List Char) (n i : Nat) (part : List Char) : Prop :=
  ∃ lines left right after, cs.splitOn '\n' = lines ++ (left ++ (part ++ right)) :: after ∧
    n = lines.length + 1 ∧ i = (lines.flatMap (· ++ ['\n'])).length + left.length

/-- What stands at a position and has no line feed is on the line of its place. -/
theorem onLine_placeAt {cs part : List Char} {i : Nat} (hi : i ≤ cs.length)
    (hpart : '\n' ∉ part) (hpre : part <+: cs.drop i) : OnLine cs (placeAt cs i).line i part := by
  obtain ⟨rest, hrest⟩ := hpre
  obtain ⟨lines, left, right, after, hbefore, hcount, -, hsplit⟩ :=
    Text.exists_splitOn_eq (cs.take i) rest hpart
  rw [hrest, List.take_append_drop] at hsplit
  refine ⟨lines, left, right, after, hsplit, ?_, ?_⟩
  · rw [line_placeAt, hcount]
  · rw [← List.length_append, ← hbefore, List.length_take, Nat.min_eq_left hi]

/-- What is on a line stands at its position, and no line feed comes before it on the line. -/
theorem OnLine.exists_eq_append {cs part : List Char} {n i : Nat} (h : OnLine cs n i part) :
    ∃ before rest, cs = before ++ (part ++ rest) ∧ '\n' ∉ part ∧ before.length = i ∧
      before.count '\n' + 1 = n := by
  obtain ⟨lines, left, right, after, hsplit, rfl, rfl⟩ := h
  have hfree : ∀ line ∈ lines ++ (left ++ (part ++ right)) :: after, '\n' ∉ line := by
    intro line hmem
    rw [← hsplit] at hmem
    exact Text.not_mem_of_mem_splitOn hmem
  have hline : '\n' ∉ left ++ (part ++ right) := hfree _ (by simp)
  simp only [List.mem_append, not_or] at hline
  obtain ⟨rest, hrest⟩ := Text.exists_rest_of_splitOn_eq hsplit
  refine ⟨lines.flatMap (· ++ ['\n']) ++ left, right ++ rest, by simp [hrest], hline.2.1,
    List.length_append, ?_⟩
  rw [List.count_append, Text.count_endedLines fun line hmem => hfree line (by simp [hmem]),
    List.count_eq_zero.2 hline.1, Nat.add_zero]

theorem OnLine.line_eq {cs part : List Char} {n i : Nat} (h : OnLine cs n i part) :
    n = (placeAt cs i).line := by
  obtain ⟨before, rest, rfl, -, rfl, rfl⟩ := h.exists_eq_append
  rw [line_placeAt, List.take_left]

/-- What is on a line of a part of the text is on a line of the text. -/
theorem OnLine.within {cs body part : List Char} {n k d : Nat} (h : OnLine body n d part)
    (hbody : body <+: cs.drop k) (hk : k ≤ cs.length) :
    OnLine cs ((placeAt cs k).line + (n - 1)) (k + d) part := by
  obtain ⟨before, rest, rfl, hpart, rfl, rfl⟩ := h.exists_eq_append
  obtain ⟨behind, hbehind⟩ := hbody
  have hbefore : before <+: cs.drop k := ⟨part ++ rest ++ behind, by simp [← hbehind]⟩
  have hdrop : cs.drop (k + before.length) = part ++ (rest ++ behind) := by
    rw [← List.drop_drop, ← hbehind]
    simp
  have hlength : k + before.length ≤ cs.length := by
    have hle := hbefore.length_le
    rw [List.length_drop] at hle
    omega
  have hon := onLine_placeAt hlength hpart ⟨rest ++ behind, hdrop.symm⟩
  rwa [← advance_placeAt hbefore, Place.advance_line] at hon

/-- A later position is on no earlier line. -/
theorem line_placeAt_le (cs : List Char) {i j : Nat} (hij : i ≤ j) :
    (placeAt cs i).line ≤ (placeAt cs j).line := by
  obtain ⟨n, rfl⟩ := Nat.exists_eq_add_of_le hij
  rw [placeAt_add, Place.advance_line]
  exact Nat.le_add_right _ _

end Schema

end SchemaScribe
