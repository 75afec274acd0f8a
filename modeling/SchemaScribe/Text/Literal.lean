/-!
# Fixed words at the head of a text

Readers in this library consume a list of characters from its head and hand back the rest.
-/
namespace SchemaScribe.Text

/-- What follows a fixed word at the head of a text, if the text starts with it. -/
def after? : List Char → List Char → Option (List Char)
  | [], cs => some cs
  | _ :: _, [] => none
  | w :: ws, c :: cs => if w = c then after? ws cs else none

/-- The head of a text up to a given character, and what follows that character. -/
def upTo? (stop : Char) : List Char → Option (List Char × List Char)
  | [] => none
  | c :: cs => if c = stop then some ([], cs) else (upTo? stop cs).map fun (h, r) => (c :: h, r)

@[simp] theorem after?_append (ws cs : List Char) : after? ws (ws ++ cs) = some cs := by
  induction ws with
  | nil => rfl
  | cons w ws ih => simp [after?, ih]

theorem eq_append_of_after? {ws cs rest : List Char} (h : after? ws cs = some rest) :
    cs = ws ++ rest := by
  induction ws generalizing cs with
  | nil => simpa [after?] using h
  | cons w ws ih =>
      cases cs with
      | nil => simp [after?] at h
      | cons c cs =>
          by_cases hw : w = c
          · simp only [after?, hw, if_true] at h
            simp [hw, ih h]
          · simp [after?, hw] at h

theorem upTo?_eq_some {stop : Char} {cs head rest : List Char}
    (h : upTo? stop cs = some (head, rest)) : cs = head ++ stop :: rest ∧ stop ∉ head := by
  induction cs generalizing head with
  | nil => simp [upTo?] at h
  | cons c cs ih =>
      by_cases hc : c = stop
      · simp only [upTo?, hc, if_true, Option.some.injEq, Prod.mk.injEq] at h
        obtain ⟨rfl, rfl⟩ := h
        simp [hc]
      · simp only [upTo?, hc, if_false, Option.map_eq_some_iff] at h
        obtain ⟨⟨h', r'⟩, heq, hpair⟩ := h
        simp only [Prod.mk.injEq] at hpair
        obtain ⟨rfl, rfl⟩ := hpair
        obtain ⟨hcs, hmem⟩ := ih heq
        exact ⟨by simp [hcs], by simp [hmem, Ne.symm hc]⟩

end SchemaScribe.Text
