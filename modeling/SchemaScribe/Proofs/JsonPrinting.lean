import Mathlib.Data.List.Forall2
import SchemaScribe.Proofs.JsonGrammar

/-!
# Printed values are documents

The text of a value over several lines keeps to the grammar, and it is a document for that value. So
the reader gets every value back from its text, whatever characters the texts and the keys have.
-/
namespace SchemaScribe.Json

theorem hexDigit?_digitChar : ∀ n < 16, hexDigit? (Nat.digitChar n) = some n := by decide

/-- The code of a control character is read as the character. -/
theorem spelling_controlEscape {c : Char} (h : c < ' ') (rest : List Char) :
    Spelling c (controlEscape c ++ rest) rest := by
  have hlt : c.toNat < 32 := h
  have hcode := Code.digits rest (hexDigit?_digitChar 0 (by omega))
    (hexDigit?_digitChar 0 (by omega)) (hexDigit?_digitChar (c.toNat / 16) (by omega))
    (hexDigit?_digitChar (c.toNat % 16) (by omega))
  have hvalue : ((0 * 16 + 0) * 16 + c.toNat / 16) * 16 + c.toNat % 16 = c.toNat := by omega
  rw [hvalue] at hcode
  have hspelling := Spelling.code hcode c.valid
  rwa [Char.ofNat_toNat] at hspelling

theorem spelling_escapeChar (c : Char) (rest : List Char) :
    Spelling c (escapeChar c ++ rest) rest := by
  unfold escapeChar
  split_ifs with hquote hslash hback hfeed hline hreturn htab hcontrol
  any_goals subst c; exact .short rest (by simp [shortEscapes])
  · exact spelling_controlEscape hcontrol rest
  · exact .plain rest (Char.not_lt.1 hcontrol) hquote hslash

theorem body_escaped (s rest : List Char) : Body s (s.flatMap escapeChar ++ '"' :: rest) rest := by
  induction s with
  | nil => exact .close rest
  | cons c s ih =>
      rw [List.flatMap_cons, List.append_assoc]
      exact .char (spelling_escapeChar c _) ih

theorem toList_quote_append (s : String) (rest : List Char) :
    (quote s).toList ++ rest = '"' :: (s.toList.flatMap escapeChar ++ '"' :: rest) := by
  simp [quote]

/-- A text stands for something, whatever follows it. -/
def Prints {α : Type} (Item : α → List Char → List Char → Prop) (x : α) (s : String) : Prop :=
  ∀ rest, Item x (s.toList ++ rest) rest

theorem prints_quote (s : String) : Prints Value (.text s) (quote s) := by
  intro rest
  rw [toList_quote_append]
  simpa using Value.text (body_escaped s.toList rest)

theorem prints_member {j : Json} {s : String} (h : Prints Value j s) (key : String) :
    Prints (Member Value) (key, j) (quote key ++ ": " ++ s) := by
  intro rest
  have hkey := body_escaped key.toList (':' :: ' ' :: (s.toList ++ rest))
  have hmember := Member.pair hkey (.refl _) ⟨[' '], by simp [isBlank], rfl⟩ (h rest)
  rw [String.ofList_toList] at hmember
  simpa [toList_quote_append] using hmember

theorem blanks_margin (level : Nat) (rest : List Char) :
    Blanks ('\n' :: ((margin level).toList ++ rest)) rest := by
  refine ⟨'\n' :: (margin level).toList, ?_, rfl⟩
  intro c hc
  rw [List.mem_cons, margin, String.toList_ofList, List.mem_replicate] at hc
  rcases hc with rfl | ⟨-, rfl⟩ <;> rfl

section

variable {α : Type} {Item : α → List Char → List Char → Prop} {xs : List α} {texts : List String}

/-- Items on lines of their own, with a comma at the end of each line but the last. -/
theorem row_of_prints (h : List.Forall₂ (Prints Item) xs texts) (hne : texts ≠ []) (level : Nat)
    {close : Char} {tail rest : List Char} (htail : Blanks tail (close :: rest)) :
    Row Item close xs
      ('\n' :: ((",\n".intercalate (texts.map (margin level ++ ·))).toList ++ tail)) rest := by
  induction h with
  | nil => exact absurd rfl hne
  | @cons x s xs texts hx hxs ih =>
      cases hxs with
      | nil =>
          have hitem := Row.last (blanks_margin level (s.toList ++ tail)) (hx tail) htail
          simpa using hitem
      | @cons y s' xs texts hy hxs =>
          have hrow := Row.more (blanks_margin level _) (hx _) (.refl _) (ih (by simp))
          rw [List.map_cons, String.intercalate_cons_of_ne_nil (by simp)]
          simpa using hrow

/-- Items between brackets print a value that the grammar lets stand for the items. -/
theorem prints_enclose {j : Json} {opening closing : String} {o c : Char}
    (hopening : opening.toList = [o]) (hclosing : closing.toList = [c])
    (hempty : xs = [] → ∀ {cs rest}, Blanks cs (c :: rest) → Value j (o :: cs) rest)
    (hrow : ∀ {cs rest}, Row Item c xs cs rest → Value j (o :: cs) rest)
    (h : List.Forall₂ (Prints Item) xs texts) (level : Nat) :
    Prints Value j (enclose level opening closing texts) := by
  intro rest
  cases h with
  | nil => simpa [enclose, hopening, hclosing] using hempty rfl (.refl _)
  | cons hx hxs =>
      have hprinted := hrow (row_of_prints (.cons hx hxs) (by simp) (level + 1)
        (blanks_margin level (c :: rest)))
      simpa [enclose, hopening, hclosing] using hprinted

end

/-- The text of a value is read as the value, at every level. -/
theorem prints_prettyAt (level : Nat) (j : Json) : Prints Value j (prettyAt level j) := by
  -- The induction is the printer's own. For a list it says that each line prints its item.
  refine prettyAt.induct (fun level j => Prints Value j (prettyAt level j))
    (fun level members =>
      List.Forall₂ (Prints (Member Value)) members (prettyMembers level members))
    (fun level items => List.Forall₂ (Prints Value) items (prettyItems level items))
    ?null ?text ?list ?record ?noItem ?item ?noMember ?member level j
  case null =>
    intro level rest
    simpa [prettyAt] using Value.null rest
  case text =>
    intro level s
    rw [prettyAt]
    exact prints_quote s
  case list =>
    intro level items hitems
    rw [prettyAt]
    refine prints_enclose (by simp) (by simp) ?_ .list hitems level
    rintro rfl cs rest hblanks
    exact .emptyList hblanks
  case record =>
    intro level members hmembers
    rw [prettyAt]
    refine prints_enclose (by simp) (by simp) ?_ .record hmembers level
    rintro rfl cs rest hblanks
    exact .emptyRecord hblanks
  case noItem => exact fun level => .nil
  case item => exact fun level item rest hitem hrest => .cons hitem hrest
  case noMember => exact fun level => .nil
  case member =>
    exact fun level key value rest hvalue hrest => .cons (prints_member hvalue key) hrest

/-- A value and a line feed at the end make a document. -/
theorem document_pretty (j : Json) : Document (j.pretty ++ "\n") j := by
  have hvalue : Value j (j.pretty ++ "\n").toList ['\n'] := by
    simpa [pretty] using prints_prettyAt 0 j ['\n']
  exact ⟨_, _, .refl _, hvalue, ⟨['\n'], by simp [isBlank], rfl⟩⟩

end SchemaScribe.Json
