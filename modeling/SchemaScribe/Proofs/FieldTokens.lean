import SchemaScribe.Proofs.OutputOrder

/-!
# Fields as tokens

The type of a field is always a word with its marks. Its name is a word when it is the declared one.
An alias may be any text without a quote, and with aliases in force it becomes the name unchecked.
So a name is a single token unless the line gives an alias that is none. The enums, classes and
shapes of a record write the names as their keys, and these are single tokens in just the same
cases.
-/
namespace SchemaScribe

open Unicode (IsToken isWord)

/-- A text starts with a token that the next character does not continue. -/
structure Text.OpensWith (token text : String) : Prop where
  isToken : IsToken token.toList
  ends : ∃ rest, text.toList = token.toList ++ rest ∧ ∀ c ∈ rest.head?, isWord c = false

namespace Schema

/-- A word and the marks that a type may carry. -/
def IsTypeToken (type : String) : Prop :=
  ∃ word marks, IsToken word ∧ marks ∈ markTexts ∧ type.toList = word ++ marks

/-- With aliases in force, a line names its field by an alias that is not a single token. -/
def NamedOddly (line : List Char) (mapping : Bool) : Prop :=
  mapping = true ∧ ∃ name, LeftmostAlias line (some name) ∧ ¬IsToken name

variable {line : List Char} {mapping : Bool} {f : Field}

theorem FieldParts.isToken_name (p : FieldParts line) : IsToken p.name :=
  ⟨p.name_ne_nil, p.name_word⟩

theorem LeftmostAlias.ne_nil {name : List Char} (h : LeftmostAlias line (some name)) :
    name ≠ [] := by
  obtain ⟨before, hbefore, -⟩ := h
  obtain ⟨rest, -, hopens⟩ := hbefore.opens
  exact hopens.ne_nil

theorem Declares.isTypeToken (h : Declares line mapping f) : IsTypeToken f.type := by
  obtain ⟨p, marks, alias?, hmarks, -, -, htype⟩ := h
  exact ⟨p.type, marks, ⟨p.type_ne_nil, p.type_word⟩, hmarks.mem,
    by rw [htype, String.toList_ofList]⟩

/-- The name of a field is the declared one, a word, or the alias of its line. -/
theorem Declares.name_cases (h : Declares line mapping f) :
    (IsToken f.name.toList ∧ ∀ name, mapping = true → ¬LeftmostAlias line (some name)) ∨
      mapping = true ∧ LeftmostAlias line (some f.name.toList) := by
  obtain ⟨p, marks, alias?, -, halias, hname, -⟩ := h
  cases mapping with
  | false =>
      refine .inl ⟨?_, fun _ hmapping => by cases hmapping⟩
      rw [hname, String.toList_ofList]
      exact p.isToken_name
  | true =>
      cases alias? with
      | none =>
          refine .inl ⟨?_, fun name _ hleft => ?_⟩
          · rw [hname, String.toList_ofList]
            exact p.isToken_name
          · cases halias.unique hleft
      | some name =>
          refine .inr ⟨rfl, ?_⟩
          rw [hname, String.toList_ofList]
          exact halias

theorem Declares.name_ne_empty (h : Declares line mapping f) : f.name.toList ≠ [] := by
  rcases h.name_cases with ⟨htoken, -⟩ | ⟨-, halias⟩
  · exact htoken.ne_nil
  · exact halias.ne_nil

theorem Declares.isToken_name_iff (h : Declares line mapping f) :
    IsToken f.name.toList ↔ ¬NamedOddly line mapping := by
  rcases h.name_cases with ⟨htoken, hnone⟩ | ⟨hmapping, halias⟩
  · refine ⟨fun _ => ?_, fun _ => htoken⟩
    rintro ⟨hmapping, name, hleft, -⟩
    exact hnone name hmapping hleft
  · constructor
    · rintro htoken ⟨-, name, hleft, hodd⟩
      exact hodd (Option.some.inj (halias.unique hleft) ▸ htoken)
    · intro hnot
      by_contra hodd
      exact hnot ⟨hmapping, _, halias, hodd⟩

end Schema

namespace Artifact.Plan

open Schema (Field)

/-- The modules that have the field names as their keys: the shapes, and the field names unless they
are a frozen object. -/
def KeepsNames (plan : Plan) (kind : Kind) : Prop :=
  kind ∈ Kind.perRecord ∧ (kind = .fieldEnum → plan.form kind = .nominal)

/-- The name of a field comes first in its row, and the character behind it is not in a word. -/
theorem KeepsNames.exists_memberRow_eq {plan : Plan} {kind : Kind} (h : plan.KeepsNames kind)
    (f : Field) : ∃ rest, (plan.memberRow kind f).toList = f.name.toList ++ rest ∧
      ∀ c ∈ rest.head?, isWord c = false := by
  have hshape : ∀ form, ∃ rest, (shapeRow form f).toList = f.name.toList ++ rest ∧
      ∀ c ∈ rest.head?, isWord c = false := by
    rintro (_ | _)
    · refine ⟨[':', ' '] ++ ("undefined as " ++ f.type ++ ",").toList, ?_, ?_⟩
      · simp [shapeRow, Code.Declaration.entryLine, Code.Slot.text]
      · rintro c ⟨⟩
        decide
    · refine ⟨['!', ':', ' '] ++ (f.type ++ ";").toList, ?_, ?_⟩
      · simp [shapeRow, Code.Declaration.fieldLine]
      · rintro c ⟨⟩
        decide
  cases kind with
  | fieldEnum =>
      refine ⟨[' ', '=', ' ', '"'] ++ (f.name ++ "\",").toList, ?_, ?_⟩
      · rw [memberRow, h.2 rfl]
        simp [quotedRow, fieldKey, Code.Declaration.memberLine]
      · rintro c ⟨⟩
        decide
  | dto => exact hshape _
  | entity => exact hshape _
  | tables => exact absurd h.1 (by decide)

theorem KeepsNames.opensWith_memberRow_iff {plan : Plan} {kind : Kind} (h : plan.KeepsNames kind)
    (f : Field) : Text.OpensWith f.name (plan.memberRow kind f) ↔ IsToken f.name.toList :=
  ⟨fun hopens => hopens.isToken, fun htoken => ⟨htoken, h.exists_memberRow_eq f⟩⟩

end Artifact.Plan

namespace Schema

open Artifact (Plan Kind)

/-- What a field line gives: a type token, and a name that is a token unless an odd alias names the
field. The rows that have the name as their key start with a single token in the same cases. -/
structure GivesTokens (mapping : Bool) (line : List Char) (f : Field) : Prop where
  declares : Declares line mapping f
  type_token : IsTypeToken f.type
  name_ne_empty : f.name ≠ ""
  name_token_iff : IsToken f.name.toList ↔ ¬NamedOddly line mapping
  key_token_iff : ∀ (plan : Plan) (kind : Kind), plan.KeepsNames kind →
    (Text.OpensWith f.name (plan.memberRow kind f) ↔ ¬NamedOddly line mapping)

theorem Declares.givesTokens {mapping : Bool} {line : List Char} {f : Field}
    (h : Declares line mapping f) : GivesTokens mapping line f where
  declares := h
  type_token := h.isTypeToken
  name_ne_empty heq := h.name_ne_empty (by rw [heq]; rfl)
  name_token_iff := h.isToken_name_iff
  key_token_iff plan kind hkeeps := by rw [hkeeps.opensWith_memberRow_iff, h.isToken_name_iff]

/-- The fields under each name that is read are given by the field lines of a block, one for each
line. They have type tokens, and their names and the keys of their rows are single tokens except
where an alias that is none is taken for the name. -/
theorem field_tokens_unless_odd_alias {text filename : String} {mapping : Bool} {c : Catalogue}
    (hread : read text filename mapping = .ok c) :
    ∀ entry ∈ c.fieldsByName,
      (∃ b ∈ blocks text, b.recordName mapping = entry.1 ∧
        List.Forall₂ (GivesTokens mapping)
          (b.trimmedLines.filter fun line => LineClass.field.Holds line) entry.2) ∧
      ∀ (plan : Plan) (kind : Kind), (plan.recordArtifact entry.1 entry.2 kind).content =
        (plan.recordFrame kind entry.1).text (entry.2.map (plan.memberRow kind)) := by
  intro entry hentry
  have hcoherent := coherent_of_read hread
  have hfound : c.fields? entry.1 = some entry.2 :=
    (OrderedEntries.mem_iff_get?_eq hcoherent.nodup_keys).1 hentry
  have hname : entry.1 ∈ c.names := by
    rw [← List.mem_eraseDups, ← hcoherent.keys_eq]
    exact List.mem_map_of_mem hentry
  obtain ⟨earlier, b, later, hsplit, hbname, -, hfields⟩ := exists_last_block_of_read hread hname
  rw [hfound, Option.some.injEq] at hfields
  refine ⟨⟨b, by simp [hsplit], hbname, ?_⟩, fun plan kind => plan.content_recordArtifact ..⟩
  rw [hfields]
  exact (b.forall₂_fields mapping).imp fun _ _ h => h.givesTokens

/-- A schema with an alias that is not a single token and one that is. -/
def hyphenSchema : String :=
  "model A \x7b\n  x Int @map(\"first-name\")\n  y String[]? @map(\"z\")\n\x7d"

theorem read_hyphenSchema : read hyphenSchema "s" true =
    .ok ⟨["A"], [("A", [⟨"first-name", "Int"⟩, ⟨"z", "String[]?"⟩])], []⟩ := by decide +kernel

/-- The first alias is not a single token and the second one is. -/
theorem field_tokens_unless_odd_alias_hyphen :
    let fields : List Field := [⟨"first-name", "Int"⟩, ⟨"z", "String[]?"⟩]
    ∃ c, read hyphenSchema "s" true = .ok c ∧ ("A", fields) ∈ c.fieldsByName ∧
      ∃ b ∈ blocks hyphenSchema, b.recordName true = "A" ∧
        List.Forall₂ (GivesTokens true)
          (b.trimmedLines.filter fun line => LineClass.field.Holds line) fields := by
  intro fields
  have hentry : ("A", fields) ∈ [("A", fields)] := List.mem_singleton_self _
  exact ⟨_, read_hyphenSchema, hentry,
    (field_tokens_unless_odd_alias read_hyphenSchema ("A", fields) hentry).1⟩

/-- An alias can give a field a name that is not a single token. -/
theorem alias_is_no_token :
    ¬∀ (text filename : String) (mapping : Bool) (c : Catalogue),
      read text filename mapping = .ok c → ∀ entry ∈ c.fieldsByName, ∀ f ∈ entry.2,
        IsToken f.name.toList ∧ IsTypeToken f.type := by
  intro hall
  have htokens := hall hyphenSchema "s" true _ read_hyphenSchema _ (List.mem_singleton_self _)
    ⟨"first-name", "Int"⟩ List.mem_cons_self
  exact absurd htokens.1 (by decide +kernel)

end Schema

end SchemaScribe
