import SchemaScribe.Proofs.OutputOrder

/-!
# Keys and the names they stand for

A frozen object of field names and both forms of the registry put the names under their upper case,
and the members can be read off the text without doubt. A clash, one key with two values, comes up
exactly if two different names have one upper case. Among names of plain characters this means that
they differ in the case of letters only; in general a character may also become several in upper
case.
-/
namespace SchemaScribe

namespace Unicode

theorem CaseRun.image?_of_lt {run : CaseRun} {n : Nat} (h : n < run.first) :
    run.image? n = none := by
  have hout : ¬run.first ≤ n := Nat.not_le.2 h
  simp [CaseRun.image?, hout]

/-- Below a bound that all other entries of a table keep to, its first run alone counts. -/
theorem caseImage_of_lt {expansions : List (Nat × List Nat)} {run : CaseRun} {runs : List CaseRun}
    {bound n : Nat} (hexpansions : ∀ entry ∈ expansions, bound ≤ entry.1)
    (hruns : ∀ other ∈ runs, bound ≤ other.first) (h : n < bound) :
    caseImage expansions (run :: runs) n = [(run.image? n).getD n] := by
  have hlookup : expansions.lookup n = none := by
    rw [List.lookup_eq_none_iff]
    intro entry hentry
    have hne : n ≠ entry.1 := Nat.ne_of_lt (h.trans_le (hexpansions entry hentry))
    simpa using hne
  have hrest : runs.findSome? (·.image? n) = none :=
    List.findSome?_eq_none_iff.2 fun other hother =>
      CaseRun.image?_of_lt (h.trans_le (hruns other hother))
  rw [caseImage, hlookup, List.findSome?_cons, hrest]
  cases run.image? n <;> rfl

/-- The upper case of a plain character is one plain character. -/
theorem upperChar_of_lt {c : Char} (h : c.toNat < 128) : upperChar c = [c.toUpper] := by
  have hexpansions : ∀ entry ∈ upperExpansions, 128 ≤ entry.1 := by decide +kernel
  have hruns : ∀ run ∈ upperRuns.tail, 128 ≤ run.first := by decide +kernel
  have hletters : ∀ n < 128, Char.ofNat (((⟨0x61, 0x7A, 1, 0x41⟩ : CaseRun).image? n).getD n) =
      (Char.ofNat n).toUpper := by decide +kernel
  have hsplit : upperRuns = ⟨0x61, 0x7A, 1, 0x41⟩ :: upperRuns.tail := rfl
  have hc := hletters c.toNat h
  rw [Char.ofNat_toNat] at hc
  rw [upperChar, hsplit, caseImage_of_lt hexpansions hruns h, List.map_singleton, hc]

/-- A text of plain characters. -/
def IsPlainText (s : String) : Prop := ∀ c ∈ s.toList, c.toNat < 128

theorem toList_upperText {s : String} (h : IsPlainText s) :
    (upperText s).toList = s.toList.map Char.toUpper := by
  rw [upperText, String.toList_ofList, List.map_eq_flatMap]
  exact List.flatMap_congr fun c hc => upperChar_of_lt (h c hc)

/-- Plain texts have one upper case exactly if they differ in the case of letters at most. -/
theorem upperText_eq_iff {s t : String} (hs : IsPlainText s) (ht : IsPlainText t) :
    upperText s = upperText t ↔ s.toList.map Char.toUpper = t.toList.map Char.toUpper := by
  rw [← String.toList_inj, toList_upperText hs, toList_upperText ht]

example : upperText "straße" = upperText "STRASSE" := by decide +kernel

end Unicode

namespace Artifact

open Code (Frame)
open Schema (Catalogue Field Record)
open Text (Quotable)

/-- The members of a module: the rows between the lines of its frame, each with a key and a value
between quotes. -/
structure Lists (frame : Frame) (form : Form) (content : String)
    (members : List (String × String)) : Prop where
  content_eq : content = frame.text (members.map fun m => quotedRow form m.1 m.2)
  quotable : ∀ m ∈ members, Quotable m.1 ∧ Quotable m.2

theorem quotedRow_inj {form : Form} {m m' : String × String} (hm : Quotable m.1 ∧ Quotable m.2)
    (hm' : Quotable m'.1 ∧ Quotable m'.2)
    (h : quotedRow form m.1 m.2 = quotedRow form m'.1 m'.2) : m = m' := by
  have hvalue := name_eq_of_quotedRow_eq hm.1 hm'.1 hm.2 hm'.2 h
  have hchars := congrArg String.toList h
  rw [toList_quotedRow, toList_quotedRow, hvalue, List.append_assoc, List.append_assoc] at hchars
  exact Prod.ext (String.toList_inj.1 (List.append_cancel_right hchars)) hvalue

/-- A module has its members in one way only. -/
theorem Lists.unique {frame : Frame} {form : Form} {content : String}
    {members members' : List (String × String)} (h : Lists frame form content members)
    (h' : Lists frame form content members') : members = members' := by
  have hflat : ∀ {members : List (String × String)}, Lists frame form content members →
      ∀ row ∈ members.map (fun m => quotedRow form m.1 m.2), '\n' ∉ row.toList := by
    intro members h
    refine List.forall_mem_map.2 fun m hm => ?_
    exact lineFeed_not_mem_quotedRow form (h.quotable m hm).1 (h.quotable m hm).2
  have hrows := frame.rows_eq_of_text_eq (hflat h) (hflat h')
    (h.content_eq.symm.trans h'.content_eq)
  have hparts : members.map id = members'.map id := by
    refine map_eq_of_map_eq (fun m hm m' hm' hrow => ?_) hrows
    exact quotedRow_inj (h.quotable m hm) (h'.quotable m' hm') hrow
  simpa using hparts

/-- Two members have one key and different values. -/
def Clash (members : List (String × String)) : Prop :=
  ∃ m ∈ members, ∃ m' ∈ members, m.1 = m'.1 ∧ m.2 ≠ m'.2

/-- Each name under its key. -/
def keyed (key : String → String) (names : List String) : List (String × String) :=
  names.map fun name => (key name, name)

theorem clash_keyed_iff {key : String → String} {names : List String} :
    Clash (keyed key names) ↔ ∃ name ∈ names, ∃ other ∈ names, name ≠ other ∧
      key name = key other := by
  constructor
  · rintro ⟨m, hm, m', hm', hkey, hvalue⟩
    obtain ⟨name, hname, rfl⟩ := List.mem_map.1 hm
    obtain ⟨other, hother, rfl⟩ := List.mem_map.1 hm'
    exact ⟨name, hname, other, hother, hvalue, hkey⟩
  · rintro ⟨name, hname, other, hother, hne, hkey⟩
    exact ⟨_, List.mem_map_of_mem hname, _, List.mem_map_of_mem hother, hkey, hne⟩

namespace Plan

variable (plan : Plan)

/-- The members of a record's module of field names. -/
def FieldMembers (r : Record) (members : List (String × String)) : Prop :=
  Lists (plan.recordFrame .fieldEnum r.name) (plan.form .fieldEnum)
    (plan.recordArtifact r.name r.fields .fieldEnum).content members

/-- The members of the registry of some names. -/
def TableMembers (names : List String) (members : List (String × String)) : Prop :=
  Lists plan.tablesFrame (plan.form .tables) (plan.renderRegistry names).content members

theorem fieldMembers_keyed {r : Record} (hfields : ∀ f ∈ r.fields, f.Plain) :
    plan.FieldMembers r (keyed (fieldKey (plan.form .fieldEnum)) (r.fields.map (·.name))) := by
  refine ⟨?_, fun m hm => ?_⟩
  · rw [content_recordArtifact, keyed, List.map_map, List.map_map]
    rfl
  · rw [keyed, List.map_map] at hm
    obtain ⟨f, hf, rfl⟩ := List.mem_map.1 hm
    exact ⟨quotable_fieldKey _ (hfields f hf).name, (hfields f hf).name⟩

theorem tableMembers_keyed {names : List String} (hnames : ∀ name ∈ names, Quotable name) :
    plan.TableMembers names (keyed Unicode.upperText names) := by
  refine ⟨?_, fun m hm => ?_⟩
  · rw [content_renderRegistry, keyed, List.map_map]
    rfl
  · obtain ⟨name, hname, rfl⟩ := List.mem_map.1 hm
    exact ⟨(hnames name hname).upperText, hnames name hname⟩

/-- The field names of a record clash only in a frozen object, and there if two of them differ and
have one upper case. -/
theorem clash_fieldKey_iff {form : Form} {fields : List Field} :
    Clash (keyed (fieldKey form) (fields.map (·.name))) ↔
      form = .frozen ∧ ∃ f ∈ fields, ∃ g ∈ fields, f.name ≠ g.name ∧
        Unicode.upperText f.name = Unicode.upperText g.name := by
  rw [clash_keyed_iff]
  cases form with
  | nominal =>
      refine ⟨?_, fun h => by cases h.1⟩
      rintro ⟨name, -, other, -, hne, hkey⟩
      exact absurd hkey hne
  | frozen =>
      constructor
      · rintro ⟨name, hname, other, hother, hne, hkey⟩
        obtain ⟨f, hf, rfl⟩ := List.mem_map.1 hname
        obtain ⟨g, hg, rfl⟩ := List.mem_map.1 hother
        exact ⟨rfl, f, hf, g, hg, hne, hkey⟩
      · rintro ⟨-, f, hf, g, hg, hne, hkey⟩
        exact ⟨_, List.mem_map_of_mem hf, _, List.mem_map_of_mem hg, hne, hkey⟩

theorem recordArtifact_mem_render {c : Catalogue} {r : Record} (hr : r ∈ c.records) :
    plan.recordArtifact r.name r.fields .fieldEnum ∈ plan.render c := by
  refine List.mem_append_left _ (List.mem_flatMap.2 ⟨r, hr, ?_⟩)
  exact List.mem_map_of_mem List.mem_cons_self

theorem renderRegistry_mem_render (c : Catalogue) :
    plan.renderRegistry c.names ∈ plan.render c :=
  List.mem_append_right _ (List.mem_singleton_self _)

/-- Each module of field names and the registry show one list of members, with the names as values.
In a frozen object of field names and in the registry the keys are the upper case of the names. Two
members clash exactly if two different names have one upper case, which among plain texts means that
they differ in the case of letters only; the field names of an enum never clash. -/
theorem keys_clash_iff_same_upper {text filename : String} {mapping : Bool} {c : Catalogue}
    (hread : Schema.read text filename mapping = .ok c) :
    (∀ r ∈ c.records, plan.recordArtifact r.name r.fields .fieldEnum ∈ plan.render c ∧
      (∃! members, plan.FieldMembers r members) ∧
      ∀ members, plan.FieldMembers r members →
        members.map (·.2) = r.fields.map (·.name) ∧
        (plan.form .fieldEnum = .frozen →
          members.map (·.1) = r.fields.map fun f => Unicode.upperText f.name) ∧
        (Clash members ↔ plan.form .fieldEnum = .frozen ∧ ∃ f ∈ r.fields, ∃ g ∈ r.fields,
          f.name ≠ g.name ∧ Unicode.upperText f.name = Unicode.upperText g.name)) ∧
    (plan.renderRegistry c.names ∈ plan.render c ∧
      (∃! members, plan.TableMembers c.names members) ∧
      ∀ members, plan.TableMembers c.names members →
        members.map (·.2) = c.names ∧ members.map (·.1) = c.names.map Unicode.upperText ∧
        (Clash members ↔ ∃ name ∈ c.names, ∃ other ∈ c.names, name ≠ other ∧
          Unicode.upperText name = Unicode.upperText other)) ∧
    ∀ s t : String, Unicode.IsPlainText s → Unicode.IsPlainText t →
      (Unicode.upperText s = Unicode.upperText t ↔
        s.toList.map Char.toUpper = t.toList.map Char.toUpper) := by
  have hplain := Schema.plain_of_read hread
  refine ⟨fun r hr => ⟨plan.recordArtifact_mem_render hr, ?_⟩,
    ⟨plan.renderRegistry_mem_render c, ?_⟩, fun s t => Unicode.upperText_eq_iff⟩
  · have hmembers := plan.fieldMembers_keyed (hplain.fields r hr)
    refine ⟨⟨_, hmembers, fun other hother => hother.unique hmembers⟩, fun members h => ?_⟩
    rw [h.unique hmembers, clash_fieldKey_iff]
    refine ⟨by simp [keyed, Function.comp_def], fun hfrozen => ?_, Iff.rfl⟩
    rw [hfrozen]
    simp [keyed, Function.comp_def, fieldKey]
  · have hmembers := plan.tableMembers_keyed hplain.names
    refine ⟨⟨_, hmembers, fun other hother => hother.unique hmembers⟩, fun members h => ?_⟩
    rw [h.unique hmembers, clash_keyed_iff]
    exact ⟨by simp [keyed, Function.comp_def], by simp [keyed, Function.comp_def], Iff.rfl⟩

/-- Two records and two fields whose names differ in case only. -/
def twoCaseSchema : String := "model A \x7b\n  id Int\n  ID Int\n\x7d\nmodel a \x7b\x7d"

/-- The default plan with frozen objects. -/
def frozenPlan : Plan := { Plan.default with useConst := true }

def twoCaseRecord : Record := ⟨"A", [⟨"id", "Int"⟩, ⟨"ID", "Int"⟩]⟩

theorem read_twoCaseSchema : Schema.read twoCaseSchema "s" false =
    .ok ⟨["A", "a"], [("A", twoCaseRecord.fields), ("a", [])], []⟩ := by decide +kernel

theorem keys_clash_iff_same_upper_two_case :
    ∃ c, Schema.read twoCaseSchema "s" false = .ok c ∧ twoCaseRecord ∈ c.records ∧
      (∃ members, frozenPlan.FieldMembers twoCaseRecord members ∧ Clash members) ∧
      ∃ members, frozenPlan.TableMembers c.names members ∧ Clash members := by
  obtain ⟨hfields, ⟨-, ⟨tables, htables, -⟩, hclash⟩, -⟩ :=
    keys_clash_iff_same_upper frozenPlan read_twoCaseSchema
  obtain ⟨-, ⟨members, hmembers, -⟩, hclash'⟩ := hfields twoCaseRecord List.mem_cons_self
  refine ⟨_, read_twoCaseSchema, List.mem_cons_self, ⟨members, hmembers, ?_⟩, tables, htables, ?_⟩
  · refine (hclash' members hmembers).2.2.2 ⟨rfl, ⟨"id", "Int"⟩, ?_, ⟨"ID", "Int"⟩, ?_⟩
    · exact List.mem_cons_self
    · exact ⟨by decide, by decide, by decide +kernel⟩
  · exact (hclash tables htables).2.2.2 ⟨"A", by decide, "a", by decide, by decide,
      by decide +kernel⟩

/-- Upper case can give two names of a record one key. -/
theorem upper_case_merges_keys :
    ¬∀ (text filename : String) (mapping : Bool) (c : Catalogue) (plan : Plan),
      Schema.read text filename mapping = .ok c →
      (plan.form .fieldEnum = .frozen → ∀ r ∈ c.records, ∀ members,
        plan.FieldMembers r members → ¬Clash members) ∧
      ∀ members, plan.TableMembers c.names members → ¬Clash members := by
  intro hall
  have hmembers := frozenPlan.fieldMembers_keyed
    ((Schema.plain_of_read read_twoCaseSchema).fields twoCaseRecord List.mem_cons_self)
  refine (hall _ _ _ _ frozenPlan read_twoCaseSchema).1 rfl twoCaseRecord List.mem_cons_self _
    hmembers ?_
  exact clash_fieldKey_iff.2 ⟨rfl, ⟨"id", "Int"⟩, List.mem_cons_self, ⟨"ID", "Int"⟩,
    by decide, by decide, by decide +kernel⟩

end Plan

end Artifact

end SchemaScribe
