import SchemaScribe.Proofs.OutputOrder
import SchemaScribe.Proofs.RunEffects
import SchemaScribe.Proofs.SharedArguments

/-!
# A check predicts what is generated

Checking and previewing open the schema in the same way, and differ only in what they show of it. So
with the same arguments both fail for the same reason, or both succeed with the same warnings. Then
the check lists the records that the registry at the end of the preview has as members, and the
preview announces three files for each of them and the registry.
-/
namespace SchemaScribe

namespace Run

open CommandLine (Invocation Scan)
open FileTree (run_bind)
open Settings (Flags)

/-- A check and a preview of one schema: the listed records are the members of the registry that the
preview ends with. -/
structure ShowAlike (o : Opened) (e e' : Ending) (records : List (String × Nat)) : Prop where
  succeeds : e.failure? = none ∧ e'.failure? = none
  warnings : e.errorLines = o.warnings ∧ e'.errorLines = o.warnings
  listed : e.output = (if o.warnings.isEmpty then "" else "\n") ++
    ("✓ " ++ o.settings.schema.text ++ " is valid\n") ++ ("\n" ++ Report.listing records)
  previewed : ∃ (modules : List Artifact) (registry : Artifact),
    o.artifacts = modules ++ [registry] ∧ modules.length = 3 * records.length ∧
    registry.content =
      o.settings.plan.tablesFrame.text (records.map fun r => o.settings.plan.tablesRow r.1) ∧
    e'.output = String.join (modules.map fun a => Report.labelled a.path.text a.content) ++
      Report.labelled registry.path.text registry.content ++
      Report.announcement (3 * records.length + 1)

/-- What a check and a preview have in common, given what opening the schema comes to. -/
structure EndAlike (opened : Except Failure Opened) (e e' : Ending) : Prop where
  exitCode_eq : e.exitCode = e'.exitCode
  message_eq : e.failure?.map (·.message) = e'.failure?.map (·.message)
  events_eq : e.events = e'.events.filter (·.origin = .reading)
  fails : ∀ failure, opened = .error failure → e.failure? = some failure
  shows : ∀ o, opened = .ok o → ∃ records,
    records.map (·.1) = o.catalogue.names ∧ ShowAlike o e e' records

variable {t : FileTree} {args : List String} {verbosity : Nat} {config? : Option Path}
  {flags : Flags} {events : List Log.Event}

theorem run_check_of_error {json : Bool} {failure : Failure}
    (h : openedIn t config? flags = (events, .error failure)) :
    (check FileTree.disk config? flags json).run t =
      (.failed (events.filter (·.origin = .reading)) failure, t) := by
  unfold check
  rw [run_bind, run_openSchema, h]
  rfl

theorem run_check_of_report {o : Opened} (h : openedIn t config? flags = (events, .ok o)) :
    (check FileTree.disk config? flags false).run t =
      (.reported (events.filter (·.origin = .reading)) (checkReport o) none, t) := by
  unfold check
  rw [run_bind, run_openSchema, h]
  rfl

theorem showAlike_reports (o : Opened) (events events' : List Log.Event) :
    ShowAlike o (.reported events (checkReport o) none) (.reported events' (previewReport o) none)
      (o.catalogue.records.map fun r => (r.name, r.fields.length)) where
  succeeds := ⟨rfl, rfl⟩
  warnings := ⟨Report.errorLines_check .., Report.errorLines_preview ..⟩
  listed := Report.outputText_check ..
  previewed := by
    obtain ⟨modules, hsplit⟩ :
        ∃ modules, o.artifacts = modules ++ [o.settings.plan.renderRegistry o.catalogue.names] :=
      ⟨_, rfl⟩
    have hlength : o.artifacts.length = 3 * o.catalogue.records.length + 1 := by
      rw [Opened.artifacts, Artifact.Plan.length_render, Schema.Catalogue.records, List.length_map]
    have hmodules : modules.length = 3 * o.catalogue.records.length := by
      rw [hsplit, List.length_append, List.length_singleton] at hlength
      omega
    refine ⟨modules, _, hsplit, by rw [List.length_map, hmodules], ?_, ?_⟩
    · rw [Artifact.Plan.content_renderRegistry, Schema.Catalogue.records, List.map_map,
        List.map_map]
      rfl
    · rw [Ending.reported, previewReport, Report.outputText_preview, List.map_map, List.length_map,
        List.length_map, hlength, hsplit, List.map_append, String.join_append]
      simp [Function.comp_def]

theorem filter_parsedEvent (c : Schema.Catalogue) :
    (events ++ [Log.parsedEvent c]).filter (·.origin = .reading) =
      events.filter (·.origin = .reading) := by
  rw [List.filter_append]
  simp [Log.parsedEvent]

theorem endAlike_failed (events : List Log.Event) (failure : Failure) :
    EndAlike (.error failure) (.failed (events.filter (·.origin = .reading)) failure)
      (.failed events failure) where
  exitCode_eq := rfl
  message_eq := rfl
  events_eq := rfl
  fails failure' hfailure := by
    cases hfailure
    rfl
  shows o ho := by cases ho

theorem endAlike_reported (events : List Log.Event) (o : Opened) :
    EndAlike (.ok o) (.reported (events.filter (·.origin = .reading)) (checkReport o) none)
      (.reported (events ++ [Log.parsedEvent o.catalogue]) (previewReport o) none) where
  exitCode_eq := rfl
  message_eq := rfl
  events_eq := (filter_parsedEvent o.catalogue).symm
  fails failure hfailure := by cases hfailure
  shows o' ho := by
    obtain rfl := Except.ok.inj ho
    refine ⟨_, ?_, showAlike_reports o _ _⟩
    rw [Schema.Catalogue.records, List.map_map, List.map_map]
    exact List.map_id _

/-- Checking and previewing in a tree end alike, and leave the tree as it is. -/
def Predicts (t : FileTree) (args : List String) (verbosity : Nat) (config? : Option Path)
    (flags : Flags) : Prop :=
  ∃ e e', (run FileTree.disk ("check" :: args)).run t = (.finished verbosity e, t) ∧
    (run FileTree.disk ("generate" :: "--dry-run" :: args)).run t = (.finished verbosity e', t) ∧
    EndAlike ((openSchema FileTree.disk config? flags).run t).1.2 e e'

theorem predicts_of_ofArguments
    (h : Invocation.ofArguments ("check" :: args) = .ok ⟨verbosity, .check config? flags false⟩) :
    Predicts t args verbosity config? flags := by
  have hcheck := run_of_check (t := t) h
  have hpreview := run_of_generate (t := t) (Invocation.ofArguments_preview_of_check h)
  unfold Predicts
  rw [hcheck, hpreview, run_openSchema]
  obtain ⟨events, opened, hopened⟩ :
      ∃ events opened, openedIn t config? flags = (events, opened) := ⟨_, _, rfl⟩
  rw [hopened]
  cases opened with
  | error failure =>
      rw [run_check_of_error hopened, run_generate_of_error t hopened]
      exact ⟨_, _, rfl, rfl, endAlike_failed events failure⟩
  | ok o =>
      rw [run_check_of_report hopened, run_generate_of_preview t hopened]
      exact ⟨_, _, rfl, rfl, endAlike_reported events o⟩

/-- A check predicts what is generated. For every choice of the options that both commands have,
they refuse an empty path alike, and otherwise end alike. So they do for all arguments that a check
understands without its own switch. -/
theorem check_predicts_preview (t : FileTree) :
    (∀ schema? mapping config?,
      let args := Scan.sharedArguments schema? mapping config?
      if schema? = some "" ∨ config? = some "" then
        (run FileTree.disk ("check" :: args)).run t = (.usage .badValue, t) ∧
          (run FileTree.disk ("generate" :: "--dry-run" :: args)).run t = (.usage .badValue, t)
      else Predicts t args 0 (config?.map Path.mk) (Invocation.sharedFlags schema? mapping)) ∧
    ∀ args verbosity config? flags,
      Invocation.ofArguments ("check" :: args) = .ok ⟨verbosity, .check config? flags false⟩ →
      Predicts t args verbosity config? flags := by
  refine ⟨fun schema? mapping config? => ?_, fun _ _ _ _ => predicts_of_ofArguments⟩
  dsimp only
  split_ifs with hempty
  · unfold run
    rw [Invocation.ofArguments_check_of_emptyPath _ _ _ hempty,
      Invocation.ofArguments_preview_of_emptyPath _ _ _ hempty]
    exact ⟨rfl, rfl⟩
  · rw [not_or] at hempty
    exact predicts_of_ofArguments
      (Invocation.ofArguments_check_sharedArguments _ _ _ hempty.1 hempty.2)

/-- In a tree where generating would fail to write a file, both commands show the one record. -/
theorem check_predicts_preview_blocked :
    Invocation.ofArguments ["check", "-s", "schema.prisma"] =
        .ok ⟨0, .check none blockedFlags false⟩ ∧
      ∃ e e' records,
        (run FileTree.disk ["check", "-s", "schema.prisma"]).run blockedTree =
          (.finished 0 e, blockedTree) ∧
        (run FileTree.disk ["generate", "--dry-run", "-s", "schema.prisma"]).run blockedTree =
          (.finished 0 e', blockedTree) ∧
        records.map (·.1) = ["A"] ∧ ShowAlike openedBlocked e e' records := by
  have hargs : Invocation.ofArguments ["check", "-s", "schema.prisma"] =
      .ok ⟨0, .check none blockedFlags false⟩ := by
    rfl
  obtain ⟨e, e', hcheck, hpreview, hends⟩ :=
    (check_predicts_preview blockedTree).2 _ _ _ _ hargs
  rw [run_openSchema] at hends
  obtain ⟨records, hnames, hshows⟩ := hends.shows openedBlocked opens_blocked
  exact ⟨hargs, e, e', records, hcheck, hpreview, hnames, hshows⟩

end Run

end SchemaScribe
