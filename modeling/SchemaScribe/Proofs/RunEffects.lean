import SchemaScribe.Proofs.ReportText
import SchemaScribe.Proofs.TreeGrowth
import SchemaScribe.Run

/-!
# What a run does to a tree

Everything up to the opened schema only reads. So a run leaves the tree alone unless it generates in
earnest and its schema could be opened. Then the files that the written paths lead to have the
contents of their last writers, and all other files have their old bytes.
-/
namespace SchemaScribe

namespace FileTree

variable {t t' : FileTree} {l : Location} {p : Path}

/-- The text of the file that a path leads to. -/
def text (t : FileTree) (p : Path) : Except Fault String :=
  match t.read p with
  | .error fault => .error fault
  | .ok bytes =>
      match String.fromUTF8? bytes with
      | some text => .ok text
      | none => .error .notText

theorem run_readText (p : Path) (t : FileTree) : (disk.readText p).run t = (t.text p, t) := by
  unfold Disk.readText
  rw [run_bind]
  change StateT.run (match t.read p with | .error fault => _ | .ok bytes => _) t = _
  rw [text]
  cases t.read p with
  | error fault => rfl
  | ok bytes =>
      dsimp only
      cases String.fromUTF8? bytes <;> rfl

theorem read_eq_of_locate (hp : t.locate p = .ok l) {bytes : ByteArray}
    (hl : t.fileAt? l = some bytes) : t.read p = .ok bytes := by
  rw [fileAt?] at hl
  split at hl
  · next bytes' hat =>
      obtain rfl := Option.some.inj hl
      simp only [read, hp, hat]
  · cases hl

/-- The files that the written paths of some deliveries lead to have the contents of their last
writers. All other files are as they were. -/
structure Holds (t t' : FileTree) (ds : List Delivery) : Prop where
  others : ∀ l, (∀ p ∈ writtenPaths ds, t'.locate p ≠ .ok l) → t'.fileAt? l = t.fileAt? l
  written : ∀ p ∈ writtenPaths ds, ∃ l earlier last later,
    t'.locate p = .ok l ∧ ds = earlier ++ last :: later ∧
    last.isAccepted = true ∧ t'.locate last.artifact.path = .ok l ∧
    (∀ d ∈ later, d.isAccepted = true → t'.locate d.artifact.path ≠ .ok l) ∧
    t'.read p = .ok last.artifact.content.toUTF8

theorem mem_writtenPaths_iff {ds : List Delivery} :
    p ∈ writtenPaths ds ↔ ∃ d ∈ ds, d.isAccepted = true ∧ d.artifact.path = p := by
  simp [writtenPaths_eq_filter, and_assoc]

theorem exists_lastWriter? {ds : List Delivery} {d : Delivery} (hd : d ∈ ds)
    (hacc : d.isAccepted = true) (hl : t.locate d.artifact.path = .ok l) :
    ∃ last, t.lastWriter? ds l = some last := by
  rw [← Option.isSome_iff_exists, lastWriter?, List.find?_isSome]
  exact ⟨d, List.mem_reverse.2 hd, by simp [hacc, hl]⟩

theorem eq_append_of_lastWriter? {ds : List Delivery} {last : Delivery}
    (h : t.lastWriter? ds l = some last) :
    ∃ earlier later, ds = earlier ++ last :: later ∧ last.isAccepted = true ∧
      t.locate last.artifact.path = .ok l ∧
      ∀ d ∈ later, d.isAccepted = true → t.locate d.artifact.path ≠ .ok l := by
  obtain ⟨hlast, later, earlier, hsplit, hlater⟩ := List.find?_eq_some_iff_append.1 h
  rw [Bool.and_eq_true, decide_eq_true_eq] at hlast
  refine ⟨earlier.reverse, later.reverse, ?_, hlast.1, hlast.2, fun d hd hacc hl => ?_⟩
  · rw [← List.reverse_reverse ds, hsplit]
    simp
  · simpa [hacc, hl] using hlater d (List.mem_reverse.1 hd)

theorem holds_deliver {as : List Artifact} {ds : List Delivery}
    (h : (deliver disk.sink as).run t = (ds, t')) : t.Holds t' ds where
  others l hl := by
    have hnone : t'.lastWriter? ds l = none := by
      rw [lastWriter?, List.find?_eq_none]
      intro d hd hwriter
      rw [Bool.and_eq_true, decide_eq_true_eq] at hwriter
      exact hl _ (mem_writtenPaths_iff.2 ⟨d, List.mem_reverse.1 hd, hwriter.1, rfl⟩) hwriter.2
    rw [fileAt?_deliver h, hnone, Option.map_none, Option.none_or]
  written p hp := by
    obtain ⟨d, hd, hacc, rfl⟩ := mem_writtenPaths_iff.1 hp
    obtain ⟨l, hl⟩ := exists_locate_of_accepted h hd hacc
    obtain ⟨last, hlast⟩ := exists_lastWriter? hd hacc hl
    obtain ⟨earlier, later, hds, hlastAcc, hlastAt, hlater⟩ := eq_append_of_lastWriter? hlast
    refine ⟨l, earlier, last, later, hl, hds, hlastAcc, hlastAt, hlater, ?_⟩
    refine read_eq_of_locate hl ?_
    rw [fileAt?_deliver h, hlast, Option.map_some, Option.some_or]

end FileTree

namespace Run

open CommandLine (Command Invocation Usage)
open FileTree (run_bind run_readText)
open Settings (File Flags Resolved)

variable (t : FileTree)

/-- The settings file in a tree. -/
def settingsIn (t : FileTree) (named? : Option Path) : Except Settings.Error (Option File) :=
  let path := named?.getD Settings.defaultFile
  match t.text path, named? with
  | .ok text, _ => (File.parse text path).map some
  | .error .notFound, none => .ok none
  | .error _, _ => .error (.unreadable path)

/-- The schema in a tree, read as the settings say. -/
def schemaIn (t : FileTree) (settings : Resolved) : List Log.Event × Except Failure Opened :=
  match t.text settings.schema with
  | .error _ => ([], .error (.unreadableSchema settings.schema))
  | .ok text =>
      let events := Log.readingEvents text settings.schema.text settings.plan.useMapping
      match Schema.read text settings.schema.text settings.plan.useMapping with
      | .error e => (events, .error (.malformed e))
      | .ok catalogue => (events, .ok ⟨settings, catalogue⟩)

/-- What opening the schema in a tree gives. -/
def openedIn (t : FileTree) (config? : Option Path) (flags : Flags) :
    List Log.Event × Except Failure Opened :=
  let config := config?.getD Settings.defaultFile
  match settingsIn t config? with
  | .error e => ([], .error (.settings e))
  | .ok file? =>
      let loaded := if file?.isSome then [Log.loadedEvent config] else []
      match Settings.resolve flags file? config with
      | .error e => (loaded, .error (.settings e))
      | .ok settings => (loaded ++ (schemaIn t settings).1, (schemaIn t settings).2)

theorem run_loadFile (named? : Option Path) :
    (loadFile FileTree.disk named?).run t = (settingsIn t named?, t) := by
  unfold loadFile settingsIn
  dsimp only
  rw [run_bind, run_readText]
  cases t.text (named?.getD Settings.defaultFile) with
  | ok text => rfl
  | error fault => cases fault <;> cases named? <;> rfl

theorem run_readSchema (settings : Resolved) :
    (readSchema FileTree.disk settings).run t = (schemaIn t settings, t) := by
  unfold readSchema schemaIn
  dsimp only
  rw [run_bind, run_readText]
  cases t.text settings.schema with
  | error fault => rfl
  | ok text =>
      dsimp only
      cases Schema.read text settings.schema.text settings.plan.useMapping <;> rfl

theorem run_openSchema (config? : Option Path) (flags : Flags) :
    (openSchema FileTree.disk config? flags).run t = (openedIn t config? flags, t) := by
  unfold openSchema openedIn
  dsimp only
  rw [run_bind, run_loadFile]
  cases settingsIn t config? with
  | error e => rfl
  | ok file? =>
      dsimp only
      cases Settings.resolve flags file? (config?.getD Settings.defaultFile) with
      | error e => rfl
      | ok settings =>
          dsimp only
          rw [run_bind, run_readSchema]
          rfl

/-- Checking does not touch the tree. -/
theorem run_check_snd (config? : Option Path) (flags : Flags) (json : Bool) :
    ((check FileTree.disk config? flags json).run t).2 = t := by
  unfold check
  rw [run_bind, run_openSchema]
  match openedIn t config? flags with
  | (events, .error failure) => rfl
  | (events, .ok o) => cases json <;> rfl

theorem run_generate_of_error {config? : Option Path} {flags : Flags} {dryRun : Bool}
    {events : List Log.Event} {failure : Failure}
    (h : openedIn t config? flags = (events, .error failure)) :
    (generate FileTree.disk config? flags dryRun).run t = (.failed events failure, t) := by
  unfold generate
  rw [run_bind, run_openSchema, h]
  rfl

theorem run_generate_of_preview {config? : Option Path} {flags : Flags} {events : List Log.Event}
    {o : Opened} (h : openedIn t config? flags = (events, .ok o)) :
    (generate FileTree.disk config? flags true).run t =
      (.reported (events ++ [Log.parsedEvent o.catalogue]) (previewReport o) none, t) := by
  unfold generate
  rw [run_bind, run_openSchema, h]
  rfl

theorem run_generate_of_deliver {config? : Option Path} {flags : Flags} {events : List Log.Event}
    {o : Opened} {ds : List Delivery} {t' : FileTree}
    (h : openedIn t config? flags = (events, .ok o))
    (hdeliver : (deliver FileTree.disk.sink o.artifacts).run t = (ds, t')) :
    (generate FileTree.disk config? flags false).run t =
      (.reported (events ++ [Log.parsedEvent o.catalogue] ++ ds.map Log.deliveryEvent)
        (writtenReport o ds) (if allWritten ds then none else some .unwritten), t') := by
  unfold generate
  rw [run_bind, run_openSchema, h]
  dsimp only
  rw [if_neg Bool.false_ne_true, run_bind, hdeliver]
  rfl

section Invoked

variable {t} {args : List String} {verbosity : Nat} {config? : Option Path} {flags : Flags}

theorem run_of_check {json : Bool}
    (h : Invocation.ofArguments args = .ok ⟨verbosity, .check config? flags json⟩) :
    (run FileTree.disk args).run t =
      (.finished verbosity ((check FileTree.disk config? flags json).run t).1,
        ((check FileTree.disk config? flags json).run t).2) := by
  unfold run
  rw [h]
  rfl

theorem run_of_generate {dryRun : Bool}
    (h : Invocation.ofArguments args = .ok ⟨verbosity, .generate config? flags dryRun⟩) :
    (run FileTree.disk args).run t =
      (.finished verbosity ((generate FileTree.disk config? flags dryRun).run t).1,
        ((generate FileTree.disk config? flags dryRun).run t).2) := by
  unfold run
  rw [h]
  rfl

/-- A run that previews does not touch the tree. -/
theorem run_of_preview
    (h : Invocation.ofArguments args = .ok ⟨verbosity, .generate config? flags true⟩) :
    ((run FileTree.disk args).run t).2 = t := by
  rw [run_of_generate h]
  match hopened : openedIn t config? flags with
  | (events, .error failure) => rw [run_generate_of_error t hopened]
  | (events, .ok o) => rw [run_generate_of_preview t hopened]

/-- Generating fails for another reason than files that could not be written only if no schema could
be opened. -/
theorem run_generate_snd_of_failure {dryRun : Bool} {failure : Failure}
    (hfailure : ((generate FileTree.disk config? flags dryRun).run t).1.failure? = some failure)
    (hunwritten : failure ≠ .unwritten) :
    ((generate FileTree.disk config? flags dryRun).run t).2 = t := by
  match hopened : openedIn t config? flags with
  | (events, .error _) => rw [run_generate_of_error t hopened]
  | (events, .ok o) =>
      cases dryRun with
      | true => rw [run_generate_of_preview t hopened]
      | false =>
          rw [run_generate_of_deliver t hopened rfl, Ending.reported] at hfailure
          dsimp only at hfailure
          split_ifs at hfailure
          exact absurd (Option.some.inj hfailure).symm hunwritten

theorem run_snd_of_failure {ending : Ending} {failure : Failure}
    (h : ((run FileTree.disk args).run t).1 = .finished verbosity ending)
    (hfailure : ending.failure? = some failure) (hunwritten : failure ≠ .unwritten) :
    ((run FileTree.disk args).run t).2 = t := by
  match hargs : Invocation.ofArguments args with
  | .error usage =>
      unfold run
      rw [hargs]
      rfl
  | .ok ⟨_, .completions shell⟩ =>
      unfold run
      rw [hargs]
      rfl
  | .ok ⟨_, .check _ _ _⟩ =>
      rw [run_of_check hargs]
      exact run_check_snd t _ _ _
  | .ok ⟨_, .generate _ _ _⟩ =>
      rw [run_of_generate hargs] at h ⊢
      obtain ⟨-, rfl⟩ := Outcome.finished.inj h
      exact run_generate_snd_of_failure hfailure hunwritten

end Invoked

/-- A run touches only what it announces. Checking, previewing and every run that fails before the
first file is written leave the tree as it was. A run that comes to write files succeeds exactly if
all could be written, lists each path that was written and each failure, and changes no other
file. -/
theorem run_touches_only_written (t : FileTree) (args : List String) :
    let outcome := ((run FileTree.disk args).run t).1
    let t' := ((run FileTree.disk args).run t).2
    (∀ verbosity config? flags json,
      Invocation.ofArguments args = .ok ⟨verbosity, .check config? flags json⟩ → t' = t) ∧
    (∀ verbosity config? flags,
      Invocation.ofArguments args = .ok ⟨verbosity, .generate config? flags true⟩ → t' = t) ∧
    (∀ verbosity ending failure, outcome = .finished verbosity ending →
      ending.failure? = some failure → failure ≠ .unwritten → t' = t) ∧
    ∀ verbosity config? flags events o,
      Invocation.ofArguments args = .ok ⟨verbosity, .generate config? flags false⟩ →
      ((openSchema FileTree.disk config? flags).run t).1 = (events, .ok o) →
      ∃ ending ds, outcome = .finished verbosity ending ∧
        (deliver FileTree.disk.sink o.artifacts).run t = (ds, t') ∧
        ending.output = Report.outputText (writtenReport o ds) ∧
        ending.errorLines = Report.errorLines (writtenReport o ds) ∧
        ending.output = ("Schema: " ++ o.settings.schema.text ++ "\n") ++
          ("Records: " ++ toString o.catalogue.names.length ++ "\n") ++
          ("\n" ++ Report.pathListing (writtenPaths ds)) ∧
        ending.errorLines =
          o.warnings ++ (writeFailures ds).map (fun f => "error: " ++ f.display) ∧
        (ending.exitCode = 0 ↔ writeFailures ds = []) ∧
        t.Holds t' ds := by
  intro outcome t'
  refine ⟨fun _ _ _ _ hargs => ?_, fun _ _ _ hargs => run_of_preview hargs,
    fun _ _ _ houtcome => run_snd_of_failure houtcome,
    fun verbosity config? flags events o hargs hopened => ?_⟩
  · exact (congrArg Prod.snd (run_of_check hargs)).trans (run_check_snd t _ _ _)
  · rw [run_openSchema] at hopened
    obtain ⟨ds, t₁, hdeliver⟩ : ∃ ds t₁,
        (deliver FileTree.disk.sink o.artifacts).run t = (ds, t₁) := ⟨_, _, rfl⟩
    have hrun := run_of_generate (t := t) hargs
    rw [run_generate_of_deliver t hopened hdeliver] at hrun
    obtain rfl : t' = t₁ := congrArg Prod.snd hrun
    refine ⟨_, ds, congrArg Prod.fst hrun, hdeliver, rfl, rfl, Report.outputText_written ..,
      Report.errorLines_written .., ?_, FileTree.holds_deliver hdeliver⟩
    rw [Ending.exitCode, Ending.reported, ← List.isEmpty_iff, ← allWritten]
    cases allWritten ds <;> simp

/-- A tree with a schema, and with a file where a directory for artifacts belongs. -/
def blockedTree : FileTree where
  here := ["work"]
  entries := [(["work"], .directory),
    (["schema.prisma", "work"], .file "model A \x7b\n  x Int\n\x7d".toUTF8),
    (["generated", "work"], .directory), (["dto", "generated", "work"], .file "old".toUTF8)]

def blockedArguments : List String := ["generate", "-s", "schema.prisma"]

def blockedFlags : Flags := { Flags.none with schema := some ⟨"schema.prisma"⟩ }

def openedBlocked : Opened :=
  ⟨⟨⟨"schema.prisma"⟩, .default⟩, ⟨["A"], [("A", [⟨"x", "Int"⟩])], []⟩⟩

theorem ofArguments_blocked : Invocation.ofArguments blockedArguments =
    .ok ⟨0, .generate none blockedFlags false⟩ := by
  rfl

theorem opens_blocked : (openedIn blockedTree none blockedFlags).2 = .ok openedBlocked := by
  decide +kernel

def writtenBlocked : List Path :=
  [⟨"./generated/field-enum/AFields.ts"⟩, ⟨"./generated/entity/AEntity.ts"⟩,
    ⟨"./generated/field-enum/Tables.ts"⟩]

theorem answers_blocked :
    let ds := ((deliver FileTree.disk.sink openedBlocked.artifacts).run blockedTree).1
    ds.map (·.isAccepted) = [true, false, true, true] ∧ writtenPaths ds = writtenBlocked := by
  decide +kernel

/-- One of four artifacts cannot be written. The run fails, the other three are listed, and the file
in the way is as it was. -/
theorem run_touches_only_written_blocked :
    ∃ (ending : Ending) (ds : List Delivery),
      ((run FileTree.disk blockedArguments).run blockedTree).1 = .finished 0 ending ∧
      ending.output = "Schema: schema.prisma\nRecords: 1\n\nGenerated (3):\n" ++
        "  + ./generated/field-enum/AFields.ts\n  + ./generated/entity/AEntity.ts\n" ++
        "  + ./generated/field-enum/Tables.ts\n" ∧
      ending.exitCode ≠ 0 ∧ ds.map (·.isAccepted) = [true, false, true, true] ∧
      blockedTree.Holds ((run FileTree.disk blockedArguments).run blockedTree).2 ds := by
  have hopened : ((openSchema FileTree.disk none blockedFlags).run blockedTree).1 =
      ((openedIn blockedTree none blockedFlags).1, .ok openedBlocked) := by
    rw [run_openSchema]
    exact Prod.ext rfl opens_blocked
  obtain ⟨ending, ds, houtcome, hdeliver, -, -, houtput, -, hexit, hholds⟩ :=
    (run_touches_only_written blockedTree blockedArguments).2.2.2 _ _ _ _ _ ofArguments_blocked
      hopened
  generalize (run FileTree.disk blockedArguments).run blockedTree = r at houtcome hdeliver hholds ⊢
  obtain ⟨hanswers, hpaths⟩ := answers_blocked
  rw [hdeliver] at hanswers hpaths
  refine ⟨ending, ds, houtcome, ?_, fun hzero => ?_, hanswers, hholds⟩
  · rw [houtput, hpaths]
    decide
  -- Without a failure every answer would be an acceptance.
  have hall : ∀ d ∈ ds, d.isAccepted = true := by
    rw [← allWritten_iff, allWritten, hexit.1 hzero]
    rfl
  have hfalse : false ∈ ds.map (·.isAccepted) := by simp [hanswers]
  obtain ⟨d, hd, hrefused⟩ := List.mem_map.1 hfalse
  simp [hall d hd] at hrefused

end Run

end SchemaScribe
