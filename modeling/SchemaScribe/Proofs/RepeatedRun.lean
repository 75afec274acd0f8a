import SchemaScribe.Proofs.RepeatedDelivery
import SchemaScribe.Proofs.RunEffects

/-!
# Running twice

A second run that generates the same modules reads what the first one read, as long as no artifact
is written over the settings or the schema, and it delivers the same artifacts with the same result.
There is one exception. A settings file that nobody asked for may be missing, and the first run may
make a directory in its place. The second run then finds something there that it cannot read.
-/
namespace SchemaScribe

section Verdicts

variable {ds ds' : List Delivery}

theorem map_path_writeFailures (ds : List Delivery) :
    (writeFailures ds).map (·.path) = (ds.filter fun d => !d.isAccepted).map (·.artifact.path) := by
  have hreports := forall₂_writeFailures ds
  generalize writeFailures ds = failures, ds.filter (fun d => !d.isAccepted) = refused at hreports
  induction hreports with
  | nil => rfl
  | cons hfirst _ ih => rw [List.map_cons, List.map_cons, hfirst.1, ih]

/-- The paths of the artifacts with a given verdict depend on the verdicts only. -/
theorem map_path_filter_eq_of_verdict (h : ds'.map Delivery.verdict = ds.map Delivery.verdict)
    (select : Bool → Bool) :
    (ds'.filter fun d => select d.isAccepted).map (·.artifact.path) =
      (ds.filter fun d => select d.isAccepted).map (·.artifact.path) := by
  have hverdicts : ∀ ds : List Delivery,
      (ds.filter fun d => select d.isAccepted).map (·.artifact.path) =
        ((ds.map Delivery.verdict).filter fun v => select v.2).map (·.1.path) := by
    intro ds
    rw [List.filter_map, List.map_map]
    rfl
  rw [hverdicts, hverdicts, h]

theorem writtenPaths_eq_of_verdict (h : ds'.map Delivery.verdict = ds.map Delivery.verdict) :
    writtenPaths ds' = writtenPaths ds := by
  rw [writtenPaths_eq_filter, writtenPaths_eq_filter]
  exact map_path_filter_eq_of_verdict h id

theorem failedPaths_eq_of_verdict (h : ds'.map Delivery.verdict = ds.map Delivery.verdict) :
    (writeFailures ds').map (·.path) = (writeFailures ds).map (·.path) := by
  rw [map_path_writeFailures, map_path_writeFailures]
  exact map_path_filter_eq_of_verdict h not

theorem allWritten_eq_of_verdict (h : ds'.map Delivery.verdict = ds.map Delivery.verdict) :
    allWritten ds' = allWritten ds := by
  have hpaths := congrArg List.isEmpty (failedPaths_eq_of_verdict h)
  rwa [List.isEmpty_map, List.isEmpty_map] at hpaths

end Verdicts

namespace FileTree

variable {t t' : FileTree} {l : Location} {p : Path} {as : List Artifact} {ds : List Delivery}

/-- Whether two paths lead to the same entry. -/
def coincide (t : FileTree) (p q : Path) : Bool :=
  match t.locate p, t.locate q with
  | .ok l, .ok l' => l = l'
  | _, _ => false

theorem coincide_of_locate {q : Path} (hp : t.locate p = .ok l) (hq : t.locate q = .ok l) :
    t.coincide p q = true := by
  simp [coincide, hp, hq]

theorem exists_file_of_text {s : String} (h : t.text p = .ok s) :
    ∃ l bytes, t.locate p = .ok l ∧ t.at? l = some (.file bytes) ∧
      String.fromUTF8? bytes = some s := by
  unfold text read at h
  cases hp : t.locate p with
  | error fault => simp [hp] at h
  | ok l =>
      match hl : t.at? l with
      | none => simp [hp, hl] at h
      | some .directory => simp [hp, hl] at h
      | some (.file bytes) =>
          cases hbytes : String.fromUTF8? bytes with
          | none => simp [hp, hl, hbytes] at h
          | some text => exact ⟨l, bytes, rfl, hl, by simpa [hp, hl, hbytes] using h⟩

/-- A delivery that puts nothing at an entry leaves the file there alone. -/
theorem fileAt?_deliver_of_apart (h : (deliver disk.sink as).run t = (ds, t'))
    (hapart : ∀ a ∈ as, t'.coincide a.path p = false) (hp : t'.locate p = .ok l) :
    t'.fileAt? l = t.fileAt? l := by
  refine (holds_deliver h).others l fun q hq hl => ?_
  obtain ⟨d, hd, -, rfl⟩ := mem_writtenPaths_iff.1 hq
  have ha : d.artifact ∈ as := by
    rw [← map_artifact_deliver disk.sink t as, h]
    exact List.mem_map_of_mem hd
  exact Bool.false_ne_true ((hapart _ ha).symm.trans (coincide_of_locate hl hp))

theorem text_deliver (h : (deliver disk.sink as).run t = (ds, t'))
    (hapart : ∀ a ∈ as, t'.coincide a.path p = false) {s : String} (hs : t.text p = .ok s) :
    t'.text p = .ok s := by
  obtain ⟨l, bytes, hp, hl, hbytes⟩ := exists_file_of_text hs
  have hp' : t'.locate p = .ok l := (grows_deliver h).locate_ok hp
  have hfile : t'.fileAt? l = some bytes := by
    rw [fileAt?_deliver_of_apart h hapart hp', fileAt?, hl]
  simp only [text, read_eq_of_locate hp' hfile, hbytes]

theorem isDir_of_text {s : String} (h : t.text p = .ok s) : t.isDir p = false := by
  obtain ⟨l, bytes, hp, hl, -⟩ := exists_file_of_text h
  simp only [isDir, hp, hl]

/-- Where a file is missing, a delivery that puts none there leaves the entry missing, or makes a
directory of it. -/
theorem text_deliver_of_missing (h : (deliver disk.sink as).run t = (ds, t'))
    (hapart : ∀ a ∈ as, t'.coincide a.path p = false) (hp : t.locate p = .ok l)
    (hs : t.text p = .error .notFound) :
    t.isDir p = false ∧
      (t'.text p = .error .notFound ∧ t'.isDir p = false ∨
        t'.text p = .error .isDirectory ∧ t'.isDir p = true) := by
  have hl : t.at? l = none := by
    match hl : t.at? l with
    | none => rfl
    | some .directory => simp [text, read, hp, hl] at hs
    | some (.file bytes) =>
        cases hbytes : String.fromUTF8? bytes <;> simp [text, read, hp, hl, hbytes] at hs
  have hp' : t'.locate p = .ok l := (grows_deliver h).locate_ok hp
  have hfile : t'.fileAt? l = none := by
    rw [fileAt?_deliver_of_apart h hapart hp', fileAt?, hl]
  refine ⟨by simp only [isDir, hp, hl], ?_⟩
  match hl' : t'.at? l with
  | none => exact Or.inl ⟨by simp only [text, read, hp', hl'], by simp only [isDir, hp', hl']⟩
  | some .directory =>
      exact Or.inr ⟨by simp only [text, read, hp', hl'], by simp only [isDir, hp', hl']⟩
  | some (.file bytes) => simp [fileAt?, hl'] at hfile

theorem exists_locate_defaultFile (hhere : t.at? t.here = some .directory) :
    ∃ l, t.locate Settings.defaultFile = .ok l := by
  have hacc : Settings.defaultFile.Acceptable := ⟨by decide, by decide, by decide⟩
  have hsegments : Settings.defaultFile.segments = ["fieldgen.toml"] := by decide
  refine ⟨"fieldgen.toml" :: t.here, ?_⟩
  rw [locate_of_acceptable hacc, hsegments, List.foldlM_cons, start, if_neg (by decide), step,
    hhere]
  rfl

end FileTree

namespace Run

open CommandLine (Command Invocation)
open Settings (File Flags Resolved)

/-- No artifact of a schema is put where the settings or the schema are read. -/
def Apart (t : FileTree) (config : Path) (o : Opened) : Prop :=
  ∀ a ∈ o.artifacts, t.coincide a.path config = false ∧
    t.coincide a.path o.settings.schema = false

/-- An ending tells the same as another one, except why each file could not be written. -/
structure Ending.Repeats (e' e : Ending) : Prop where
  exitCode_eq : e'.exitCode = e.exitCode
  output_eq : e'.output = e.output
  failure?_eq : e'.failure? = e.failure?
  errorLines_eq : ∃ (warnings : List String) (failures failures' : List WriteFailure),
    e.errorLines = warnings ++ failures.map (fun f => "error: " ++ f.display) ∧
    e'.errorLines = warnings ++ failures'.map (fun f => "error: " ++ f.display) ∧
    failures'.map (·.path) = failures.map (·.path)

theorem Ending.Repeats.refl (e : Ending) : e.Repeats e :=
  ⟨rfl, rfl, rfl, e.errorLines, [], [], by simp, by simp, rfl⟩

section Opening

variable {t t' : FileTree} {config? : Option Path} {flags : Flags} {events : List Log.Event}
  {o : Opened}

/-- Settings are read from a text, or they are missing and nobody asked for them. -/
theorem settingsIn_eq_ok {file? : Option File} (h : settingsIn t config? = .ok file?) :
    (∃ s, t.text (config?.getD Settings.defaultFile) = .ok s) ∨
      config? = none ∧ t.text (config?.getD Settings.defaultFile) = .error .notFound := by
  unfold settingsIn at h
  dsimp only at h
  split at h
  · next s hs => exact Or.inl ⟨s, hs⟩
  · next hs => exact Or.inr ⟨rfl, hs⟩
  · cases h

theorem settingsIn_congr (h : t'.text (config?.getD Settings.defaultFile) =
    t.text (config?.getD Settings.defaultFile)) : settingsIn t' config? = settingsIn t config? := by
  unfold settingsIn
  dsimp only
  rw [h]

theorem schemaIn_eq_ok {settings : Resolved} (h : (schemaIn t settings).2 = .ok o) :
    o.settings = settings ∧ ∃ s, t.text settings.schema = .ok s := by
  unfold schemaIn at h
  cases hs : t.text settings.schema with
  | error fault => simp [hs] at h
  | ok s =>
      rw [hs] at h
      dsimp only at h
      split at h
      · cases h
      · obtain rfl := Except.ok.inj h
        exact ⟨rfl, s, rfl⟩

theorem schemaIn_congr {settings : Resolved}
    (h : t'.text settings.schema = t.text settings.schema) :
    schemaIn t' settings = schemaIn t settings := by
  unfold schemaIn
  rw [h]

/-- What opening a schema takes: settings that can be read, and the schema that they name. -/
theorem openedIn_eq_ok (h : openedIn t config? flags = (events, .ok o)) :
    ∃ file?, settingsIn t config? = .ok file? ∧
      Settings.resolve flags file? (config?.getD Settings.defaultFile) = .ok o.settings ∧
      (schemaIn t o.settings).2 = .ok o := by
  unfold openedIn at h
  dsimp only at h
  split at h
  · cases h
  · next file? hfile =>
      split at h
      · cases h
      · next settings hresolve =>
          obtain ⟨-, hok⟩ := Prod.mk.inj h
          obtain ⟨rfl, -⟩ := schemaIn_eq_ok hok
          exact ⟨file?, hfile, hresolve, hok⟩

theorem openedIn_congr (h : openedIn t config? flags = (events, .ok o))
    (hsettings : settingsIn t' config? = settingsIn t config?)
    (hschema : t'.text o.settings.schema = t.text o.settings.schema) :
    openedIn t' config? flags = (events, .ok o) := by
  obtain ⟨file?, hfile, hresolve, -⟩ := openedIn_eq_ok h
  rw [← h]
  simp only [openedIn, hsettings, hfile, hresolve, schemaIn_congr hschema]

/-- After a delivery the same schema is opened again, unless a directory was made in the place of
settings that were missing. -/
theorem openedIn_again {ds : List Delivery} (hhere : t.at? t.here = some .directory)
    (hopened : openedIn t config? flags = (events, .ok o))
    (hdeliver : (deliver FileTree.disk.sink o.artifacts).run t = (ds, t'))
    (hapart : Apart t' (config?.getD Settings.defaultFile) o) :
    (t'.isDir (config?.getD Settings.defaultFile) = false ∧
      openedIn t' config? flags = (events, .ok o)) ∨
    (config? = none ∧ t.isDir Settings.defaultFile = false ∧
      t'.isDir Settings.defaultFile = true ∧
      openedIn t' config? flags = ([], .error (.settings (.unreadable Settings.defaultFile)))) := by
  obtain ⟨file?, hfile, -, hok⟩ := openedIn_eq_ok hopened
  obtain ⟨-, s, hs⟩ := schemaIn_eq_ok hok
  have hschema : t'.text o.settings.schema = t.text o.settings.schema := by
    rw [hs, FileTree.text_deliver hdeliver (fun a ha => (hapart a ha).2) hs]
  have hconfig := fun a ha => (hapart a ha).1
  rcases settingsIn_eq_ok hfile with ⟨s', hs'⟩ | ⟨rfl, hmissing⟩
  · have hs'' := FileTree.text_deliver hdeliver hconfig hs'
    exact Or.inl ⟨FileTree.isDir_of_text hs'',
      openedIn_congr hopened (settingsIn_congr (hs''.trans hs'.symm)) hschema⟩
  · obtain ⟨l, hl⟩ := FileTree.exists_locate_defaultFile hhere
    obtain ⟨hno, ⟨hstill, hno'⟩ | ⟨hmade, hyes⟩⟩ :=
      FileTree.text_deliver_of_missing hdeliver hconfig hl hmissing
    · exact Or.inl ⟨hno', openedIn_congr hopened (settingsIn_congr (hstill.trans hmissing.symm))
        hschema⟩
    · have hmade' : t'.text Settings.defaultFile = .error .isDirectory := hmade
      have hunreadable : settingsIn t' none = .error (.unreadable Settings.defaultFile) := by
        unfold settingsIn
        dsimp only [Option.getD_none]
        rw [hmade']
      exact Or.inr ⟨rfl, hno, hyes, by simp only [openedIn, hunreadable]⟩

end Opening

section Report

variable (o : Opened) {ds ds' : List Delivery}

/-- Deliveries with the same verdicts are reported alike. -/
theorem repeats_reported (h : ds'.map Delivery.verdict = ds.map Delivery.verdict)
    (events events' : List Log.Event) :
    (Ending.reported events' (writtenReport o ds')
      (if allWritten ds' then none else some .unwritten)).Repeats
    (Ending.reported events (writtenReport o ds)
      (if allWritten ds then none else some .unwritten)) := by
  have houtput : Report.outputText (writtenReport o ds') =
      Report.outputText (writtenReport o ds) := by
    rw [writtenReport, writtenReport, Report.outputText_written, Report.outputText_written,
      writtenPaths_eq_of_verdict h]
  rw [allWritten_eq_of_verdict h]
  exact ⟨rfl, houtput, rfl, o.warnings, writeFailures ds, writeFailures ds',
    Report.errorLines_written .., Report.errorLines_written .., failedPaths_eq_of_verdict h⟩

end Report

section Twice

variable {t t₁ : FileTree} {config? : Option Path} {flags : Flags} {dryRun : Bool} {e₁ : Ending}

/-- A tree has got a directory where it had none. -/
def GetsDir (t t' : FileTree) (p : Path) : Prop := t.isDir p = false ∧ t'.isDir p = true

theorem not_getsDir_self (t : FileTree) (p : Path) : ¬GetsDir t t p := by
  rintro ⟨hno, hyes⟩
  exact Bool.false_ne_true (hno.symm.trans hyes)

/-- What a second run says and leaves behind. -/
structure Follows (config? : Option Path) (t t₁ t₂ : FileTree) (e₁ e₂ : Ending) : Prop where
  at?_eq : ∀ l, t₂.at? l = t₁.at? l
  repeats : ¬GetsDir t t₁ (config?.getD Settings.defaultFile) → e₂.Repeats e₁
  fails : GetsDir t t₁ (config?.getD Settings.defaultFile) →
    config? = none ∧ e₂ = .failed [] (.settings (.unreadable Settings.defaultFile))

theorem Follows.self (config? : Option Path) (t : FileTree) (e : Ending) :
    Follows config? t t t e e :=
  ⟨fun _ => rfl, fun _ => Ending.Repeats.refl e, fun h => absurd h (not_getsDir_self t _)⟩

theorem generate_again (hhere : t.at? t.here = some .directory)
    (hrun : (generate FileTree.disk config? flags dryRun).run t = (e₁, t₁))
    (hapart : ∀ events o, openedIn t config? flags = (events, .ok o) →
      Apart t₁ (config?.getD Settings.defaultFile) o) :
    ∃ e₂ t₂, (generate FileTree.disk config? flags dryRun).run t₁ = (e₂, t₂) ∧
      Follows config? t t₁ t₂ e₁ e₂ := by
  match hopened : openedIn t config? flags with
  | (events, .error failure) =>
      obtain ⟨-, rfl⟩ := Prod.mk.inj (hrun.symm.trans (run_generate_of_error t hopened))
      exact ⟨e₁, t₁, hrun, Follows.self ..⟩
  | (events, .ok o) =>
      cases dryRun with
      | true =>
          obtain ⟨-, rfl⟩ := Prod.mk.inj (hrun.symm.trans (run_generate_of_preview t hopened))
          exact ⟨e₁, t₁, hrun, Follows.self ..⟩
      | false =>
          obtain ⟨ds, t', hdeliver⟩ : ∃ ds t',
              (deliver FileTree.disk.sink o.artifacts).run t = (ds, t') := ⟨_, _, rfl⟩
          obtain ⟨rfl, rfl⟩ :=
            Prod.mk.inj (hrun.symm.trans (run_generate_of_deliver t hopened hdeliver))
          have hgrounded : ∀ a ∈ o.artifacts, a.path.Grounded :=
            fun a ha => Artifact.Plan.grounded_of_mem_render ha
          obtain ⟨ds', t₂, hagain, hverdicts, hat⟩ :=
            FileTree.deliver_twice hgrounded hhere hdeliver
          rcases openedIn_again hhere hopened hdeliver (hapart events o hopened) with
            ⟨hno, hopened'⟩ | ⟨rfl, hno, hyes, hopened'⟩
          · exact ⟨_, t₂, run_generate_of_deliver t₁ hopened' hagain, hat,
              fun _ => repeats_reported o hverdicts _ _,
              fun h => absurd (hno.symm.trans h.2) Bool.false_ne_true⟩
          · exact ⟨_, t₁, run_generate_of_error t₁ hopened', fun _ => rfl,
              fun h => absurd ⟨hno, hyes⟩ h, fun _ => ⟨rfl, rfl⟩⟩

theorem run_snd_of_generate {args : List String} {verbosity : Nat}
    (hargs : Invocation.ofArguments args = .ok ⟨verbosity, .generate config? flags dryRun⟩) :
    ((run FileTree.disk args).run t).2 =
      ((generate FileTree.disk config? flags dryRun).run t).2 := by
  rw [run_of_generate hargs]

theorem generate_of_run {args : List String} {verbosity : Nat}
    (hargs : Invocation.ofArguments args = .ok ⟨verbosity, .generate config? flags dryRun⟩)
    (hrun : (run FileTree.disk args).run t = (.finished verbosity e₁, t₁)) :
    (generate FileTree.disk config? flags dryRun).run t = (e₁, t₁) := by
  rw [run_of_generate hargs] at hrun
  obtain ⟨houtcome, htree⟩ := Prod.mk.inj hrun
  exact Prod.ext (Outcome.finished.inj houtcome).2 htree

/-- Generating twice changes nothing the second time. If no artifact is put where the settings or
the schema are read, a second run with the same arguments leaves every entry of the tree as it is,
and ends as the first one did: with the same exit code, the same output, the same error and the same
files that could not be written. Only if the first run made a directory in the place of a missing
settings file, the second one fails to read it. -/
theorem generate_again_changes_nothing {args : List String} {verbosity : Nat}
    (hargs : Invocation.ofArguments args = .ok ⟨verbosity, .generate config? flags dryRun⟩)
    (hhere : t.at? t.here = some .directory)
    (hapart : ∀ events o,
      ((openSchema FileTree.disk config? flags).run t).1 = (events, .ok o) →
        Apart ((run FileTree.disk args).run t).2 (config?.getD Settings.defaultFile) o) :
    ∃ e₁ t₁ e₂ t₂, (run FileTree.disk args).run t = (.finished verbosity e₁, t₁) ∧
      (run FileTree.disk args).run t₁ = (.finished verbosity e₂, t₂) ∧
      Follows config? t t₁ t₂ e₁ e₂ := by
  obtain ⟨e₁, t₁, hrun⟩ : ∃ e₁ t₁,
      (generate FileTree.disk config? flags dryRun).run t = (e₁, t₁) := ⟨_, _, rfl⟩
  have hfirst : (run FileTree.disk args).run t = (.finished verbosity e₁, t₁) := by
    rw [run_of_generate hargs, hrun]
  rw [hfirst] at hapart
  obtain ⟨e₂, t₂, hrun', hfollows⟩ := generate_again hhere hrun fun events o hopened =>
    hapart events o (by rw [run_openSchema, hopened])
  refine ⟨e₁, t₁, e₂, t₂, hfirst, ?_, hfollows⟩
  rw [run_of_generate hargs, hrun']

end Twice

theorem opened_eq_of_openSchema {t : FileTree} {config? : Option Path} {flags : Flags}
    {events : List Log.Event} {o o' : Opened}
    (h : ((openSchema FileTree.disk config? flags).run t).1 = (events, .ok o))
    (hopens : (openedIn t config? flags).2 = .ok o') : o = o' := by
  have hopened : openedIn t config? flags = (events, .ok o) := by
    rwa [run_openSchema] at h
  rw [hopened] at hopens
  exact Except.ok.inj hopens

theorem apart_blocked :
    Apart ((generate FileTree.disk none blockedFlags false).run blockedTree).2
      Settings.defaultFile openedBlocked := by
  unfold Apart
  decide +kernel

theorem isDir_defaultFile_blocked :
    ((generate FileTree.disk none blockedFlags false).run blockedTree).2.isDir
      Settings.defaultFile = false := by
  decide +kernel

theorem exitCode_blocked :
    ((generate FileTree.disk none blockedFlags false).run blockedTree).1.exitCode = 1 := by
  decide +kernel

/-- A run that fails on one of four artifacts fails on it again. -/
theorem generate_again_changes_nothing_blocked :
    ∃ e₁ t₁ e₂ t₂,
      (run FileTree.disk blockedArguments).run blockedTree = (.finished 0 e₁, t₁) ∧
      (run FileTree.disk blockedArguments).run t₁ = (.finished 0 e₂, t₂) ∧
      (∀ l, t₂.at? l = t₁.at? l) ∧ e₂.Repeats e₁ ∧ e₁.exitCode = 1 := by
  obtain ⟨e₁, t₁, e₂, t₂, hfirst, hsecond, hfollows⟩ :=
    generate_again_changes_nothing (t := blockedTree) ofArguments_blocked rfl fun events o h => by
      rw [opened_eq_of_openSchema h opens_blocked, run_snd_of_generate ofArguments_blocked]
      exact apart_blocked
  have hgenerate := generate_of_run ofArguments_blocked hfirst
  have hno := isDir_defaultFile_blocked
  have hexit := exitCode_blocked
  rw [hgenerate] at hno hexit
  exact ⟨e₁, t₁, e₂, t₂, hfirst, hsecond, hfollows.at?_eq,
    hfollows.repeats fun h => Bool.false_ne_true (hno.symm.trans h.2), hexit⟩

/-- A tree with nothing but a schema. -/
def plainTree : FileTree where
  here := ["work"]
  entries := [(["work"], .directory),
    (["schema.prisma", "work"], .file "model User \x7b\n  id Int\n\x7d\n".toUTF8)]

/-- Arguments that send the artifacts below the place of the settings file. -/
def displacingArguments : List String :=
  ["generate", "-s", "schema.prisma", "-o", "fieldgen.toml"]

def displacingFlags : Flags :=
  { Flags.none with schema := some ⟨"schema.prisma"⟩, output := some ⟨"fieldgen.toml"⟩ }

def openedDisplacing : Opened :=
  ⟨⟨⟨"schema.prisma"⟩, { Artifact.Plan.default with outputDir := ⟨"fieldgen.toml"⟩ }⟩,
    ⟨["User"], [("User", [⟨"id", "Int"⟩])], []⟩⟩

theorem ofArguments_displacing : Invocation.ofArguments displacingArguments =
    .ok ⟨0, .generate none displacingFlags false⟩ := by
  rfl

theorem opens_displacing : (openedIn plainTree none displacingFlags).2 = .ok openedDisplacing := by
  decide +kernel

theorem apart_displacing :
    Apart ((generate FileTree.disk none displacingFlags false).run plainTree).2
      Settings.defaultFile openedDisplacing := by
  unfold Apart
  decide +kernel

theorem exitCode_displacing :
    ((generate FileTree.disk none displacingFlags false).run plainTree).1.exitCode = 0 ∧
    ((generate FileTree.disk none displacingFlags false).run
      ((generate FileTree.disk none displacingFlags false).run plainTree).2).1.exitCode = 1 := by
  decide +kernel

/-- Artifacts below the place of a missing settings file make the next run fail. -/
theorem artifacts_displace_settings :
    ¬∀ (t : FileTree) (args : List String) (verbosity : Nat) (config? : Option Path) (flags : Flags)
        (dryRun : Bool),
      Invocation.ofArguments args = .ok ⟨verbosity, .generate config? flags dryRun⟩ →
      t.at? t.here = some .directory →
      (∀ events o, ((openSchema FileTree.disk config? flags).run t).1 = (events, .ok o) →
        Apart ((run FileTree.disk args).run t).2 (config?.getD Settings.defaultFile) o) →
      ∃ e₁ t₁ e₂ t₂, (run FileTree.disk args).run t = (.finished verbosity e₁, t₁) ∧
        (run FileTree.disk args).run t₁ = (.finished verbosity e₂, t₂) ∧
        (∀ l, t₂.at? l = t₁.at? l) ∧ e₂.Repeats e₁ := by
  intro hall
  obtain ⟨e₁, t₁, e₂, t₂, hfirst, hsecond, -, hrepeats⟩ :=
    hall plainTree displacingArguments 0 none displacingFlags false ofArguments_displacing rfl
      fun events o h => by
        rw [opened_eq_of_openSchema h opens_displacing, run_snd_of_generate ofArguments_displacing]
        exact apart_displacing
  obtain ⟨hzero, hone⟩ := exitCode_displacing
  rw [generate_of_run ofArguments_displacing hfirst] at hzero hone
  rw [generate_of_run ofArguments_displacing hsecond] at hone
  have hexit : 1 = 0 := hone.symm.trans (hrepeats.exitCode_eq.trans hzero)
  exact Nat.one_ne_zero hexit

end Run

end SchemaScribe
