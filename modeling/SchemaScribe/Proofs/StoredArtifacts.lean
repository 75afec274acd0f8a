import SchemaScribe.Delivery
import SchemaScribe.Proofs.ArtifactPaths
import Mathlib.Data.Finset.Card

/-!
# Stored artifacts

A store keeps the last content written to each path. Under a plan that writes names as they are and
chooses no directories of its own, paths tell subjects apart: the directory tells the kind, up to
the registry that lies beside the field enums, and the file name tells the record. A record that is
declared several times yields the same artifacts each time, with the fields of its last block. So no
content is lost, in whatever order the artifacts are delivered.
-/
namespace SchemaScribe

/-- The files in a store that refuses nothing and was empty before some artifacts were delivered:
each path with the last content written to it. -/
def storedFiles (as : List Artifact) : List (Path × String) :=
  OrderedEntries.ofPairs ((deliver (memorySink fun _ => none) as).run []).2

/-- Delivering to memory appends one write for each artifact. -/
theorem writes_deliver (as : List Artifact) (files : List (Path × String)) :
    ((deliver (memorySink fun _ => none) as).run files).2 =
      files ++ as.map fun a => (a.path, a.content) := by
  induction as generalizing files with
  | nil => exact (List.append_nil files).symm
  | cons a as ih =>
      rw [List.map_cons, List.append_cons, ← ih]
      rfl

theorem storedFiles_eq (as : List Artifact) :
    storedFiles as = OrderedEntries.ofPairs (as.map fun a => (a.path, a.content)) := by
  rw [storedFiles, writes_deliver, List.nil_append]

theorem nodup_paths_storedFiles (as : List Artifact) : ((storedFiles as).map (·.1)).Nodup := by
  rw [storedFiles_eq]
  exact OrderedEntries.nodup_keys_ofPairs _

theorem mem_paths_storedFiles_iff {as : List Artifact} {path : Path} :
    path ∈ (storedFiles as).map (·.1) ↔ ∃ a ∈ as, a.path = path := by
  rw [storedFiles_eq, OrderedEntries.keys_ofPairs, List.mem_eraseDups]
  simp

/-- Artifacts that agree wherever they share a path are all stored. -/
theorem mem_storedFiles_iff {as : List Artifact}
    (h : ∀ a ∈ as, ∀ a' ∈ as, a.path = a'.path → a.content = a'.content)
    {path : Path} {content : String} :
    (path, content) ∈ storedFiles as ↔ ∃ a ∈ as, a.path = path ∧ a.content = content := by
  have hvalue : ∀ p ∈ as.map (fun a => (a.path, a.content)),
      ∀ q ∈ as.map (fun a => (a.path, a.content)), p.1 = q.1 → p.2 = q.2 := by
    intro p hp q hq
    obtain ⟨a, ha, rfl⟩ := List.mem_map.1 hp
    obtain ⟨a', ha', rfl⟩ := List.mem_map.1 hq
    exact h a ha a' ha'
  rw [storedFiles_eq, OrderedEntries.mem_ofPairs_iff hvalue, List.mem_map]
  simp only [Prod.mk.injEq]

namespace Artifact

open Schema (Catalogue blocks)

namespace Subject

/-- A subject is told by its kind and its name. -/
theorem eq_iff {s s' : Subject} : s = s' ↔ s.kind = s'.kind ∧ s.name? = s'.name? := by
  cases s <;> cases s' <;> simp [kind, name?, and_comm]

theorem all_cons (name : String) (names : List String) :
    all (name :: names) = Kind.perRecord.map (.record name) ++ all names := by
  rw [all, List.flatMap_cons, List.append_assoc]
  rfl

theorem length_all (names : List String) : (all names).length = 3 * names.length + 1 := by
  induction names with
  | nil => rfl
  | cons name names ih =>
      rw [all_cons, List.length_append, ih, List.length_map, List.length_cons]
      change 3 + _ = _
      omega

theorem nodup_all {names : List String} (h : names.Nodup) : (all names).Nodup := by
  induction names with
  | nil => exact List.nodup_singleton _
  | cons name names ih =>
      obtain ⟨hname, hnames⟩ := List.nodup_cons.1 h
      rw [all_cons, List.nodup_append']
      refine ⟨by simp [Kind.perRecord], ih hnames, fun s hs hs' => ?_⟩
      obtain ⟨kind, -, rfl⟩ := List.mem_map.1 hs
      exact hname (mem_of_name? hs' rfl)

end Subject

/-- The kinds of a record go to different directories. -/
theorem Kind.eq_of_defaultDir_eq : ∀ kind ∈ perRecord, ∀ kind' ∈ perRecord,
    kind.defaultDir = kind'.defaultDir → kind = kind' := by decide

/-- Of the kinds of a record, only field enums go where the registry goes. -/
theorem Kind.eq_fieldEnum_of_defaultDir_eq : ∀ kind ∈ perRecord,
    kind.defaultDir = tables.defaultDir → kind = .fieldEnum := by decide

namespace Plan

/-- A plan under which the files for some names stay apart. -/
structure KeepsApart (plan : Plan) (names : List String) : Prop where
  naming_eq : plan.naming = .camelCase
  dir_eq : ∀ kind, (plan.options kind).dir = none
  slashFree : plan.SlashFree
  ne_tables : ∀ name ∈ names, name ++ plan.fieldEnum.after ≠ "Tables"

section Paths

variable {text filename : String} {c : Catalogue} {plan : Plan} {s s' : Subject}

/-- Among the files of one directory the stems tell the subjects apart. -/
theorem KeepsApart.eq_of_stem_eq {names : List String} (h : plan.KeepsApart names)
    (hs : s ∈ Subject.all names) (hs' : s' ∈ Subject.all names)
    (hdir : s.kind.defaultDir = s'.kind.defaultDir) (hstem : plan.stem s = plan.stem s') :
    s = s' := by
  have hregistry : ∀ name ∈ names, ∀ kind ∈ Kind.perRecord,
      kind.defaultDir = Kind.tables.defaultDir →
        plan.stem (.record name kind) ≠ plan.stem .registry := by
    intro name hname kind hkind hdir hstem
    obtain rfl := Kind.eq_fieldEnum_of_defaultDir_eq kind hkind hdir
    simp only [stem, options, String.append_assoc, String.append_right_inj] at hstem
    exact h.ne_tables name hname hstem
  rcases Subject.mem_all_iff.1 hs with ⟨name, hname, kind, hkind, rfl⟩ | rfl <;>
    rcases Subject.mem_all_iff.1 hs' with ⟨name', hname', kind', hkind', rfl⟩ | rfl
  · obtain rfl : kind = kind' := Kind.eq_of_defaultDir_eq kind hkind kind' hkind' hdir
    simp only [stem, String.append_left_inj, String.append_right_inj] at hstem
    rw [hstem]
  · exact absurd hstem (hregistry name hname kind hkind hdir)
  · exact absurd hstem.symm (hregistry name' hname' kind' hkind' hdir.symm)
  · rfl

/-- The steps of a path are those of the output directory, the directory of the kind and the file
name. -/
theorem KeepsApart.steps_path (h : plan.KeepsApart c.names)
    (hread : Schema.read text filename false = .ok c) (hs : s ∈ Subject.all c.names) :
    (plan.artifact c s).path.steps =
      plan.outputDir.steps ++ [s.kind.defaultDir] ++ [plan.stem s ++ ".ts"] := by
  have hslash : '/' ∉ (plan.fileNameOf s).toList := by
    rw [slash_mem_fileNameOf_iff_alias hread h.slashFree hs]
    rintro ⟨hmapping, -⟩
    cases hmapping
  have hfile : plan.fileNameOf s = plan.stem s ++ ".ts" := by
    rw [fileNameOf, fileName, h.naming_eq]
    rfl
  have hdir : '/' ∉ s.kind.defaultDir.toList ∧ Path.isIdle s.kind.defaultDir.toList = false := by
    cases s.kind <;> decide
  rw [path_artifact, Path.steps_join hslash (isIdle_fileName ..), hfile,
    dirFor_eq_of_dir_eq_none (h.dir_eq s.kind), Path.steps_join hdir.1 hdir.2]

/-- Different subjects have different steps to their files. -/
theorem KeepsApart.eq_of_steps_eq (h : plan.KeepsApart c.names)
    (hread : Schema.read text filename false = .ok c) (hs : s ∈ Subject.all c.names)
    (hs' : s' ∈ Subject.all c.names)
    (hsteps : (plan.artifact c s).path.steps = (plan.artifact c s').path.steps) : s = s' := by
  rw [h.steps_path hread hs, h.steps_path hread hs'] at hsteps
  obtain ⟨hdirs, hfile⟩ := List.append_inj' hsteps rfl
  obtain ⟨-, hdir⟩ := List.append_inj' hdirs rfl
  refine h.eq_of_stem_eq hs hs' (List.singleton_inj.1 hdir) ?_
  exact (String.append_left_inj _).1 (List.singleton_inj.1 hfile)

/-- Artifacts of different subjects do not share a path. -/
theorem KeepsApart.path_eq_iff (h : plan.KeepsApart c.names)
    (hread : Schema.read text filename false = .ok c) (hs : s ∈ Subject.all c.names)
    (hs' : s' ∈ Subject.all c.names) :
    (plan.artifact c s).path = (plan.artifact c s').path ↔ s = s' :=
  ⟨fun hpath => h.eq_of_steps_eq hread hs hs' (congrArg Path.steps hpath), fun heq => heq ▸ rfl⟩

end Paths

section Store

variable {text filename : String} {c : Catalogue} {plan : Plan} {as : List Artifact}

theorem exists_subject_of_perm (has : as.Perm (plan.render c)) {a : Artifact} (ha : a ∈ as) :
    ∃ s ∈ Subject.all c.names, plan.artifact c s = a := by
  have hrender := has.subset ha
  rwa [render_eq_map, List.mem_map] at hrender

/-- The paths in the store, one for each subject of the distinct names. -/
theorem KeepsApart.perm_paths_storedFiles (h : plan.KeepsApart c.names)
    (hread : Schema.read text filename false = .ok c) (has : as.Perm (plan.render c)) :
    ((storedFiles as).map (·.1)).Perm
      ((Subject.all c.names.dedup).map fun s => (plan.artifact c s).path) := by
  have hall : ∀ s, s ∈ Subject.all c.names.dedup ↔ s ∈ Subject.all c.names := by
    intro s
    simp only [Subject.mem_all_iff, List.mem_dedup]
  have hsubjects : ((Subject.all c.names.dedup).map fun s => (plan.artifact c s).path).Nodup := by
    refine (Subject.nodup_all c.names.nodup_dedup).map_on fun s hs s' hs' hpath => ?_
    exact (h.path_eq_iff hread ((hall s).1 hs) ((hall s').1 hs')).1 hpath
  refine (List.perm_ext_iff_of_nodup (nodup_paths_storedFiles as) hsubjects).2 fun path => ?_
  rw [mem_paths_storedFiles_iff, List.mem_map]
  constructor
  · rintro ⟨a, ha, rfl⟩
    obtain ⟨s, hs, rfl⟩ := exists_subject_of_perm has ha
    exact ⟨s, (hall s).2 hs, rfl⟩
  · rintro ⟨s, hs, rfl⟩
    refine ⟨plan.artifact c s, has.symm.subset ?_, rfl⟩
    rw [render_eq_map]
    exact List.mem_map_of_mem ((hall s).1 hs)

theorem KeepsApart.nodup_steps_storedFiles (h : plan.KeepsApart c.names)
    (hread : Schema.read text filename false = .ok c) (has : as.Perm (plan.render c)) :
    ((storedFiles as).map (·.1.steps)).Nodup := by
  have hmap : (storedFiles as).map (·.1.steps) = ((storedFiles as).map (·.1)).map Path.steps := by
    rw [List.map_map]
    rfl
  rw [hmap]
  refine (nodup_paths_storedFiles as).map_on fun path hpath path' hpath' hsteps => ?_
  obtain ⟨a, ha, rfl⟩ := mem_paths_storedFiles_iff.1 hpath
  obtain ⟨a', ha', rfl⟩ := mem_paths_storedFiles_iff.1 hpath'
  obtain ⟨s, hs, rfl⟩ := exists_subject_of_perm has ha
  obtain ⟨s', hs', rfl⟩ := exists_subject_of_perm has ha'
  rw [h.eq_of_steps_eq hread hs hs' hsteps]

/-- Every artifact is stored with its content, whatever the order of delivery. -/
theorem KeepsApart.mem_storedFiles_iff (h : plan.KeepsApart c.names)
    (hread : Schema.read text filename false = .ok c) (has : as.Perm (plan.render c))
    {path : Path} {content : String} :
    (path, content) ∈ storedFiles as ↔
      ∃ a ∈ plan.render c, a.path = path ∧ a.content = content := by
  rw [SchemaScribe.mem_storedFiles_iff fun a ha a' ha' hpath => ?_]
  · exact exists_congr fun a => and_congr_left' has.mem_iff
  · obtain ⟨s, hs, rfl⟩ := exists_subject_of_perm has ha
    obtain ⟨s', hs', rfl⟩ := exists_subject_of_perm has ha'
    rw [(h.path_eq_iff hread hs hs').1 hpath]

/-- Two artifacts go to one path exactly if they have the same kind and the same record, and then
they have the same content. A store that gets the artifacts in any order holds each of them: three
files for each distinct name, with the fields of its last block, and the registry. The paths differ
in their steps, so they are different files also for a store that tidies up paths. -/
theorem artifacts_kept_apart (hread : Schema.read text filename false = .ok c)
    (hplan : plan.KeepsApart c.names) :
    plan.render c = (Subject.all c.names).map (plan.artifact c) ∧
    (∀ s ∈ Subject.all c.names, ∀ s' ∈ Subject.all c.names,
      ((plan.artifact c s).path = (plan.artifact c s').path ↔
        s.kind = s'.kind ∧ s.name? = s'.name?) ∧
      ((plan.artifact c s).path = (plan.artifact c s').path →
        (plan.artifact c s).content = (plan.artifact c s').content)) ∧
    ∀ as : List Artifact, as.Perm (plan.render c) →
      (storedFiles as).length = 3 * c.names.toFinset.card + 1 ∧
      ((storedFiles as).map (·.1.steps)).Nodup ∧
      (∀ path content, (path, content) ∈ storedFiles as ↔
        ∃ a ∈ plan.render c, a.path = path ∧ a.content = content) ∧
      ∀ name ∈ c.names, ∃ earlier b later,
        blocks text = earlier ++ b :: later ∧ b.name = name ∧
        (∀ other ∈ later, other.name ≠ name) ∧
        ∀ kind ∈ Kind.perRecord,
          ((plan.dirFor kind).join ⟨(plan.recordNames kind name).fileName⟩,
            plan.recordContent kind (plan.recordNames kind name) (b.record false).fields) ∈
              storedFiles as := by
  refine ⟨plan.render_eq_map c, fun s hs s' hs' => ⟨?_, fun hpath => ?_⟩, fun as has =>
    ⟨?_, hplan.nodup_steps_storedFiles hread has,
      fun _ _ => hplan.mem_storedFiles_iff hread has, fun name hname => ?_⟩⟩
  · rw [hplan.path_eq_iff hread hs hs', Subject.eq_iff]
  · rw [(hplan.path_eq_iff hread hs hs').1 hpath]
  · have hlength := (hplan.perm_paths_storedFiles hread has).length_eq
    rw [List.length_map, List.length_map, Subject.length_all] at hlength
    rw [hlength, List.card_toFinset]
  · obtain ⟨earlier, b, later, hblocks, hb, hlater, hfields⟩ :=
      Schema.exists_last_block_of_read hread hname
    refine ⟨earlier, b, later, hblocks, hb, hlater, fun kind hkind => ?_⟩
    rw [hplan.mem_storedFiles_iff hread has]
    refine ⟨plan.artifact c (.record name kind), ?_, rfl, ?_⟩
    · rw [render_eq_map]
      exact List.mem_map_of_mem (Subject.mem_all_iff.2 (Or.inl ⟨name, hname, kind, hkind, rfl⟩))
    · simp only [artifact, hfields, Option.getD_some, recordArtifact]

end Store

/-- A schema that declares a record twice. Delivered from the last artifact to the first, the record
still has the fields of its second block. -/
theorem artifacts_kept_apart_redeclared :
    let text := "model A \x7b\n  x Int\n\x7d\nmodel B \x7b\n\x7d\nmodel A \x7b\n  y Int\n\x7d"
    ∃ c, Schema.read text "schema" false = .ok c ∧ Plan.default.KeepsApart c.names ∧
      (Plan.default.render c).length = 10 ∧
      (storedFiles (Plan.default.render c).reverse).length = 7 ∧
      (⟨"./generated/field-enum/AFields.ts"⟩, "export enum AFields \x7b\n  y = \"y\",\n\x7d") ∈
        storedFiles (Plan.default.render c).reverse := by
  intro text
  let c : Catalogue := ⟨["A", "B", "A"], [("A", [⟨"y", "Int"⟩]), ("B", [])],
    [⟨.redeclaredModel "A", "schema:6"⟩]⟩
  have hread : Schema.read text "schema" false = .ok c := by decide +kernel
  have hplan : Plan.default.KeepsApart c.names :=
    ⟨rfl, fun kind => by cases kind <;> rfl,
      ⟨fun kind => by cases kind <;> decide, fun kind => by cases kind <;> decide⟩, by decide⟩
  obtain ⟨hlength, -, hmem, -⟩ :=
    (artifacts_kept_apart hread hplan).2.2 _ (List.reverse_perm (Plan.default.render c))
  refine ⟨c, hread, hplan, by decide +kernel, hlength.trans (by decide), (hmem _ _).2 ?_⟩
  exact ⟨Plan.default.artifact c (.record "A" .fieldEnum), by decide +kernel, by decide +kernel,
    by decide +kernel⟩

end Plan

end Artifact

end SchemaScribe
