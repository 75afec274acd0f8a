import SchemaScribe.Artifact.Render
import SchemaScribe.Proofs.AliasSwitch

/-!
# Paths of artifacts

Every artifact is generated for a subject, which settles its kind and its file name. The path of the
artifact is the directory of the kind joined with the file name. Neither naming style adds or
removes a separator, so a file name has a separator in it only if the name of the record has one.
Declared names are words and have none; an alias may have any number, and one that starts with a
separator replaces the directory. Such an alias can still name a file of the directory, when it
spells the whole way there.
-/
namespace SchemaScribe

namespace Text

theorem slash_mem_lowerChar_iff {c : Char} : '/' ∈ Unicode.lowerChar c ↔ '/' = c := by
  refine ⟨Unicode.eq_of_mem_lowerChar (by decide) (by decide), ?_⟩
  rintro rfl
  decide

theorem slash_mem_kebabFrom_iff {afterLower : Bool} {cs : List Char} :
    '/' ∈ kebabFrom afterLower cs ↔ '/' ∈ cs := by
  induction cs generalizing afterLower with
  | nil => simp [kebabFrom]
  | cons c cs ih =>
      have hhyphen : '/' ∉ if afterLower && c.isUpper then ['-'] else [] := by
        split_ifs <;> decide
      rw [kebabFrom, List.mem_append, List.mem_append, slash_mem_lowerChar_iff, ih, List.mem_cons]
      exact or_congr_left (or_iff_right hhyphen)

end Text

/-- Neither style changes whether a text has a separator in it. -/
theorem NamingStyle.slash_mem_apply_iff {style : NamingStyle} {s : String} :
    '/' ∈ (style.apply s).toList ↔ '/' ∈ s.toList := by
  cases style with
  | camelCase => rfl
  | kebabCase => rw [apply, Text.kebab, String.toList_ofList, Text.slash_mem_kebabFrom_iff]

namespace Path

/-- The segments of a path that name something. Paths with different steps differ in more than
doubled separators and `.` segments. -/
def steps (p : Path) : List String := p.segments.filter fun s => !isIdle s.toList

variable {left : Path} {name file : String}

/-- A file name without a separator goes behind the directory. -/
theorem join_eq_of_not_mem (hfile : '/' ∉ file.toList) :
    left.join ⟨file⟩ =
      if left.text.toList.getLast? = none ∨ left.text.toList.getLast? = some '/' then
        ⟨left.text ++ file⟩
      else ⟨left.text ++ "/" ++ file⟩ :=
  if_neg fun hhead => hfile (List.mem_of_head? hhead)

/-- Behind one directory, a name that does not start from the root is found again. -/
theorem eq_of_join_eq (hname : name.toList.head? ≠ some '/') (hfile : '/' ∉ file.toList)
    (h : left.join ⟨name⟩ = left.join ⟨file⟩) : file = name := by
  rw [join_eq_of_not_mem hfile, join, if_neg hname] at h
  apply String.toList_inj.1
  have htext := congrArg (fun p : Path => p.text.toList) h
  split_ifs at htext <;> simpa using htext.symm

theorem steps_append_slash (left file : String) :
    steps ⟨left ++ "/" ++ file⟩ = steps ⟨left⟩ ++ steps ⟨file⟩ := by
  have hcut : (left ++ "/" ++ file).toList = left.toList ++ '/' :: file.toList := by simp
  rw [steps, segments, hcut, List.splitOn_append_cons_self, List.map_append, List.filter_append]
  rfl

theorem steps_eq_singleton (hfile : '/' ∉ file.toList) (hidle : isIdle file.toList = false) :
    steps ⟨file⟩ = [file] := by
  rw [steps, segments, List.splitOn_eq_singleton hfile, List.map_singleton, String.ofList_toList]
  simp [hidle]

/-- A file name without a separator is one more step behind those of its directory. -/
theorem steps_join (hfile : '/' ∉ file.toList) (hidle : isIdle file.toList = false) :
    (left.join ⟨file⟩).steps = left.steps ++ [file] := by
  have hempty : steps ⟨""⟩ = [] := by decide
  rw [join_eq_of_not_mem hfile, ← steps_eq_singleton hfile hidle]
  obtain ⟨left⟩ := left
  split_ifs with h
  · rcases h with hnone | hslash
    · obtain rfl : left = "" := by simpa using hnone
      rw [hempty, List.nil_append, String.empty_append]
    · -- The separator is there already; what follows it in the directory is an idle segment.
      obtain ⟨cs, hcs⟩ := List.getLast?_eq_some_iff.1 hslash
      obtain rfl : left = String.ofList cs ++ "/" ++ "" := by
        apply String.toList_inj.1
        simpa using hcs
      rw [steps_append_slash, hempty, String.append_empty, steps_append_slash, List.append_nil]
  · exact steps_append_slash left file

theorem getLast?_text_join {c : Char} (hlast : name.toList.getLast? = some c) :
    (left.join ⟨name⟩).text.toList.getLast? = some c := by
  unfold join
  split_ifs <;> simp [List.getLast?_append, List.getLast?_cons, hlast]

/-- A path that ends neither with a separator nor with a dot ends with a file name. -/
theorem isIdle_of_getLast?_join {c : Char} (hfile : '/' ∉ file.toList)
    (hlast : (left.join ⟨file⟩).text.toList.getLast? = some c) (hslash : c ≠ '/') (hdot : c ≠ '.') :
    isIdle file.toList = false := by
  rw [isIdle, Bool.or_eq_false_iff, decide_eq_false_iff_not, decide_eq_false_iff_not]
  constructor
  · intro hempty
    obtain rfl : file = "" := String.toList_eq_nil_iff.1 hempty
    rw [join_eq_of_not_mem hfile] at hlast
    split_ifs at hlast with h
    · rw [String.append_empty] at hlast
      rcases h with hnone | hend
      · simp [hnone] at hlast
      · exact hslash (Option.some.inj (hlast.symm.trans hend))
    · exact hslash (by simpa using hlast.symm)
  · intro hone
    rw [getLast?_text_join (c := '.') (by rw [hone]; rfl)] at hlast
    exact hdot (Option.some.inj hlast).symm

/-- Behind a directory that is itself named below another one comes a separator. -/
theorem text_join_join {c : Char} (hlast : name.toList.getLast? = some c) (hc : c ≠ '/')
    (hfile : '/' ∉ file.toList) :
    ((left.join ⟨name⟩).join ⟨file⟩).text = (left.join ⟨name⟩).text ++ "/" ++ file := by
  rw [join_eq_of_not_mem hfile, getLast?_text_join hlast, if_neg (by simp [hc])]

end Path

namespace Artifact

open Schema (Catalogue blocks)

/-- What an artifact is generated for: a record, in one of its kinds, or the list of all names. -/
inductive Subject where
  | record (name : String) (kind : Kind)
  | registry
  deriving DecidableEq

namespace Subject

def kind : Subject → Kind
  | .record _ kind => kind
  | .registry => .tables

/-- The name of the record. -/
def name? : Subject → Option String
  | .record name _ => some name
  | .registry => none

/-- The subjects for the records with given names, in the order of their artifacts. -/
def all (names : List String) : List Subject :=
  names.flatMap (fun name => Kind.perRecord.map (.record name)) ++ [.registry]

theorem mem_all_iff {names : List String} {s : Subject} :
    s ∈ all names ↔
      (∃ name ∈ names, ∃ kind ∈ Kind.perRecord, s = .record name kind) ∨ s = .registry := by
  simp [all, eq_comm]

theorem mem_of_name? {names : List String} {s : Subject} {name : String} (hs : s ∈ all names)
    (hname : s.name? = some name) : name ∈ names := by
  rcases mem_all_iff.1 hs with ⟨name', hmem, kind, -, rfl⟩ | rfl
  · rwa [← Option.some.inj hname]
  · simp [name?] at hname

end Subject

theorem isIdle_fileName (style : NamingStyle) (stem : String) :
    Path.isIdle (fileName style stem).toList = false := by
  have hlen : 3 ≤ (fileName style stem).toList.length := by simp [fileName]
  generalize (fileName style stem).toList = cs at hlen
  rw [Path.isIdle, Bool.or_eq_false_iff, decide_eq_false_iff_not, decide_eq_false_iff_not]
  constructor <;> rintro rfl <;> simp at hlen

/-- The last character of the directory of a kind. -/
theorem exists_getLast?_defaultDir (kind : Kind) :
    ∃ c, kind.defaultDir.toList.getLast? = some c ∧ c ≠ '/' := by
  cases kind <;> exact ⟨_, rfl, by decide⟩

namespace Plan

variable {plan : Plan}

/-- What the file of a subject is named after. -/
def stem (plan : Plan) : Subject → String
  | .record name kind => (plan.options kind).before ++ name ++ (plan.options kind).after
  | .registry => (plan.options .tables).before ++ "Tables"

def fileNameOf (plan : Plan) (s : Subject) : String := fileName plan.naming (plan.stem s)

/-- The artifact for a subject. -/
def artifact (plan : Plan) (c : Catalogue) : Subject → Artifact
  | .record name kind => plan.recordArtifact name ((c.fields? name).getD []) kind
  | .registry => plan.renderRegistry c.names

theorem render_eq_map (plan : Plan) (c : Catalogue) :
    plan.render c = (Subject.all c.names).map (plan.artifact c) := by
  simp [render, Subject.all, Catalogue.records, renderRecord, artifact, List.map_flatMap,
    List.flatMap_map, Function.comp_def]

@[simp] theorem kind_artifact (plan : Plan) (c : Catalogue) (s : Subject) :
    (plan.artifact c s).kind = s.kind := by
  cases s <;> rfl

theorem path_artifact (plan : Plan) (c : Catalogue) (s : Subject) :
    (plan.artifact c s).path = (plan.dirFor s.kind).join ⟨plan.fileNameOf s⟩ := by
  cases s <;> rfl

/-- A plan that puts no separator before or after the names of records. -/
structure SlashFree (plan : Plan) : Prop where
  before : ∀ kind, '/' ∉ (plan.options kind).before.toList
  after : ∀ kind, '/' ∉ (plan.options kind).after.toList

theorem SlashFree.slash_mem_fileNameOf_iff (h : plan.SlashFree) {s : Subject} :
    '/' ∈ (plan.fileNameOf s).toList ↔ ∃ name, s.name? = some name ∧ '/' ∈ name.toList := by
  rw [fileNameOf, fileName, String.toList_append, List.mem_append, NamingStyle.slash_mem_apply_iff]
  cases s with
  | record name kind => simp [stem, Subject.name?, h.before kind, h.after kind]
  | registry => simp [stem, Subject.name?, h.before .tables]

/-- An artifact lies directly in the directory of its kind, under a file name. Where no other
directory is chosen, this is the directory of the kind below the output directory. -/
structure InPlace (plan : Plan) (a : Artifact) (file : String) : Prop where
  no_slash : '/' ∉ file.toList
  path_eq : a.path = (plan.dirFor a.kind).join ⟨file⟩
  steps_eq : a.path.steps = (plan.dirFor a.kind).steps ++ [file]
  text_eq : (plan.options a.kind).dir = none →
    a.path.text = (plan.outputDir.join ⟨a.kind.defaultDir⟩).text ++ "/" ++ file

theorem dirFor_eq_of_dir_eq_none {kind : Kind} (h : (plan.options kind).dir = none) :
    plan.dirFor kind = plan.outputDir.join ⟨kind.defaultDir⟩ := by
  rw [dirFor, h, Option.getD_none]

theorem inPlace_of_path_eq {a : Artifact} {file : String} (hfile : '/' ∉ file.toList)
    (hidle : Path.isIdle file.toList = false) (hpath : a.path = (plan.dirFor a.kind).join ⟨file⟩) :
    plan.InPlace a file := by
  refine ⟨hfile, hpath, ?_, fun hdir => ?_⟩
  · rw [hpath, Path.steps_join hfile hidle]
  · obtain ⟨c, hlast, hc⟩ := exists_getLast?_defaultDir a.kind
    rw [hpath, dirFor_eq_of_dir_eq_none hdir, Path.text_join_join hlast hc hfile]

theorem inPlace_artifact_iff (plan : Plan) (c : Catalogue) (s : Subject) :
    plan.InPlace (plan.artifact c s) (plan.fileNameOf s) ↔
      '/' ∉ (plan.fileNameOf s).toList := by
  refine ⟨fun h => h.no_slash, fun hfile => inPlace_of_path_eq hfile (isIdle_fileName ..) ?_⟩
  rw [kind_artifact, path_artifact]

/-- The file name of a subject is a path from the root, and this path names a file of the directory
of the kind. -/
structure LedBack (plan : Plan) (s : Subject) (file : String) : Prop where
  no_slash : '/' ∉ file.toList
  from_root : (plan.fileNameOf s).toList.head? = some '/'
  eq_text : plan.fileNameOf s = ((plan.dirFor s.kind).join ⟨file⟩).text

theorem getLast?_fileNameOf (plan : Plan) (s : Subject) :
    (plan.fileNameOf s).toList.getLast? = some 's' := by
  simp [fileNameOf, fileName, List.getLast?_append]

theorem LedBack.inPlace {s : Subject} {file : String} (h : plan.LedBack s file) (c : Catalogue) :
    plan.InPlace (plan.artifact c s) file := by
  have hlast := plan.getLast?_fileNameOf s
  rw [h.eq_text] at hlast
  apply inPlace_of_path_eq h.no_slash
    (Path.isIdle_of_getLast?_join h.no_slash hlast (by decide) (by decide))
  rw [kind_artifact, path_artifact, Path.join, if_pos h.from_root, h.eq_text]

/-- An artifact lies in place under its own file name, or where this name leads back. -/
theorem inPlace_artifact_iff_or (plan : Plan) (c : Catalogue) (s : Subject) (file : String) :
    plan.InPlace (plan.artifact c s) file ↔
      (file = plan.fileNameOf s ∧ '/' ∉ (plan.fileNameOf s).toList) ∨ plan.LedBack s file := by
  constructor
  · intro h
    have hpath := h.path_eq
    rw [kind_artifact, path_artifact] at hpath
    by_cases hroot : (plan.fileNameOf s).toList.head? = some '/'
    · right
      refine ⟨h.no_slash, hroot, ?_⟩
      rw [← hpath, Path.join, if_pos hroot]
    · left
      obtain rfl := Path.eq_of_join_eq hroot h.no_slash hpath
      exact ⟨rfl, h.no_slash⟩
  · rintro (⟨rfl, hfile⟩ | h)
    · exact (plan.inPlace_artifact_iff c s).2 hfile
    · exact h.inPlace c

example : Plan.LedBack { Plan.default with outputDir := ⟨"/g"⟩ } (.record "/g/dto/users" .dto)
    "usersDto.ts" :=
  ⟨by decide, by decide, by decide⟩

end Plan

end Artifact

namespace Schema.Block

variable {text : String} {b : Block}

/-- The record of a block goes by an alias with a separator in it. -/
structure HasSlashedAlias (b : Block) : Prop where
  slash_mem : '/' ∈ (b.recordName true).toList
  opens : ∃ line ∈ b.trimmedLines, OpensAlias tableAliasOpening (b.recordName true).toList line

/-- Declared names are words. -/
theorem slash_not_mem_recordName_false (hb : b ∈ blocks text) :
    '/' ∉ (b.recordName false).toList := by
  have hword : Unicode.isWord '/' = false := by decide
  intro hmem
  rw [isWord_of_mem_name hb '/' hmem] at hword
  cases hword

theorem slash_mem_recordName_iff (hb : b ∈ blocks text) {mapping : Bool} :
    '/' ∈ (b.recordName mapping).toList ↔ mapping = true ∧ b.HasSlashedAlias := by
  constructor
  · intro hmem
    cases mapping with
    | false => exact absurd hmem (slash_not_mem_recordName_false hb)
    | true =>
        refine ⟨rfl, hmem, exists_opensAlias_of_ne fun heq => ?_⟩
        exact slash_not_mem_recordName_false hb (heq ▸ hmem)
  · rintro ⟨rfl, halias⟩
    exact halias.slash_mem

end Schema.Block

namespace Artifact.Plan

open Schema (Catalogue blocks)

section Read

variable {text filename : String} {mapping : Bool} {c : Catalogue} {plan : Plan}

/-- A file name has a separator in it exactly if an alias with one names the record. -/
theorem slash_mem_fileNameOf_iff_alias (hread : Schema.read text filename mapping = .ok c)
    (hfree : plan.SlashFree) {s : Subject} (hs : s ∈ Subject.all c.names) :
    '/' ∈ (plan.fileNameOf s).toList ↔
      mapping = true ∧
        ∃ b ∈ blocks text, s.name? = some (b.recordName true) ∧ b.HasSlashedAlias := by
  rw [hfree.slash_mem_fileNameOf_iff]
  constructor
  · rintro ⟨name, hname, hslash⟩
    have hmem := Subject.mem_of_name? hs hname
    rw [Schema.names_of_read hread, List.mem_map] at hmem
    obtain ⟨b, hb, rfl⟩ := hmem
    obtain ⟨rfl, halias⟩ := (Schema.Block.slash_mem_recordName_iff hb).1 hslash
    exact ⟨rfl, b, hb, hname, halias⟩
  · rintro ⟨-, b, -, hname, halias⟩
    exact ⟨_, hname, halias.slash_mem⟩

/-- Every artifact goes to the directory of its kind joined with its file name. It lies in this
directory under this name exactly if the record is not given an alias with a separator in it. Under
another name it lies there only if the alias makes the file name a path that leads back there. -/
theorem inPlace_iff_no_slashed_alias (hread : Schema.read text filename mapping = .ok c)
    (hfree : plan.SlashFree) :
    plan.render c = (Subject.all c.names).map (plan.artifact c) ∧
    ∀ s ∈ Subject.all c.names,
      let slashed := mapping = true ∧
        ∃ b ∈ blocks text, s.name? = some (b.recordName true) ∧ b.HasSlashedAlias
      (plan.artifact c s).path =
        (plan.dirFor (plan.artifact c s).kind).join ⟨plan.fileNameOf s⟩ ∧
      (plan.InPlace (plan.artifact c s) (plan.fileNameOf s) ↔ ¬slashed) ∧
      ∀ file, plan.InPlace (plan.artifact c s) file ↔
        (file = plan.fileNameOf s ∧ ¬slashed) ∨ (slashed ∧ plan.LedBack s file) := by
  refine ⟨plan.render_eq_map c, fun s hs => ?_⟩
  have hslash := slash_mem_fileNameOf_iff_alias hread hfree hs
  refine ⟨?_, ?_, fun file => ?_⟩
  · rw [kind_artifact, path_artifact]
  · rw [inPlace_artifact_iff, hslash]
  · have hback : plan.LedBack s file → '/' ∈ (plan.fileNameOf s).toList := fun h =>
      List.mem_of_head? h.from_root
    rw [inPlace_artifact_iff_or, ← hslash, and_iff_right_of_imp hback]

end Read

/-- A schema whose record goes by an alias that starts with a separator. -/
def slashedSchema : String := "model User \x7b\n  id Int\n  @@map(\"/users\")\n\x7d"

def slashedBlock : Schema.Block :=
  ⟨"User", "\n  id Int\n  @@map(\"/users\")\n", ⟨0, 1⟩, ⟨12, 1⟩⟩

/-- The default plan, with aliases in force. -/
def aliasingPlan : Plan := { Plan.default with useMapping := true }

theorem read_slashedSchema : Schema.read slashedSchema "schema" aliasingPlan.useMapping =
    .ok ⟨["/users"], [("/users", [⟨"id", "Int"⟩])], []⟩ := by decide +kernel

theorem slashFree_aliasingPlan : aliasingPlan.SlashFree :=
  ⟨fun kind => by cases kind <;> decide, fun kind => by cases kind <;> decide⟩

theorem hasSlashedAlias_slashedBlock : slashedBlock.HasSlashedAlias :=
  ⟨by decide +kernel, "@@map(\"/users\")".toList, by decide +kernel,
    Schema.opensAlias_iff.2 (by decide +kernel)⟩

/-- The registry lies in place, and the shape of the record does not. -/
theorem inPlace_iff_no_slashed_alias_users :
    ∃ c, Schema.read slashedSchema "schema" aliasingPlan.useMapping = .ok c ∧
      aliasingPlan.SlashFree ∧
      aliasingPlan.InPlace (aliasingPlan.artifact c .registry) "Tables.ts" ∧
      ¬aliasingPlan.InPlace (aliasingPlan.artifact c (.record "/users" .dto)) "/usersDto.ts" := by
  obtain ⟨-, h⟩ := inPlace_iff_no_slashed_alias read_slashedSchema slashFree_aliasingPlan
  refine ⟨_, read_slashedSchema, slashFree_aliasingPlan, ?_, ?_⟩
  · refine (h .registry (by decide)).2.1.2 ?_
    rintro ⟨-, b, -, hname, -⟩
    cases hname
  · refine mt (h (.record "/users" .dto) (by decide)).2.1.1 (not_not_intro ⟨rfl, slashedBlock, ?_⟩)
    exact ⟨by decide +kernel, by decide +kernel, hasSlashedAlias_slashedBlock⟩

/-- An alias can lead an artifact out of the directory of its kind. -/
theorem alias_leaves_dir :
    ¬∀ (text filename : String) (c : Catalogue) (plan : Plan),
      Schema.read text filename plan.useMapping = .ok c → plan.SlashFree →
        ∀ a ∈ plan.render c, ∃ file : String, '/' ∉ file.toList ∧
          a.path = (plan.dirFor a.kind).join ⟨file⟩ := by
  intro hall
  have hmem : (⟨.dto, ⟨"/usersDto.ts"⟩, aliasingPlan.recordContent .dto
      (aliasingPlan.recordNames .dto "/users") [⟨"id", "Int"⟩]⟩ : Artifact) ∈
      aliasingPlan.render ⟨["/users"], [("/users", [⟨"id", "Int"⟩])], []⟩ := by decide +kernel
  obtain ⟨file, hfile, hpath⟩ := hall slashedSchema "schema" _ aliasingPlan
    read_slashedSchema slashFree_aliasingPlan _ hmem
  have hdir : aliasingPlan.dirFor .dto = ⟨"./generated/dto"⟩ := by decide +kernel
  -- A path in the directory starts as the directory does, with a dot.
  have hhead := congrArg (fun p : Path => p.text.toList.head?) hpath
  rw [hdir, Path.join_eq_of_not_mem hfile, if_neg (by decide)] at hhead
  simp at hhead

end Artifact.Plan

end SchemaScribe
