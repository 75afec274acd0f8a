import SchemaScribe.Proofs.ChoiceReach
import SchemaScribe.Settings.Resolve

/-!
# The command line and the settings file as channels

Both channels set values under the same keys: a switch on the command line can only turn its key on.
Resolving looks at nothing but the value that is found first under each key, on the command line and
then in the file. So values may move from one channel to the other, and a value in the file that the
command line overrides is as good as absent.
-/
namespace SchemaScribe

/-- The kind that a section is named after. -/
def Artifact.Section.kind : Section → Kind
  | .fieldEnum => .fieldEnum
  | .dto => .dto
  | .entity => .entity

/-- A spelling is refused exactly if no style has it. -/
theorem NamingStyle.ofSpelling_eq_error_iff (s : String) (e : Invalid) :
    ofSpelling s = .error e ↔ (∀ known : NamingStyle, known.spelling ≠ s) ∧ e = ⟨s⟩ := by
  have hall : ∀ known : NamingStyle, known ∈ all := by
    rintro (_ | _) <;> simp [all]
  unfold ofSpelling
  cases hfind : all.find? (·.spelling == s) with
  | some style =>
      have hstyle : style.spelling = s := by simpa using List.find?_some hfind
      simp only [reduceCtorEq, false_iff, not_and]
      exact fun hknown => absurd hstyle (hknown style)
  | none =>
      have hnone : ∀ known : NamingStyle, known.spelling ≠ s := fun known => by
        simpa using List.find?_eq_none.1 hfind known (hall known)
      simp [hnone, eq_comm]

namespace Settings

open Artifact (KindOptions Plan Section)

/-- The keys under which settings are given. -/
inductive Key where
  | schema
  | output
  | useConst
  | useMapping
  | fileNaming
  | before (s : Section)
  | after (s : Section)
  | dir (s : Section)
  | asClass (s : Section)
  deriving DecidableEq, Repr

abbrev Key.Value : Key → Type
  | .schema | .output | .dir _ => Path
  | .useConst | .useMapping | .asClass _ => Bool
  | .fileNaming | .before _ | .after _ => String

/-- The value under each key, as far as there is one. -/
abbrev Given := (k : Key) → Option k.Value

def File.part (f : File) : Section → KindSection
  | .fieldEnum => f.fieldEnum
  | .dto => f.dto
  | .entity => f.entity

/-- What a file sets. -/
def File.given (f : File) : Given
  | .schema => f.schema
  | .output => f.output
  | .useConst => f.useConst
  | .useMapping => f.useMapping
  | .fileNaming => f.fileNaming
  | .before s => (f.part s).before
  | .after s => (f.part s).after
  | .dir s => (f.part s).dir
  | .asClass s => (f.part s).asClass

def Flags.part (flags : Flags) : Section → KindFlags
  | .fieldEnum => flags.fieldEnum
  | .dto => flags.dto
  | .entity => flags.entity

/-- What a switch sets: only one that is on sets anything. -/
def switched (on : Bool) : Option Bool := if on then some true else none

/-- What the command line sets. -/
def Flags.given (flags : Flags) : Given
  | .schema => flags.schema
  | .output => flags.output
  | .useConst => switched flags.useConst
  | .useMapping => switched flags.useMapping
  | .fileNaming => flags.fileNaming
  | .before s => (flags.part s).before
  | .after s => (flags.part s).after
  | .dir s => (flags.part s).dir
  | .asClass s => switched (flags.part s).asClass

theorem Flags.given_none (k : Key) : Flags.none.given k = Option.none := by
  cases k with
  | before s | after s | dir s | asClass s => cases s <;> rfl
  | _ => rfl

namespace Given

/-- The values of one channel before those of another. -/
def before (first second : Given) : Given := fun k => (first k).or (second k)

/-- A file that sets given values. -/
def file (given : Given) : File where
  schema := given .schema
  output := given .output
  useConst := given .useConst
  useMapping := given .useMapping
  fileNaming := given .fileNaming
  fieldEnum := part .fieldEnum
  dto := part .dto
  entity := part .entity
where
  part (s : Section) : KindSection :=
    ⟨given (.before s), given (.after s), given (.dir s), given (.asClass s)⟩

theorem given_file (given : Given) (k : Key) : given.file.given k = given k := by
  have hpart : ∀ s, given.file.part s = file.part given s := by
    rintro (_ | _ | _) <;> rfl
  cases k with
  | before s => exact congrArg KindSection.before (hpart s)
  | after s => exact congrArg KindSection.after (hpart s)
  | dir s => exact congrArg KindSection.dir (hpart s)
  | asClass s => exact congrArg KindSection.asClass (hpart s)
  | _ => rfl

/-- The options of a section. -/
def options (given : Given) (s : Section) : KindOptions :=
  let base := KindOptions.default s.kind
  { before := (given (.before s)).getD base.before
    after := (given (.after s)).getD base.after
    dir := given (.dir s)
    asClass := (given (.asClass s)).getD base.asClass }

/-- The settings that given values lead to. -/
def resolved (given : Given) (config : Path) : Except Error Resolved :=
  match given .schema with
  | none => .error (.missingSchema config)
  | some schema =>
      (resolveNaming (given .fileNaming)).map fun naming => {
        schema
        plan := {
          outputDir := (given .output).getD Plan.default.outputDir
          naming
          useConst := (given .useConst).getD Plan.default.useConst
          useMapping := (given .useMapping).getD Plan.default.useMapping
          fieldEnum := given.options .fieldEnum
          dto := given.options .dto
          entity := given.options .entity } }

end Given

theorem getD_switched_or (on : Bool) (value? : Option Bool) :
    ((switched on).or value?).getD false = (on || value?.getD false) := by
  cases on <;> rfl

theorem mergeKind_eq (flags : Flags) (file : File) (s : Section) :
    mergeKind s.kind (flags.part s) (file.part s) = (flags.given.before file.given).options s :=
  congrArg (KindOptions.mk _ _ _) (getD_switched_or _ _).symm

/-- Resolving looks at the first value under each key only. -/
theorem resolve_eq_resolved (flags : Flags) (file? : Option File) (config : Path) :
    resolve flags file? config =
      (flags.given.before (file?.getD .empty).given).resolved config := by
  generalize hfile : file?.getD .empty = file
  have hschema : flags.given.before file.given .schema = flags.schema.or file.schema := rfl
  have hnaming : flags.given.before file.given .fileNaming =
      flags.fileNaming.or file.fileNaming := rfl
  simp only [resolve, hfile, Given.resolved, hschema, hnaming]
  cases flags.schema.or file.schema with
  | none => rfl
  | some schema =>
      cases resolveNaming (flags.fileNaming.or file.fileNaming) with
      | error e => rfl
      | ok naming =>
          have hconst : (flags.given.before file.given .useConst).getD Plan.default.useConst =
              (flags.useConst || file.useConst.getD Plan.default.useConst) := getD_switched_or _ _
          have hmapping : (flags.given.before file.given .useMapping).getD Plan.default.useMapping =
              (flags.useMapping || file.useMapping.getD Plan.default.useMapping) :=
            getD_switched_or _ _
          simp only [Except.map, ← mergeKind_eq, hconst, hmapping]
          rfl

theorem resolveNaming_eq_error_iff {style? : Option String} {e : Error} :
    resolveNaming style? = .error e ↔
      ∃ style, style? = some style ∧ (∀ known : NamingStyle, known.spelling ≠ style) ∧
        e = .invalidNaming ⟨style⟩ := by
  cases style? with
  | none => simp [resolveNaming]
  | some style =>
      have hstep : resolveNaming (some style) = .error e ↔
          ∃ invalid, NamingStyle.ofSpelling style = .error invalid ∧
            e = .invalidNaming invalid := by
        cases hstyle : NamingStyle.ofSpelling style <;> simp [resolveNaming, hstyle, eq_comm]
      rw [hstep]
      constructor
      · rintro ⟨invalid, hinvalid, rfl⟩
        obtain ⟨hknown, rfl⟩ := (NamingStyle.ofSpelling_eq_error_iff style invalid).1 hinvalid
        exact ⟨style, rfl, hknown, rfl⟩
      · rintro ⟨_, hsome, hknown, rfl⟩
        obtain rfl := Option.some.inj hsome
        exact ⟨_, (NamingStyle.ofSpelling_eq_error_iff _ _).2 ⟨hknown, rfl⟩, rfl⟩

/-- A missing schema comes first; only then a spelling that names no style counts. -/
theorem Given.resolved_eq_error_iff {given : Given} {config : Path} {e : Error} :
    given.resolved config = .error e ↔
      given .schema = none ∧ e = .missingSchema config ∨
        given .schema ≠ none ∧ ∃ style, given .fileNaming = some style ∧
          (∀ known : NamingStyle, known.spelling ≠ style) ∧ e = .invalidNaming ⟨style⟩ := by
  unfold resolved
  cases given .schema with
  | none => simp [eq_comm]
  | some schema =>
      rw [← resolveNaming_eq_error_iff]
      cases resolveNaming (given .fileNaming) <;> simp [Except.map]

/-- The file with the values of the command line written over its own, each under its key. -/
def File.overwrittenBy (f : File) (flags : Flags) : File := (flags.given.before f.given).file

/-- The command line and the file are interchangeable. The settings are those that the first value
under each key leads to, and written over the file the values of the command line lead to the same
settings or the same error. What the file sets under a key that the command line sets too has no
influence. A missing schema is reported before a bad naming style. -/
theorem channels_interchangeable (flags : Flags) (file? : Option File) (config : Path) :
    let file := file?.getD .empty
    resolve flags file? config = (flags.given.before file.given).resolved config ∧
    resolve flags file? config = resolve .none (some (file.overwrittenBy flags)) config ∧
    (∀ other : File, (∀ k, flags.given k = none → other.given k = file.given k) →
      resolve flags (some other) config = resolve flags file? config) ∧
    ∀ e, resolve flags file? config = .error e ↔
      flags.schema.or file.schema = none ∧ e = .missingSchema config ∨
        flags.schema.or file.schema ≠ none ∧
          ∃ style, flags.fileNaming.or file.fileNaming = some style ∧
            (∀ known : NamingStyle, known.spelling ≠ style) ∧ e = .invalidNaming ⟨style⟩ := by
  intro file
  refine ⟨resolve_eq_resolved .., ?_, fun other hother => ?_, fun e => ?_⟩
  · have hgiven : Flags.none.given.before (file.overwrittenBy flags).given =
        flags.given.before file.given := by
      funext k
      rw [Given.before, Flags.given_none, Option.none_or, File.overwrittenBy, Given.given_file]
    rw [resolve_eq_resolved, resolve_eq_resolved, Option.getD_some, hgiven]
  · have hgiven : flags.given.before other.given = flags.given.before file.given := by
      funext k
      rw [Given.before, Given.before]
      cases hflag : flags.given k with
      | none => rw [hother k hflag]
      | some v => rfl
    rw [resolve_eq_resolved, resolve_eq_resolved, Option.getD_some, hgiven]
  · rw [resolve_eq_resolved]
    exact Given.resolved_eq_error_iff

/-- A bad naming style and other values in the file are overridden, and the switches of one section
do not reach another. -/
theorem channels_interchangeable_overridden :
    let flags : Flags := { Flags.none with
      schema := some ⟨"s"⟩
      fileNaming := some "kebab-case"
      dto := ⟨none, some "In", none, true⟩ }
    let file : File := { File.empty with
      schema := some ⟨"t"⟩
      output := some ⟨"out"⟩
      useConst := some true
      fileNaming := some "snake"
      dto := ⟨some "My", some "Out", some ⟨"d"⟩, some false⟩ }
    let settings : Resolved := ⟨⟨"s"⟩, { Plan.default with
      outputDir := ⟨"out"⟩
      naming := .kebabCase
      useConst := true
      dto := ⟨"My", "In", some ⟨"d"⟩, true⟩ }⟩
    resolve flags (some file) ⟨"c"⟩ = .ok settings ∧
    resolve .none (some (file.overwrittenBy flags)) ⟨"c"⟩ = .ok settings ∧
    resolve .none (some file) ⟨"c"⟩ = .error (.invalidNaming ⟨"snake"⟩) := by
  intro flags file settings
  obtain ⟨hvalue, hmoved, -, -⟩ := channels_interchangeable flags (some file) ⟨"c"⟩
  have hsettings : (flags.given.before file.given).resolved ⟨"c"⟩ = .ok settings := by rfl
  refine ⟨hvalue.trans hsettings, hmoved.symm.trans (hvalue.trans hsettings), ?_⟩
  obtain ⟨-, -, -, herror⟩ := channels_interchangeable .none (some file) ⟨"c"⟩
  refine (herror _).2 (Or.inr ⟨Option.some_ne_none _, "snake", rfl, ?_, rfl⟩)
  rintro (_ | _) <;> decide

end Settings

end SchemaScribe
