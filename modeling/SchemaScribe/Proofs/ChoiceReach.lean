import SchemaScribe.Proofs.ArtifactPaths

/-!
# How far each choice reaches

An artifact takes its path from the directory, the naming style and the affixes that rule its kind,
and its content from the affixes and the form. Listing what each of the two reads settles how far a
choice of the plan reaches: plans that agree on what is read give the same path or the same content,
whatever else they choose. Two choices are read by no artifact; each of the others shows somewhere.
-/
namespace SchemaScribe.Artifact

open Schema (Catalogue)

/-- The kinds that have options of their own. -/
inductive Section where
  | fieldEnum
  | dto
  | entity
  deriving DecidableEq, Repr

/-- The section that rules a kind. -/
def Kind.ruler : Kind → Section
  | .fieldEnum | .tables => .fieldEnum
  | .dto => .dto
  | .entity => .entity

/-- One choice of a plan. -/
inductive Choice where
  | outputDir
  | naming
  | useConst
  | useMapping
  | before (s : Section)
  | after (s : Section)
  | dir (s : Section)
  | asClass (s : Section)
  deriving DecidableEq, Repr

namespace Choice

abbrev Value : Choice → Type
  | .outputDir => Path
  | .naming => NamingStyle
  | .useConst | .useMapping | .asClass _ => Bool
  | .before _ | .after _ => String
  | .dir _ => Option Path

def all : List Choice :=
  [.outputDir, .naming, .useConst, .useMapping] ++
    [Section.fieldEnum, .dto, .entity].flatMap fun s => [.before s, .after s, .dir s, .asClass s]

theorem mem_all (k : Choice) : k ∈ all := by
  cases k with
  | outputDir | naming | useConst | useMapping => decide
  | before s | after s | dir s | asClass s => cases s <;> decide

/-- The choices about where artifacts go. -/
def placement : List Choice := [.outputDir, .naming, .dir .fieldEnum, .dir .dto, .dir .entity]

/-- The choices about the form of artifacts. -/
def representation : List Choice :=
  [.useConst, .asClass .fieldEnum, .asClass .dto, .asClass .entity]

/-- The choices of a section. -/
def ofSection (s : Section) : List Choice := [.before s, .after s, .dir s, .asClass s]

/-- The choices that no artifact depends on. -/
def idle : List Choice := [.useMapping, .asClass .fieldEnum]

end Choice

/-- The choice that settles the form of a kind. -/
def Kind.formChoice : Kind → Choice
  | .fieldEnum | .tables => .useConst
  | .dto => .asClass .dto
  | .entity => .asClass .entity

namespace Subject

/-- The choices that the path of an artifact depends on. -/
def pathReads : Subject → List Choice
  | .record _ kind =>
      [.outputDir, .naming, .dir kind.ruler, .before kind.ruler, .after kind.ruler]
  | .registry => [.outputDir, .naming, .dir .fieldEnum, .before .fieldEnum]

/-- The choices that the content of an artifact depends on. -/
def contentReads : Subject → List Choice
  | .record _ kind => [kind.formChoice, .before kind.ruler, .after kind.ruler]
  | .registry => [.useConst, .before .fieldEnum]

theorem contentReads_disjoint_placement (s : Subject) :
    s.contentReads.Disjoint Choice.placement := by
  cases s with
  | record name kind => cases kind <;> simp [contentReads, Kind.formChoice, Choice.placement]
  | registry => simp [contentReads, Choice.placement]

theorem pathReads_disjoint_representation (s : Subject) :
    s.pathReads.Disjoint Choice.representation := by
  cases s <;> simp [pathReads, Choice.representation]

theorem reads_disjoint_idle (s : Subject) :
    s.pathReads.Disjoint Choice.idle ∧ s.contentReads.Disjoint Choice.idle := by
  cases s with
  | record name kind => cases kind <;> simp [pathReads, contentReads, Kind.formChoice, Choice.idle]
  | registry => simp [pathReads, contentReads, Choice.idle]

/-- An artifact reads no options of a section that does not rule it. -/
theorem reads_disjoint_ofSection {s : Subject} {other : Section} (h : s.kind.ruler ≠ other) :
    s.pathReads.Disjoint (Choice.ofSection other) ∧
      s.contentReads.Disjoint (Choice.ofSection other) := by
  cases s with
  | record name kind =>
      have hruler : other ≠ kind.ruler := Ne.symm h
      cases kind <;>
        simp_all [pathReads, contentReads, Kind.formChoice, Kind.ruler, Choice.ofSection]
  | registry =>
      have hruler : other ≠ Section.fieldEnum := Ne.symm h
      simp [pathReads, contentReads, Choice.ofSection, hruler]

end Subject

namespace Plan

variable {p q : Plan} {c : Catalogue}

def optionsOf (plan : Plan) : Section → KindOptions
  | .fieldEnum => plan.fieldEnum
  | .dto => plan.dto
  | .entity => plan.entity

theorem options_eq_optionsOf (plan : Plan) (kind : Kind) :
    plan.options kind = plan.optionsOf kind.ruler := by
  cases kind <;> rfl

/-- What a plan chooses. -/
def value (plan : Plan) : (k : Choice) → k.Value
  | .outputDir => plan.outputDir
  | .naming => plan.naming
  | .useConst => plan.useConst
  | .useMapping => plan.useMapping
  | .before s => (plan.optionsOf s).before
  | .after s => (plan.optionsOf s).after
  | .dir s => (plan.optionsOf s).dir
  | .asClass s => (plan.optionsOf s).asClass

/-- The plans make the same choices. -/
def AgreeOn (p q : Plan) (ks : List Choice) : Prop := ∀ k ∈ ks, p.value k = q.value k

/-- The plans make the same choices, those of a list apart. -/
def DifferOnlyIn (p q : Plan) (ks : List Choice) : Prop := ∀ k, k ∉ ks → p.value k = q.value k

theorem DifferOnlyIn.agreeOn {ks reads : List Choice} (h : p.DifferOnlyIn q ks)
    (hreads : reads.Disjoint ks) : p.AgreeOn q reads := fun k hk => h k (hreads hk)

theorem dirFor_congr (kind : Kind)
    (hdir : p.value (.dir kind.ruler) = q.value (.dir kind.ruler))
    (houtput : p.value .outputDir = q.value .outputDir) : p.dirFor kind = q.dirFor kind := by
  have hdir' : (p.options kind).dir = (q.options kind).dir := by
    rw [options_eq_optionsOf, options_eq_optionsOf]
    exact hdir
  have houtput' : p.outputDir = q.outputDir := houtput
  rw [dirFor, dirFor, hdir', houtput']

theorem before_congr (kind : Kind)
    (h : p.value (.before kind.ruler) = q.value (.before kind.ruler)) :
    (p.options kind).before = (q.options kind).before := by
  rw [options_eq_optionsOf, options_eq_optionsOf]
  exact h

theorem after_congr (kind : Kind) (h : p.value (.after kind.ruler) = q.value (.after kind.ruler)) :
    (p.options kind).after = (q.options kind).after := by
  rw [options_eq_optionsOf, options_eq_optionsOf]
  exact h

theorem form_congr (kind : Kind) (h : p.value kind.formChoice = q.value kind.formChoice) :
    p.form kind = q.form kind := by
  have hnominal : p.isNominal kind = q.isNominal kind := by
    cases kind with
    | fieldEnum => exact congrArg not h
    | dto => exact h
    | entity => exact h
    | tables => exact congrArg not h
  rw [form, form, hnominal]

/-- The path of an artifact depends only on what it reads. -/
theorem path_artifact_congr {s : Subject} (h : p.AgreeOn q s.pathReads) :
    (p.artifact c s).path = (q.artifact c s).path := by
  rw [path_artifact, path_artifact, fileNameOf, fileNameOf]
  cases s with
  | record name kind =>
      simp only [AgreeOn, Subject.pathReads, List.forall_mem_cons] at h
      obtain ⟨houtput, hnaming, hdir, hbefore, hafter, -⟩ := h
      have hnaming' : p.naming = q.naming := hnaming
      rw [Subject.kind, dirFor_congr kind hdir houtput, hnaming', stem, stem,
        before_congr kind hbefore, after_congr kind hafter]
  | registry =>
      simp only [AgreeOn, Subject.pathReads, List.forall_mem_cons] at h
      obtain ⟨houtput, hnaming, hdir, hbefore, -⟩ := h
      have hnaming' : p.naming = q.naming := hnaming
      rw [Subject.kind, dirFor_congr .tables hdir houtput, hnaming', stem, stem,
        before_congr .tables hbefore]

/-- The content of an artifact depends only on what it reads. -/
theorem content_artifact_congr {s : Subject} (h : p.AgreeOn q s.contentReads) :
    (p.artifact c s).content = (q.artifact c s).content := by
  cases s with
  | record name kind =>
      simp only [AgreeOn, Subject.contentReads, List.forall_mem_cons] at h
      obtain ⟨hform, hbefore, hafter, -⟩ := h
      simp only [artifact, recordArtifact, recordContent, recordNames, form_congr kind hform,
        before_congr kind hbefore, after_congr kind hafter]
  | registry =>
      simp only [AgreeOn, Subject.contentReads, List.forall_mem_cons] at h
      obtain ⟨hform, hbefore, -⟩ := h
      simp only [artifact, renderRegistry, registryNames, form_congr .tables hform,
        before_congr .tables hbefore]

theorem artifact_congr {s : Subject} (hpath : p.AgreeOn q s.pathReads)
    (hcontent : p.AgreeOn q s.contentReads) : p.artifact c s = q.artifact c s := by
  show Artifact.mk (p.artifact c s).kind (p.artifact c s).path (p.artifact c s).content =
    q.artifact c s
  rw [kind_artifact, path_artifact_congr hpath, content_artifact_congr hcontent,
    ← kind_artifact q c s]

/-- Artifacts that are compared position by position belong to the same subject. -/
theorem forall₂_render {R : Artifact → Artifact → Prop}
    (h : ∀ s, R (p.artifact c s) (q.artifact c s)) :
    List.Forall₂ R (p.render c) (q.render c) := by
  rw [render_eq_map, render_eq_map, List.forall₂_map_left_iff, List.forall₂_map_right_iff,
    List.forall₂_same]
  exact fun s _ => h s

/-- The plan that makes given choices. -/
def ofValues (choices : (k : Choice) → k.Value) : Plan where
  outputDir := choices .outputDir
  naming := choices .naming
  useConst := choices .useConst
  useMapping := choices .useMapping
  fieldEnum := optionsFrom choices .fieldEnum
  dto := optionsFrom choices .dto
  entity := optionsFrom choices .entity
where
  optionsFrom (choices : (k : Choice) → k.Value) (s : Section) : KindOptions :=
    ⟨choices (.before s), choices (.after s), choices (.dir s), choices (.asClass s)⟩

theorem value_ofValues (choices : (k : Choice) → k.Value) (k : Choice) :
    (ofValues choices).value k = choices k := by
  have hoptions : ∀ s, (ofValues choices).optionsOf s = ofValues.optionsFrom choices s := by
    rintro (_ | _ | _) <;> rfl
  cases k with
  | outputDir => rfl
  | naming => rfl
  | useConst => rfl
  | useMapping => rfl
  | before s => exact congrArg KindOptions.before (hoptions s)
  | after s => exact congrArg KindOptions.after (hoptions s)
  | dir s => exact congrArg KindOptions.dir (hoptions s)
  | asClass s => exact congrArg KindOptions.asClass (hoptions s)

/-- The plan with one choice made otherwise. -/
def choose (plan : Plan) (k : Choice) (v : k.Value) : Plan :=
  ofValues (Function.update plan.value k v)

theorem differOnlyIn_choose (plan : Plan) (k : Choice) (v : k.Value) :
    plan.DifferOnlyIn (plan.choose k v) [k] := by
  intro other hother
  rw [choose, value_ofValues, Function.update_of_ne (List.ne_of_not_mem_cons hother)]

/-- Another value than the default one. -/
def odd : (k : Choice) → k.Value
  | .outputDir => (⟨"."⟩ : Path)
  | .naming => NamingStyle.kebabCase
  | .useConst | .useMapping | .asClass _ => true
  | .before _ => "A"
  | .after _ => ""
  | .dir _ => some (⟨"."⟩ : Path)

/-- Every choice that is not idle shows in the artifacts of a small catalogue. -/
theorem render_choose_ne {k : Choice} (hk : k ∉ Choice.idle) :
    let c : Catalogue := ⟨["Ab"], [("Ab", [⟨"x", "Int"⟩])], []⟩
    Plan.default.render c ≠ (Plan.default.choose k (odd k)).render c := by
  intro c
  have hshown : ∀ k ∈ Choice.all, k ∉ Choice.idle →
      Plan.default.render c ≠ (Plan.default.choose k (odd k)).render c := by decide +kernel
  exact hshown k k.mem_all hk

/-- Each choice reaches its own artifacts only. Compared position by position, the artifacts of two
plans that differ in placement have the same kinds and contents, and those of two plans that differ
in representation the same kinds and paths. The options of a section can change only the artifacts
that it rules. The idle choices, and no others, change nothing. -/
theorem choices_reach_own_artifacts (p q : Plan) (c : Catalogue) :
    (p.DifferOnlyIn q Choice.placement →
      List.Forall₂ (fun a b => a.kind = b.kind ∧ a.content = b.content)
        (p.render c) (q.render c)) ∧
    (p.DifferOnlyIn q Choice.representation →
      List.Forall₂ (fun a b => a.kind = b.kind ∧ a.path = b.path) (p.render c) (q.render c)) ∧
    (∀ s, p.DifferOnlyIn q (Choice.ofSection s) →
      List.Forall₂ (fun a b => a.kind = b.kind ∧ (a ≠ b → a.kind.ruler = s))
        (p.render c) (q.render c)) ∧
    (p.DifferOnlyIn q Choice.idle → p.render c = q.render c) ∧
    ∀ k, k ∉ Choice.idle → ∃ (p q : Plan) (c : Catalogue),
      p.DifferOnlyIn q [k] ∧ p.render c ≠ q.render c := by
  have hkind : ∀ s, (p.artifact c s).kind = (q.artifact c s).kind := fun s => by
    rw [kind_artifact, kind_artifact]
  refine ⟨fun h => ?_, fun h => ?_, fun part h => ?_, fun h => ?_, fun k hk => ?_⟩
  · refine forall₂_render fun s => ⟨hkind s, ?_⟩
    exact content_artifact_congr (h.agreeOn s.contentReads_disjoint_placement)
  · refine forall₂_render fun s => ⟨hkind s, ?_⟩
    exact path_artifact_congr (h.agreeOn s.pathReads_disjoint_representation)
  · refine forall₂_render fun s => ⟨hkind s, fun hne => ?_⟩
    by_contra hruler
    rw [kind_artifact] at hruler
    obtain ⟨hpath, hcontent⟩ := Subject.reads_disjoint_ofSection hruler
    exact hne (artifact_congr (h.agreeOn hpath) (h.agreeOn hcontent))
  · have hreads := Subject.reads_disjoint_idle
    rw [← List.forall₂_eq_eq_eq]
    exact forall₂_render fun s =>
      artifact_congr (h.agreeOn (hreads s).1) (h.agreeOn (hreads s).2)
  · exact ⟨_, _, _, Plan.default.differOnlyIn_choose k (odd k), render_choose_ne hk⟩

end Plan

end SchemaScribe.Artifact
