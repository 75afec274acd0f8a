import SchemaScribe.Proofs.StoredArtifacts

/-!
# Sinks as state machines

A sink answers each write from a state of its own, so its answer may depend on everything it was
handed before. Whatever it answers, it is handed every artifact once and in order, and the written
paths and the failures are the artifacts it accepted and those it refused.
-/
namespace SchemaScribe

/-- The path and the content of an artifact, as a sink gets them. -/
def Artifact.file (a : Artifact) : Path × String := (a.path, a.content)

/-- The messages of an error, from the outermost to the innermost. -/
def WriteError.chain (e : WriteError) : List String := e.message :: e.causes

theorem WriteError.getLast?_chain (e : WriteError) : e.chain.getLast? = some e.root := by
  rw [chain, List.getLast?_cons, root]

/-- Whether the sink took the artifact. -/
def Delivery.isAccepted (d : Delivery) : Bool := d.answer.isOk

@[simp] theorem Delivery.isAccepted_ok (a : Artifact) :
    (Delivery.mk a (.ok ())).isAccepted = true := rfl

@[simp] theorem Delivery.isAccepted_error (a : Artifact) (e : WriteError) :
    (Delivery.mk a (.error e)).isAccepted = false := rfl

/-- A failure names the path of a refused artifact and the innermost reason of the sink. -/
def WriteFailure.Reports (f : WriteFailure) (d : Delivery) : Prop :=
  f.path = d.artifact.path ∧ ∃ e, d.answer = .error e ∧ e.chain.getLast? = some f.message

namespace Sink

variable {σ : Type}

/-- The sink with a record of all that it is handed. -/
def recording (sink : Sink (StateM σ)) : Sink (StateM (σ × List (Path × String))) :=
  fun path content state =>
    let (answer, s) := (sink path content).run state.1
    (answer, s, state.2 ++ [(path, content)])

/-- The state of a sink after some writes. -/
def stateAfter (sink : Sink (StateM σ)) (s : σ) (writes : List (Path × String)) : σ :=
  writes.foldl (fun s write => ((sink write.1 write.2).run s).2) s

/-- The answers of a sink to some writes, each from the state that the writes before it left. -/
def answers (sink : Sink (StateM σ)) (s : σ) (writes : List (Path × String)) :
    List (Except WriteError Unit) :=
  writes.mapIdx fun i write =>
    ((sink write.1 write.2).run (sink.stateAfter s (writes.take i))).1

theorem answers_cons (sink : Sink (StateM σ)) (s : σ) (write : Path × String)
    (writes : List (Path × String)) :
    sink.answers s (write :: writes) =
      ((sink write.1 write.2).run s).1 ::
        sink.answers ((sink write.1 write.2).run s).2 writes := by
  rw [answers, List.mapIdx_cons]
  rfl

end Sink

section Deliver

variable {σ : Type} (sink : Sink (StateM σ))

theorem run_deliver_cons (s : σ) (a : Artifact) (as : List Artifact) :
    (deliver sink (a :: as)).run s =
      let first := (sink a.path a.content).run s
      let rest := (deliver sink as).run first.2
      (⟨a, first.1⟩ :: rest.1, rest.2) := rfl

/-- A delivery of some artifacts is a delivery of the first and one of the rest. -/
theorem run_deliver_cons_eq_iff {s s'' : σ} {a : Artifact} {as : List Artifact}
    {ds : List Delivery} :
    (deliver sink (a :: as)).run s = (ds, s'') ↔
      ∃ answer s' rest, (sink a.path a.content).run s = (answer, s') ∧
        (deliver sink as).run s' = (rest, s'') ∧ ds = ⟨a, answer⟩ :: rest := by
  rw [run_deliver_cons, Prod.mk.injEq]
  constructor
  · rintro ⟨rfl, rfl⟩
    exact ⟨_, _, _, rfl, rfl, rfl⟩
  · rintro ⟨answer, s', rest, hfirst, hrest, rfl⟩
    rw [hfirst, hrest]
    exact ⟨rfl, rfl⟩

theorem map_artifact_deliver (s : σ) (as : List Artifact) :
    ((deliver sink as).run s).1.map (·.artifact) = as := by
  induction as generalizing s with
  | nil => rfl
  | cons a as ih => exact congrArg (a :: ·) (ih _)

theorem map_answer_deliver (s : σ) (as : List Artifact) :
    ((deliver sink as).run s).1.map (·.answer) = sink.answers s (as.map Artifact.file) := by
  induction as generalizing s with
  | nil => rfl
  | cons a as ih =>
      rw [run_deliver_cons, List.map_cons, ih, List.map_cons, Sink.answers_cons]
      rfl

/-- Recording does not change what a sink answers, and the record has every artifact in order. -/
theorem run_deliver_recording (s : σ) (log : List (Path × String)) (as : List Artifact) :
    (deliver sink.recording as).run (s, log) =
      (((deliver sink as).run s).1, ((deliver sink as).run s).2,
        log ++ as.map Artifact.file) := by
  induction as generalizing s log with
  | nil => exact congrArg (fun log' => ([], s, log')) (List.append_nil log).symm
  | cons a as ih =>
      have hfirst : (sink.recording a.path a.content).run (s, log) =
          (((sink a.path a.content).run s).1, ((sink a.path a.content).run s).2,
            log ++ [a.file]) := rfl
      simp only [run_deliver_cons, hfirst, ih, List.map_cons, List.append_assoc,
        List.singleton_append]

end Deliver

section Lists

variable (ds : List Delivery)

theorem writtenPaths_eq_filter :
    writtenPaths ds = (ds.filter (·.isAccepted)).map (·.artifact.path) := by
  induction ds with
  | nil => rfl
  | cons d ds ih =>
      obtain ⟨a, answer⟩ := d
      cases answer with
      | ok _ => exact congrArg (a.path :: ·) ih
      | error _ => exact ih

/-- The failures stand for the refused artifacts one by one. -/
theorem forall₂_writeFailures :
    List.Forall₂ WriteFailure.Reports (writeFailures ds) (ds.filter fun d => !d.isAccepted) := by
  induction ds with
  | nil => exact .nil
  | cons d ds ih =>
      obtain ⟨a, answer⟩ := d
      cases answer with
      | ok _ => exact ih
      | error e => exact .cons ⟨rfl, e, rfl, e.getLast?_chain⟩ ih

theorem allWritten_iff : allWritten ds = true ↔ ∀ d ∈ ds, d.isAccepted = true := by
  rw [allWritten, List.isEmpty_iff, ← List.length_eq_zero_iff,
    (forall₂_writeFailures ds).length_eq, List.length_eq_zero_iff, List.filter_eq_nil_iff]
  simp

end Lists

namespace Artifact.Plan

open Schema (Catalogue)

theorem length_render (plan : Plan) (c : Catalogue) :
    (plan.render c).length = 3 * c.names.length + 1 := by
  rw [render_eq_map, List.length_map, Subject.length_all]

/-- Every artifact is handed to the sink exactly once, in order, whatever the sink answers to it or
to others. The accepted artifacts are the written paths and the refused ones the failures, both in
the order of the artifacts, and nothing is missing from the two lists together. -/
theorem deliver_attempts_each_once {σ : Type} (plan : Plan) (c : Catalogue)
    (sink : Sink (StateM σ)) (s : σ) :
    let as := plan.render c
    let ds := ((deliver sink as).run s).1
    let answers := sink.answers s (as.map Artifact.file)
    ((deliver sink.recording as).run (s, [])).1 = ds ∧
    ((deliver sink.recording as).run (s, [])).2 =
      (((deliver sink as).run s).2, as.map Artifact.file) ∧
    ds.map (·.artifact) = as ∧ ds.map (·.answer) = answers ∧
    writtenPaths ds = (ds.filter (·.isAccepted)).map (·.artifact.path) ∧
    List.Forall₂ WriteFailure.Reports (writeFailures ds) (ds.filter fun d => !d.isAccepted) ∧
    (writtenPaths ds).length + (writeFailures ds).length = 3 * c.names.length + 1 ∧
    (allWritten ds = true ↔ ∀ answer ∈ answers, answer.isOk = true) := by
  intro as ds answers
  have hartifacts : ds.map (·.artifact) = as := map_artifact_deliver sink s as
  have hanswers : ds.map (·.answer) = answers := map_answer_deliver sink s as
  have hrecord := run_deliver_recording sink s [] as
  refine ⟨by rw [hrecord], by rw [hrecord, List.nil_append], hartifacts, hanswers,
    writtenPaths_eq_filter ds, forall₂_writeFailures ds, ?_, ?_⟩
  · rw [length_writtenPaths_add, ← length_render, ← List.length_map (·.artifact), hartifacts]
  · rw [allWritten_iff, ← hanswers]
    simp [Delivery.isAccepted]

end Artifact.Plan

end SchemaScribe
