import SchemaScribe.Artifact.Render

/-!
# Delivering artifacts

Artifacts are handed to a sink one after the other. A sink may refuse one, with a chain of reasons;
the rest is still handed over. What was written and what failed is read off the list of deliveries.
-/
namespace SchemaScribe

/-- Why a write was refused: a message and its causes, from the outermost to the innermost. -/
structure WriteError where
  message : String
  causes : List String
  deriving DecidableEq, Repr

/-- The innermost reason. -/
def WriteError.root (e : WriteError) : String := e.causes.getLast?.getD e.message

/-- A destination for files, in a monad that carries its state. -/
abbrev Sink (m : Type → Type) := Path → String → m (Except WriteError Unit)

/-- An artifact and the answer of the sink. -/
structure Delivery where
  artifact : Artifact
  answer : Except WriteError Unit

/-- A write that did not happen. -/
structure WriteFailure where
  path : Path
  message : String
  deriving DecidableEq, Repr

def WriteFailure.display (f : WriteFailure) : String :=
  "failed to write '" ++ f.path.text ++ "': " ++ f.message

/-- Hands every artifact to the sink, in order. -/
def deliver {m : Type → Type} [Monad m] (sink : Sink m) : List Artifact → m (List Delivery)
  | [] => pure []
  | a :: rest => do
      let answer ← sink a.path a.content
      let deliveries ← deliver sink rest
      pure (⟨a, answer⟩ :: deliveries)

namespace Delivery

def written? (d : Delivery) : Option Path :=
  match d.answer with
  | .ok _ => some d.artifact.path
  | .error _ => none

def failure? (d : Delivery) : Option WriteFailure :=
  match d.answer with
  | .ok _ => none
  | .error e => some ⟨d.artifact.path, e.root⟩

end Delivery

/-- The paths of the accepted artifacts, in order. -/
def writtenPaths (ds : List Delivery) : List Path := ds.filterMap (·.written?)

/-- The refused artifacts, in order. -/
def writeFailures (ds : List Delivery) : List WriteFailure := ds.filterMap (·.failure?)

/-- Whether every artifact was accepted. -/
def allWritten (ds : List Delivery) : Bool := (writeFailures ds).isEmpty

/-- Every delivery was accepted or refused. -/
theorem length_writtenPaths_add (ds : List Delivery) :
    (writtenPaths ds).length + (writeFailures ds).length = ds.length := by
  induction ds with
  | nil => rfl
  | cons d ds ih =>
      simp only [writtenPaths, writeFailures] at ih
      cases h : d.answer with
      | ok u =>
          have hw : d.written? = some d.artifact.path := by simp [Delivery.written?, h]
          have hf : d.failure? = none := by simp [Delivery.failure?, h]
          simp only [writtenPaths, writeFailures, List.filterMap_cons, hw, hf, List.length_cons]
          omega
      | error e =>
          have hw : d.written? = none := by simp [Delivery.written?, h]
          have hf : d.failure? = some ⟨d.artifact.path, e.root⟩ := by simp [Delivery.failure?, h]
          simp only [writtenPaths, writeFailures, List.filterMap_cons, hw, hf, List.length_cons]
          omega

/-- A sink that keeps the accepted files in memory, in the order of the writes. -/
def memorySink (refuse : Path → Option WriteError) : Sink (StateM (List (Path × String))) :=
  fun path content files =>
    match refuse path with
    | some e => (.error e, files)
    | none => (.ok (), files ++ [(path, content)])

end SchemaScribe
