-- Runs that have been prepared. What a compilation has kept in memory is exported to a scratch
-- directory before the executor is called, and nothing else changes; or something is in the way,
-- and then the executor is never called.
import Worksheet.Proofs.EvaluationFootprint

namespace Worksheet

open Text (Bytes Octets Points)

variable {σ : Type}

/-! ## Before and after the executor -/

namespace Evaluator

/-- What the executor is asked for after a compilation, and in which state. What has been kept in
memory is in a scratch directory by then. -/
inductive Prepares (e : Evaluator σ) (r : Request) (report : Report) (s : σ) :
    Option Place → RunRequest → σ → Prop
  | inPlace {classpath : List String} :
    runClasspath e.config (e.getDisk s) r.classpath = .ok classpath → report.output = none →
    Prepares e r report s none (e.runRequest r classpath) s
  | exported {classpath : List String} {artifacts : Artifacts} {scratch : Place} {d d' : Disk} :
    runClasspath e.config (e.getDisk s) r.classpath = .ok classpath →
    report.output = some artifacts →
    Disk.openScratch label (e.getDisk s) = (.ok scratch, d) →
    artifacts.exportTo scratch.path (e.getDisk (e.setDisk d s)) = (.ok (), d') →
    Prepares e r report s (some scratch) (e.runRequest r (scratch.path.text :: classpath))
      (e.setDisk d' (e.setDisk d s))

/-- What is in the way of a run: a character of code zero in the output directory, or a scratch
directory that cannot be made or filled. -/
inductive Hindered (e : Evaluator σ) (report : Report) (s : σ) : Prop
  | unusable {directory : String} : e.config.outputDirectory = some directory →
    (Path.ofString directory).way.hasNul = true → Hindered e report s
  | notOpened {artifacts : Artifacts} {fault : Fault} {d : Disk} :
    report.output = some artifacts →
    Disk.openScratch label (e.getDisk s) = (.error fault, d) → Hindered e report s
  | notExported {artifacts : Artifacts} {scratch : Place} {fault : ArtifactFault} {d d' : Disk} :
    report.output = some artifacts →
    Disk.openScratch label (e.getDisk s) = (.ok scratch, d) →
    artifacts.exportTo scratch.path (e.getDisk (e.setDisk d s)) = (.error fault, d') →
    Hindered e report s

/-- What follows the executor: its scratch directory is taken away. -/
def cleared (e : Evaluator σ) (scratch : Option Place) (ended : Except Fault RunResult × σ) :
    Except Fault RunResult × σ :=
  match scratch with
  | none => ended
  | some place =>
    let cleared := Disk.removeScratch place (e.getDisk ended.2)
    (cleared.1.bind fun _ => ended.1, e.setDisk cleared.2 ended.2)

end Evaluator

/-- The links of a path lead round in a circle. -/
def Disk.LeadsRound (d : Disk) (path : Path) : Prop :=
  d.isLoop (d.resolvePlace path.way.octets) = true

/-- The files of a disk are those of the one before it, but for those in a new scratch directory. -/
def Disk.KeepsFiles (d d' : Disk) : Prop :=
  ∀ p n, n.isDirectory = false →
    (d.node? p = some n → d'.node? p = some n) ∧
    (d'.node? p = some n → d.node? p = some n ∨
      ∃ name, d.node? (d.scratch ++ [name]) = none ∧ d.scratch ++ [name] <+: p)

namespace Stages

/-- What an evaluation comes to with the end of its last stage. -/
def told : Except Fault RunResult → Outcome
  | .ok result => .success result.output result.exitCode
  | .error fault => conclude (executeFault fault)

end Stages

namespace Disk

theorem exists_resolve {d : Disk} {path : Path} (hnul : ¬path.way.hasNul = true)
    (hround : ¬d.LeadsRound path) : ∃ found, d.resolve path = .ok found := by
  unfold resolve
  rw [guardPath_text, if_neg hnul]
  exact ⟨_, if_neg hround⟩

end Disk

namespace Evaluator

variable {e : Evaluator σ} {r : Request} {report : Report} {s s' : σ} {scratch : Option Place}
  {request : RunRequest}

/-! ## Runs of the evaluator -/

end Evaluator

/-! ## Files of a run -/

namespace Disk

variable {d d' d'' : Disk} {scratch : Place}

theorem KeepsFiles.refl (d : Disk) : d.KeepsFiles d := fun _ _ _ => ⟨id, Or.inl⟩

end Disk

namespace Evaluator

variable {e : Evaluator σ} {r : Request} {report : Report} {s s' : σ} {scratch : Option Place}
  {request : RunRequest}

end Evaluator

/-! ## Reports -/

namespace Javac

end Javac

end Worksheet
