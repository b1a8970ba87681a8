-- How the program answers a command line. Whatever there is to read, each command ends with one of
-- three statuses: a fault has a class that the command answers for. What went wrong is told on the
-- error stream, but a run that is asked for JSON tells it with its other output.
import Worksheet.Proofs.TwoCommands

namespace Worksheet

open Text (Points)

variable {σ : Type}

/-! ## Texts of files -/

/-- A text file with a name of the system. If it can be read at all, it is UTF-8. -/
structure Disk.Legible (d : Disk) (file : String) : Prop where
  named : ¬(Path.ofString file).way.hasNul = true
  decodes : ∀ content modified,
    d.readFile (Path.ofString file).way.octets = .ok (content, modified) →
    ∃ cs, Text.Utf8.decode content = .ok cs

theorem Disk.Legible.readText {d : Disk} {file : String} (h : d.Legible file) :
    (∃ text, (readText (.ofString file) d).1 = .ok text) ∨
    ∃ fault, (readText (.ofString file) d).1 = .error (.system fault) := by
  unfold Disk.readText readBytes
  rw [guardPath_text, if_neg h.named]
  dsimp only
  cases hfile : d.readFile (Path.ofString file).way.octets with
  | error e => exact Or.inr ⟨_, rfl⟩
  | ok found =>
    obtain ⟨content, modified⟩ := found
    obtain ⟨cs, hcs⟩ := h.decodes content modified hfile
    dsimp only
    rw [hcs]
    exact Or.inl ⟨_, rfl⟩

namespace Cli

/-! ## Endings -/

/-- The outcome of a program that did not run. -/
def IsFailure (outcome : Outcome) : Prop := ∀ output exitCode, outcome ≠ .success output exitCode

namespace Ending

end Ending

variable {o : Overrides} {d : Disk} {fault : Fault}

namespace Workbench

variable {b : Workbench σ} {c : Config} {a : Arguments} {source : SourceArguments}
  {cwd : Option String} {s : σ}

/-- What there is to read in a source. -/
def reading (b : Workbench σ) (source : SourceArguments) (s : σ) : Except Fault String :=
  (Disk.readText (.ofString source.source) (b.tools.getDisk s)).1

/-- What becomes of a source that a compilation has read: it is written as its entry point wants
it, and given to the compiler. -/
inductive Written (b : Workbench σ) (c : Config) (source : SourceArguments) (s : σ) :
    Except Fault Materialized → σ → Prop
  | intro {entry text : String} {result : Except Fault Materialized} {d : Disk} :
    source.entry = some entry → b.reading source s = .ok text →
    (b.evaluator c).materializer.materialize entry (.ofString text) (b.tools.getDisk s) =
      (result, d) → Written b c source s result (b.tools.setDisk d s)

/-- What the compiler answers to a source that has been written. -/
inductive Called (b : Workbench σ) (c : Config) (source : SourceArguments) (s : σ) (path : Path) :
    Except Fault Report → Prop
  | intro {entry : String} {written : Materialized} {s₁ : σ} {result : Except Fault Report} :
    source.entry = some entry → b.Written c source s (.ok written) s₁ → written.path = path →
    ((b.tools.select c).compile c path ((b.tools.select c).entryArguments entry)
      source.classpath s₁).1 = result → Called b c source s path result

/-- A source with an entry point that is given in words, whose file has a name of the system, and
on which the compiler reports or says why it cannot. -/
structure Compilable (b : Workbench σ) (c : Config) (source : SourceArguments) (s : σ) : Prop where
  legible : (b.tools.getDisk s).Legible source.source
  worded : ∃ entry, source.entry = some entry
  named : ∀ entry path, source.entry = some entry →
    (b.evaluator c).materializer.sourcePath (b.tools.getDisk s).currentPath entry = .ok path →
    ¬path.way.hasNul = true
  answered : ∀ path fault, b.Called c source s path (.error fault) →
    ∃ cause, fault = .invocation cause

/-- The only fault in the way of a written source is one that is told. -/
theorem Compilable.unwritten (h : b.Compilable c source s) {s₁ : σ}
    (hwritten : b.Written c source s (.error fault) s₁) :
    ∃ cause, fault = .materialization cause := by
  cases hwritten with
  | intro hentry hread hwrite =>
    rcases Materializer.fault_of_materialize hwrite with hcause | ⟨-, path, hpath, hnul⟩
    · exact hcause
    · exact absurd hnul (h.named _ path hentry hpath)

end Workbench

end Cli

end Worksheet
