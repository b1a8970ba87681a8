-- The commands that compile. One stops there and the other goes on to a run, and each has the
-- stages and the answers to their faults for itself; up to the run they do and say the same.
import Mathlib.Data.List.TakeWhile
import Worksheet.Cli.Commands
import Worksheet.Proofs.PreparedRuns

namespace Worksheet

open Text (Bytes Octets Points)

variable {σ : Type}

/-! ## Sources -/

/-- A text of characters has an encoding. -/
theorem Text.Utf8.exists_encode (text : String) :
    ∃ content, encode (Points.ofString text) = .ok content := by
  have hplain : ∀ p ∈ Points.ofString text, (!p.isSurrogate) = true := by
    intro p hp
    obtain ⟨c, -, rfl⟩ := List.mem_map.mp hp
    rw [CodePoint.isSurrogate_ofChar]
    rfl
  unfold encode surrogateRun?
  rw [List.dropWhile_eq_nil_iff.mpr hplain]
  exact ⟨_, rfl⟩

theorem Disk.readText_snd (path : Path) (d : Disk) : (readText path d).2 = d := by
  unfold readText readBytes
  cases guardPath path.text with
  | error fault => rfl
  | ok =>
    dsimp only
    cases d.readFile path.way.octets with
    | error e => rfl
    | ok found =>
      dsimp only
      split <;> rfl

theorem Act.bind_apply {α β : Type} (first : Act σ α) (next : α → Act σ β) (s : σ) :
    (first >>= next) s = match first s with
      | (.ok a, s') => next a s'
      | (.error fault, s') => (.error fault, s') := by
  dsimp only [bind, ExceptT.bind, ExceptT.mk, StateT.bind]
  rcases first s with ⟨result, s'⟩
  cases result <;> rfl

theorem Disk.fault_of_writeBytes {path : Path} {content : Bytes} {d d' : Disk} {fault : Fault}
    (h : writeBytes path content d = (.error fault, d')) :
    (fault = .value .nulByte ∧ path.way.hasNul = true) ∨ ∃ e, fault = .system e := by
  unfold writeBytes at h
  rw [guardPath_text] at h
  by_cases hnul : path.way.hasNul = true
  · rw [if_pos hnul] at h
    cases h
    exact Or.inl ⟨rfl, hnul⟩
  · rw [if_neg hnul] at h
    dsimp only at h
    split at h
    · cases h
      exact Or.inr ⟨_, rfl⟩
    · split at h
      · cases h
      · cases h
        exact Or.inr ⟨_, rfl⟩

namespace Materializer

variable {m : Materializer} {current path : Path} {entryPoint : String} {d d' : Disk}

theorem fault_of_sourcePath {fault : Fault} (h : m.sourcePath current entryPoint = .error fault) :
    ∃ cause, fault = .materialization cause := by
  unfold sourcePath at h
  dsimp only at h
  split at h
  · cases h
    exact ⟨_, rfl⟩
  · cases h

theorem fault_of_materialize {source : Points} {fault : Fault}
    (h : m.materialize entryPoint source d = (.error fault, d')) :
    (∃ cause, fault = .materialization cause) ∨
    (fault = .value .nulByte ∧
      ∃ path, m.sourcePath d.currentPath entryPoint = .ok path ∧ path.way.hasNul = true) := by
  unfold materialize at h
  split at h
  · next hpath =>
    cases h
    exact Or.inl (fault_of_sourcePath hpath)
  next path hpath =>
  split at h
  · cases h
    exact Or.inl ⟨_, rfl⟩
  next content _ =>
  unfold writeSource at h
  rcases hwrite : Disk.writeBytes path content d with ⟨fault' | _, d₁⟩
  · rw [hwrite] at h
    rcases Disk.fault_of_writeBytes hwrite with ⟨rfl, hnul⟩ | ⟨e, rfl⟩ <;> cases h
    · exact Or.inr ⟨rfl, path, hpath, hnul⟩
    · exact Or.inl ⟨_, rfl⟩
  · rw [hwrite] at h
    cases h

/-- A path with a character of code zero is never written to. -/
theorem materialize_of_hasNul (hpath : m.sourcePath d.currentPath entryPoint = .ok path)
    (hnul : path.way.hasNul = true) (source : String) :
    (m.materialize entryPoint (.ofString source) d).1 = .error (.value .nulByte) := by
  obtain ⟨content, hcontent⟩ := Text.Utf8.exists_encode source
  unfold materialize writeSource Disk.writeBytes
  rw [hpath]
  dsimp only
  rw [hcontent]
  dsimp only
  rw [Disk.guardPath_text, if_pos hnul]

end Materializer

namespace Evaluator

variable {e : Evaluator σ} {r : Request} {s s₁ : σ} {fault : Fault}

theorem materialize_of_unwritten {d : Disk}
    (h : e.materializer.materialize r.entryPoint r.source (e.getDisk s) = (.error fault, d)) :
    e.materialize r s = (.error fault, e.setDisk d s) := by
  unfold materialize Act.run
  rw [h]

theorem unwritten_of_materialize (h : e.materialize r s = (.error fault, s₁)) :
    ∃ d, e.materializer.materialize r.entryPoint r.source (e.getDisk s) = (.error fault, d) := by
  unfold materialize Act.run at h
  split at h
  · cases (Prod.mk.inj h).1
  · next d hwrite =>
    obtain ⟨hfault, -⟩ := Prod.mk.inj h
    cases hfault
    exact ⟨d, hwrite⟩

end Evaluator

namespace Cli.Workbench

variable {b : Workbench σ} {c : Config} {a : SourceArguments} {cwd : Option String} {s : σ}
  {entry source : String} {directory : Path}

/-- The request of a run. -/
def requestOf (a : SourceArguments) (entry source : String) (directory : Path) : Request :=
  ⟨entry, .ofString source, a.classpath, directory⟩

/-- What the commands can be compared for: a source that can be read, a compiler that reports or
cannot be called, and no links that lead round. The disk of a state can be replaced. -/
structure Comparable (b : Workbench σ) (c : Config) (a : SourceArguments) (cwd : Option String)
    (entry source : String) (directory : Path) (s : σ) : Prop where
  get_set : ∀ d s, b.tools.getDisk (b.tools.setDisk d s) = d
  set_get : ∀ s, b.tools.setDisk (b.tools.getDisk s) s = s
  named : a.entry = some entry
  readable : (Disk.readText (.ofString a.source) (b.tools.getDisk s)).1 = .ok source
  placed : directoryOf (b.tools.getDisk s) cwd = .ok directory
  answered : ∀ fault, (b.report c a s).1 = .error fault →
    (∃ cause, fault = .materialization cause) ∨ ∃ cause, fault = .invocation cause
  sourceStraight : ∀ path, (b.evaluator c).materializer.sourcePath (b.tools.getDisk s).currentPath
    entry = .ok path → ¬(b.tools.getDisk s).LeadsRound path.parent
  outputStraight : ∀ output path report s₁, c.outputDirectory = some output →
    b.report c a s = (.ok (path, report), s₁) →
    ¬(b.tools.getDisk s₁).LeadsRound (.ofString output)

theorem getDisk_evaluator (b : Workbench σ) (c : Config) :
    (b.evaluator c).getDisk = b.tools.getDisk := rfl

theorem cancelled_evaluator (b : Workbench σ) (c : Config) (s : σ) :
    (b.evaluator c).cancelled s = false := rfl

/-- The stages before the executor, as the evaluator has them. -/
def compiledBy (b : Workbench σ) (c : Config) (r : Request) : Act σ (Path × Report) := fun s =>
  match (b.evaluator c).materialize r s with
  | (.error fault, s₁) => (.error fault, s₁)
  | (.ok path, s₁) =>
    match (b.evaluator c).compile r path s₁ with
    | (.error fault, s₂) => (.error fault, s₂)
    | (.ok report, s₂) => (.ok (path, report), s₂)

/-- The source is read, and then written as the evaluator does it. -/
theorem report_eq (hnamed : a.entry = some entry)
    (hread : (Disk.readText (.ofString a.source) (b.tools.getDisk s)).1 = .ok source)
    (directory : Path) :
    b.report c a s = b.compiledBy c (requestOf a entry source directory) s := by
  have hreading : Disk.readText (.ofString a.source) (b.tools.getDisk s) =
      (.ok source, b.tools.getDisk s) := Prod.ext hread (Disk.readText_snd ..)
  unfold report compiledBy Evaluator.materialize Evaluator.compile Evaluator.materializer evaluator
  unfold Act.within Act.run requestOf
  dsimp only
  rw [Act.bind_apply, hreading]
  dsimp only
  rw [Act.bind_apply, hnamed]
  dsimp only [entryOf, Act.ofExcept]
  rw [Act.bind_apply]
  rcases (Materializer.ofExtension (b.tools.select c).extension
    (c.sourceDirectory.map .ofString)).materialize entry (.ofString source) (b.tools.getDisk s)
    with ⟨fault | written, d⟩
  · rfl
  · rfl

theorem compiledBy_of_unwritten {fault : Fault} {d : Disk}
    (h : (b.evaluator c).materializer.materialize entry (.ofString source) (b.tools.getDisk s) =
      (.error fault, d)) :
    b.compiledBy c (requestOf a entry source directory) s =
      (.error fault, b.tools.setDisk d s) := by
  have hmaterialize : (b.evaluator c).materialize (requestOf a entry source directory) s =
      (.error fault, b.tools.setDisk d s) := Evaluator.materialize_of_unwritten h
  unfold compiledBy
  rw [hmaterialize]

theorem hasNul_of_parent {path : Path} (h : path.parent.way.hasNul = true) :
    path.way.hasNul = true := by
  obtain ⟨part, hpart, hnul⟩ := List.any_eq_true.mp h
  refine List.any_eq_true.mpr ⟨part, ?_, hnul⟩
  obtain ⟨text, htext, rfl⟩ := List.mem_map.mp hpart
  exact List.mem_map_of_mem (List.mem_of_mem_dropLast htext)

/-- The source has a lock, or there is no name for it and both commands say so. -/
theorem lockKey_cases (h : b.Comparable c a cwd entry source directory s) :
    (∃ key, (b.evaluator c).lockKey (requestOf a entry source directory) (b.tools.getDisk s) =
      .ok key) ∨
    ∃ cause, (b.evaluator c).lockKey (requestOf a entry source directory) (b.tools.getDisk s) =
        .error (.materialization cause) ∧
      b.report c a s = (.error (.materialization cause), s) := by
  have hreport := report_eq (c := c) h.named h.readable directory
  cases hpath : (b.evaluator c).materializer.sourcePath (b.tools.getDisk s).currentPath entry with
  | error fault =>
    obtain ⟨cause, rfl⟩ := Materializer.fault_of_sourcePath hpath
    refine Or.inr ⟨cause, ?_, ?_⟩
    · unfold Evaluator.lockKey requestOf
      rw [hpath]
      rfl
    · have hwrite : (b.evaluator c).materializer.materialize entry (.ofString source)
          (b.tools.getDisk s) = (.error (.materialization cause), b.tools.getDisk s) := by
        unfold Materializer.materialize
        rw [hpath]
      rw [hreport, compiledBy_of_unwritten hwrite, h.set_get]
  | ok path =>
    by_cases hnul : path.way.hasNul = true
    · rcases hwrite : (b.evaluator c).materializer.materialize entry (.ofString source)
        (b.tools.getDisk s) with ⟨written, d⟩
      have hfault := Materializer.materialize_of_hasNul hpath hnul source
      rw [hwrite] at hfault
      dsimp only at hfault
      subst hfault
      rw [compiledBy_of_unwritten hwrite] at hreport
      rcases h.answered _ (congrArg Prod.fst hreport) with ⟨cause, hcause⟩ | ⟨cause, hcause⟩
      · cases hcause
      · cases hcause
    · have hparent : ¬path.parent.way.hasNul = true := mt hasNul_of_parent hnul
      obtain ⟨found, hfound⟩ := Disk.exists_resolve hparent (h.sourceStraight path hpath)
      refine Or.inl ⟨⟨found.text, path.name⟩, ?_⟩
      unfold Evaluator.lockKey requestOf LockKey.ofSource
      rw [hpath]
      dsimp only [Except.bind]
      rw [hfound]
      rfl

/-- What an evaluation comes to, once the stages that both commands have are over. -/
def concluded (b : Workbench σ) (c : Config) (r : Request) :
    Except Fault (Path × Report) × σ → Outcome × σ
  | (.error fault, s₁) => (Stages.conclude (Stages.compileFault fault), s₁)
  | (.ok (_, report), s₁) =>
    if report.hasErrors then (.compileFailure report, s₁)
    else
      let ended := (b.evaluator c).execute r report s₁
      (Stages.told ended.1, ended.2)

theorem concluded_run {r : Request}
    (hunwritten : ∀ fault s₁, (b.evaluator c).materialize r s = (.error fault, s₁) →
      ∃ cause, fault = .materialization cause) :
    (Stages.conclude (((b.evaluator c).stages r).run s).1, (((b.evaluator c).stages r).run s).2) =
      b.concluded c r (b.compiledBy c r s) := by
  unfold Stages.run compiledBy concluded
  rw [Evaluator.stages_materialize]
  rcases hwrite : (b.evaluator c).materialize r s with ⟨fault | path, s₁⟩
  · obtain ⟨cause, rfl⟩ := hunwritten fault s₁ hwrite
    rfl
  · dsimp only
    unfold Stages.compileSource
    rw [Evaluator.stages_cancelled, cancelled_evaluator, if_neg Bool.false_ne_true,
      Evaluator.stages_compile]
    rcases (b.evaluator c).compile r path s₁ with ⟨fault | report, s₂⟩
    · rfl
    · dsimp only
      unfold Stages.runReport
      by_cases herrors : report.hasErrors = true
      · rw [if_pos herrors, if_pos herrors]
        rfl
      · rw [if_neg herrors, if_neg herrors, Evaluator.stages_cancelled, cancelled_evaluator,
          if_neg Bool.false_ne_true, Evaluator.stages_execute]
        rcases (b.evaluator c).execute r report s₂ with ⟨fault | result, s₃⟩ <;> rfl

theorem evaluate_of_key {r : Request} {key : LockKey}
    (h : (b.evaluator c).lockKey r (b.tools.getDisk s) = .ok key) :
    b.evaluate c r s = (Stages.conclude (((b.evaluator c).stages r).run s).1,
      (((b.evaluator c).stages r).run s).2) := by
  unfold evaluate Evaluator.evaluate
  rw [getDisk_evaluator, h, Stages.evaluate_ok]

theorem evaluate_of_no_key {r : Request} {fault : Fault}
    (h : (b.evaluator c).lockKey r (b.tools.getDisk s) = .error fault) :
    b.evaluate c r s = (Stages.conclude (.error fault), s) := by
  unfold evaluate Evaluator.evaluate
  rw [getDisk_evaluator, h, Stages.evaluate_error]

/-- A source that is not written is a fault that both commands answer for. -/
theorem Comparable.unwritten (h : b.Comparable c a cwd entry source directory s) {fault : Fault}
    {s₁ : σ} (hwrite : (b.evaluator c).materialize (requestOf a entry source directory) s =
      (.error fault, s₁)) : ∃ cause, fault = .materialization cause := by
  have hreport : b.report c a s = (.error fault, s₁) := by
    rw [report_eq h.named h.readable directory]
    unfold compiledBy
    rw [hwrite]
  obtain ⟨d, hwritten⟩ := Evaluator.unwritten_of_materialize hwrite
  rcases Materializer.fault_of_materialize hwritten with hcause | ⟨rfl, -⟩
  · exact hcause
  · rcases h.answered _ (congrArg Prod.fst hreport) with hcause | ⟨cause, hcause⟩
    · exact hcause
    · cases hcause

/-- What a run comes to, once the stages that both commands have are over. -/
theorem outcomeOf_eq (h : b.Comparable c a cwd entry source directory s) :
    b.outcomeOf c a directory source s =
      b.concluded c (requestOf a entry source directory) (b.report c a s) := by
  have hevaluate : b.outcomeOf c a directory source s =
      b.evaluate c (requestOf a entry source directory) s := by
    unfold outcomeOf
    rw [h.named]
    rfl
  rw [hevaluate]
  rcases lockKey_cases h with ⟨key, hkey⟩ | ⟨cause, hkey, hunnamed⟩
  · rw [evaluate_of_key hkey, report_eq h.named h.readable directory]
    exact concluded_run fun fault s₁ hwrite => h.unwritten hwrite
  · rw [evaluate_of_no_key hkey, hunnamed]
    rfl

/-! ## Agreement -/

/-- Work that asks the executor for one program in one state and for nothing else, and that the
answer matters to. -/
structure Calls {α : Type} (work : (String → Executor σ) → α) (encoding : String)
    (request : RunRequest) (s : σ) : Prop where
  only : ∀ x x', x encoding request s = x' encoding request s → work x = work x'
  shows : ∃ x x', work x ≠ work x'

/-- Work that no executor has a part in. -/
def Ignores {α : Type} (work : (String → Executor σ) → α) : Prop := ∀ x x', work x = work x'

/-- A run that goes on after the compiler: its executor is called, with all files as the compiler
has left them, or something is in the way of that. -/
inductive GoesOn (b : Workbench σ) (c : Config) (r : Request)
    (work : (String → Executor σ) → Except Fault Ending × σ) (report : Report) (s₁ : σ) :
    Outcome → σ → Prop
  | calling {scratch : Option Place} {request : RunRequest} {s' : σ} :
    (b.evaluator c).Prepares r report s₁ scratch request s' →
    Calls work c.outputEncoding request s' →
    ((b.tools.getDisk s₁).Ready → (b.tools.getDisk s₁).KeepsFiles (b.tools.getDisk s')) →
    GoesOn b c r work report s₁
      (Stages.told ((b.evaluator c).cleared scratch (b.execute c.outputEncoding request s')).1)
      ((b.evaluator c).cleared scratch (b.execute c.outputEncoding request s')).2
  | hindered {message : String} {s₂ : σ} :
    (b.evaluator c).Hindered report s₁ → Ignores work →
    ((b.tools.getDisk s₁).Ready → (b.tools.getDisk s₁).KeepsFiles (b.tools.getDisk s₂)) →
    GoesOn b c r work report s₁ (.executionFailure message .internal) s₂

theorem run_eq (h : b.Comparable c a cwd entry source directory s) {outcome : Outcome} {s₂ : σ}
    (hconcluded : b.concluded c (requestOf a entry source directory) (b.report c a s) =
      (outcome, s₂)) : b.run c a cwd false s = (.ok (.ofOutcome outcome), s₂) := by
  unfold run
  dsimp only
  rw [h.readable]
  dsimp only
  rw [h.placed]
  dsimp only
  rw [outcomeOf_eq h, hconcluded]
  rfl

/-- The code of a source is the source, and a program that is run says so and is counted. -/
def sampleBench : Workbench (Site Nat) where
  installation := ⟨"python3", "launcher"⟩
  tools := {
    generate := fun request s => (⟨[], .ok request.source⟩, s)
    runTool := fun _ _ s => (.timedOut, s)
    getDisk := Site.disk
    setDisk := fun d s => { s with disk := d } }
  execute _ _ s := (.ok ⟨.ofString "ran\n", 0⟩, { s with other := s.other + 1 })

def sampleSource : SourceArguments := ⟨"in.txt", some "m", []⟩

/-- A current directory with a source in it, beside one for scratch space. -/
def sampleSite : Site Nat :=
  ⟨{ root := .directory 493 0 [(['w'], .directory 493 0
        [(Octets.ofString "in.txt", .file (Text.Utf8.encodeString "x = 1\n") 420 0 0)]),
      (['t'], .directory 493 0 [])]
     current := [['w']]
     scratch := [['t']]
     scratchCount := 0
     groupCount := 0
     now := 0 }, 0⟩

end Cli.Workbench

end Worksheet
