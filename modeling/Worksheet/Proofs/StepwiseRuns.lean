-- Evaluations that are cut into actions do the same as evaluations in one go: when nobody else is
-- at work, the actions of each stage come to what the stage does.
import Worksheet.Evaluate.Stepwise

namespace Worksheet

open Text (Bytes Octets Points)

namespace Steps

variable {τ α : Type}

/-- Work that comes to one action on the disk. -/
def ComesTo {α : Type} (work : Steps τ α) (action : Disk → α × Disk) : Prop :=
  ∀ s : Site τ, work.run s = ((action s.disk).1, { s with disk := (action s.disk).2 })

/-! ## Files -/

@[simp]
theorem run_onDisk (action : Disk → α × Disk) (s : Site τ) :
    (onDisk action).run s = ((action s.disk).1, { s with disk := (action s.disk).2 }) := rfl

@[simp]
theorem run_look (f : Site τ → α) (s : Site τ) : (look f).run s = (f s, s) := rfl

theorem writeBytes_comesTo (path : Path) (content : Bytes) :
    ComesTo (writeBytes path content : Steps τ _) (Disk.writeBytes path content) := by
  intro s
  unfold writeBytes Disk.writeBytes
  cases Disk.guardPath path.text with
  | error e => rfl
  | ok =>
    simp only [openToWrite, Script.run_bind, run_onDisk]
    cases s.disk.openToWrite s.disk.current Mode.usualMask true path.way.octets with
    | error e => rfl
    | ok opened =>
      obtain ⟨place, d'⟩ := opened
      simp only [fill, Script.run_map, run_onDisk]
      cases d'.fill place content <;> rfl

/-! ## Directories -/

theorem makeDirectory_run_ok {way : Way} {s : Site τ} {d' : Disk}
    (h : s.disk.makeDirectory s.disk.current Mode.usualMask way.octets = .ok d') :
    (makeDirectory way).run s = (.ok (), { s with disk := d' }) := by
  simp only [makeDirectory, run_onDisk, h]

theorem makeDirectory_run_error {way : Way} {s : Site τ} {e : Errno}
    (h : s.disk.makeDirectory s.disk.current Mode.usualMask way.octets = .error e) :
    (makeDirectory way).run s = (.error e, s) := by
  simp only [makeDirectory, run_onDisk, h]

/-- After a failure to make the directory, what is there decides. -/
theorem acceptDirectory_run {way : Way} {s : Site τ} {e : Errno}
    (h : s.disk.makeDirectory s.disk.current Mode.usualMask way.octets = .error e) :
    (acceptDirectory way e).run s =
      ((s.disk.ensureDirectory way).1, { s with disk := (s.disk.ensureDirectory way).2 }) := by
  unfold acceptDirectory Disk.ensureDirectory
  simp only [run_look, h]
  cases s.disk.stat way.octets with
  | error e' => rfl
  | ok found =>
    obtain ⟨_, n⟩ := found
    cases hn : n.isDirectory <;> simp [hn]

theorem ensureDirectory_comesTo (way : Way) :
    ComesTo (ensureDirectory way : Steps τ _) fun d => d.ensureDirectory way := by
  intro s
  unfold ensureDirectory
  rw [Script.run_bind]
  cases hmake : s.disk.makeDirectory s.disk.current Mode.usualMask way.octets with
  | ok d' =>
    rw [makeDirectory_run_ok hmake]
    simp only [Disk.ensureDirectory, hmake, Script.run_done]
  | error e =>
    rw [makeDirectory_run_error hmake]
    exact acceptDirectory_run hmake

theorem makeDirectories_comesTo (anchor : Anchor) (room : Nat) (parts : List Octets) :
    ComesTo (makeDirectories anchor room parts : Steps τ _) fun d =>
      d.makeDirectories anchor room parts := by
  induction room generalizing parts with
  | zero => exact fun s => rfl
  | succ room ih =>
    cases parts with
    | nil => exact ensureDirectory_comesTo ⟨anchor, []⟩
    | cons c above =>
      intro s
      unfold makeDirectories Disk.makeDirectories
      rw [Script.run_bind]
      cases hmake : s.disk.makeDirectory s.disk.current Mode.usualMask
          (Way.mk anchor (c :: above).reverse).octets with
      | ok d' =>
        rw [makeDirectory_run_ok hmake]
        simp only [Disk.ensureDirectory, hmake, Script.run_done]
      | error e =>
        rw [makeDirectory_run_error hmake]
        by_cases hmissing : e = .noEntry
        · subst hmissing
          simp only [hmake]
          simp only [Script.run_bind, ih above s]
          cases s.disk.makeDirectories anchor room above with
          | mk r d' =>
            cases r with
            | error e => rfl
            | ok => exact ensureDirectory_comesTo _ _
        · simp only [hmake]
          cases e with
          | noEntry => exact absurd rfl hmissing
          | _ => exact acceptDirectory_run hmake

theorem makeWay_comesTo (way : Way) :
    ComesTo (makeWay way : Steps τ _) fun d => d.makeWay way :=
  makeDirectories_comesTo _ _ _

theorem ensurePath_comesTo (path : Path) :
    ComesTo (ensurePath path : Steps τ _) (Disk.ensurePath path) := by
  intro s
  unfold ensurePath Disk.ensurePath
  cases Disk.guardPath path.text with
  | error e => rfl
  | ok =>
    simp only [Script.run_bind, makeWay_comesTo path.way s]
    cases s.disk.makeWay path.way with
    | mk r d' =>
      cases r with
      | ok => rfl
      | error e => cases e <;> rfl

/-! ## Artifacts -/

theorem exportInto_comesTo (way : Way) (data : Bytes) :
    ComesTo (exportInto way data : Steps τ _) (Artifacts.exportInto way data) := by
  intro s
  unfold exportInto Artifacts.exportInto
  by_cases hnul : way.hasNul = true
  · rw [if_pos hnul, if_pos hnul, Script.run_done]
  · rw [if_neg hnul, if_neg hnul]
    simp only [openToWrite, Script.run_bind, run_onDisk]
    cases s.disk.openToWrite s.disk.current Mode.usualMask true way.octets with
    | error e => rfl
    | ok opened =>
      obtain ⟨place, d'⟩ := opened
      simp only [fill, Script.run_map, run_onDisk]
      cases d'.fill place data <;> rfl

theorem exportFile_comesTo (way : Way) (data : Bytes) :
    ComesTo (exportFile way data : Steps τ _) (Artifacts.exportFile way data) := by
  intro s
  unfold exportFile Artifacts.exportFile
  by_cases hnul : way.parent.hasNul = true
  · rw [if_pos hnul, if_pos hnul, Script.run_done]
  · rw [if_neg hnul, if_neg hnul]
    simp only [Script.run_bind, makeWay_comesTo way.parent s]
    cases s.disk.makeWay way.parent with
    | mk r d' =>
      cases r with
      | ok => exact exportInto_comesTo way data _
      | error e => cases e <;> rfl

theorem exportFiles_comesTo (root : Path) (files : List (Points × Bytes)) :
    ComesTo (exportFiles root files : Steps τ _) (Artifacts.exportFiles root files) := by
  induction files with
  | nil => exact fun s => rfl
  | cons file rest ih =>
    intro s
    obtain ⟨k, data⟩ := file
    unfold exportFiles Artifacts.exportFiles
    simp only [Script.run_bind, exportFile_comesTo (Artifacts.target root k) data s]
    cases Artifacts.exportFile (Artifacts.target root k) data s.disk with
    | mk r d' =>
      cases r with
      | error e => rfl
      | ok => exact ih _

end Steps

/-! ## Stages -/

namespace Assignment

open Steps

variable {τ : Type} (a : Assignment τ)

@[simp]
theorem getDisk_evaluator (s : Site τ) : a.evaluator.getDisk s = s.disk := rfl

@[simp]
theorem setDisk_evaluator (d : Disk) (s : Site τ) :
    a.evaluator.setDisk d s = { s with disk := d } := rfl

theorem materialize_run (s : Site τ) : a.materialize.run s = a.stages.materialize s := by
  simp only [materialize, Script.run_andThen, run_look, stages, Evaluator.stages,
    Evaluator.materialize, Act.run, Materializer.materialize, sourcePath, getDisk_evaluator]
  cases a.evaluator.materializer.sourcePath s.disk.currentPath a.request.entryPoint with
  | error e => rfl
  | ok path =>
    cases Text.Utf8.encode a.request.source with
    | error run => rfl
    | ok content =>
      simp only [Script.run_bind, writeBytes_comesTo path content s, Materializer.writeSource]
      cases Disk.writeBytes path content s.disk with
      | mk r d' =>
        cases r with
        | ok => rfl
        | error e => cases e <;> rfl

theorem readBytes_snd (path : Path) (d : Disk) : (Disk.readBytes path d).2 = d := by
  unfold Disk.readBytes
  split
  · rfl
  · split <;> rfl

theorem readSource_snd (path : Path) (d : Disk) : (Bytecode.readSource path d).2 = d := by
  have hread := readBytes_snd path d
  unfold Bytecode.readSource
  split
  · rename_i hfault
    rw [hfault] at hread
    exact hread
  · exact hread

/-- The second look at the source finds what the first one has found. -/
theorem readSource_run (path : Path) (s : Site τ) :
    (readSource path).run s = ((Bytecode.readSource path s.disk).1, s) := by
  have hsame := readSource_snd path s.disk
  unfold readSource
  cases hread : Bytecode.readSource path s.disk with
  | mk r d' =>
    rw [hread] at hsame
    simp only at hsame
    subst hsame
    cases r with
    | error e => simp only [Script.run_andThen, run_onDisk, hread]
    | ok found => simp only [Script.run_andThen, run_onDisk, hread, Script.run_done]

/-- The result of work without what has been emitted. -/
def bare (r : Except Fault (Report × Option Emission)) : Except Fault Report := r.map Prod.fst

theorem emitBelow_comesTo (directory : Path) (module : String) (data : Bytes) :
    ComesTo (emitBelow directory module data : Steps τ _)
      (Bytecode.emitBelow directory module data) := by
  intro s
  unfold emitBelow Bytecode.emitBelow
  generalize Bytecode.moduleFile directory module = target
  simp only [Script.run_andThen, Script.run_map, ensurePath_comesTo _ s]
  cases Disk.ensurePath target.parent s.disk with
  | mk r d' =>
    cases r with
    | error e => cases e <;> rfl
    | ok =>
      have hwrite := writeBytes_comesTo (τ := τ) target data { s with disk := d' }
      simp only [Bytecode.toldOf, hwrite]
      cases Disk.writeBytes target data d' with
      | mk r d'' => rfl

theorem emit_run (st : Settings) (report : Report) (data : Bytes) :
    ComesTo ((emit st report data).map bare : Steps τ _) (Bytecode.emit st report data) := by
  intro s
  unfold emit Bytecode.emit
  cases st.outputDirectory with
  | none =>
    simp only [Script.run_map, Script.run_done]
    cases Bytecode.emitInMemory st.module data <;> rfl
  | some directory =>
    simp only [Script.run_map, Script.run_andThen, emitBelow_comesTo directory st.module data s]
    cases Bytecode.emitBelow directory st.module data s.disk with
    | mk r d' => cases r <;> rfl

theorem finish_run (st : Settings) (source : Bytes) (modified : Int) (p : CodeProduct) :
    ComesTo ((finish st source modified p).map bare : Steps τ _)
      (Bytecode.finish st source modified p) := by
  intro s
  unfold finish Bytecode.finish
  cases Bytecode.conclude st p with
  | error e => rfl
  | ok concluded =>
    obtain ⟨diagnostics, code⟩ := concluded
    cases code with
    | none => rfl
    | some code =>
      simp only
      split
      · rfl
      · cases Bytecode.fileAt code source.length (Bytecode.secondsOf modified) with
        | error e => rfl
        | ok data => exact emit_run st _ data s

theorem compile_run (source : Path) (s : Site τ) :
    ((a.compile source).map bare).run s = a.stages.compile source s := by
  have hstage : a.stages.compile source s =
      Bytecode.run (fun request s =>
        ((a.generate request s.other).1, { s with other := (a.generate request s.other).2 }))
        Site.disk (fun d s => { s with disk := d }) (a.arguments source) s := rfl
  rw [hstage]
  unfold compile Bytecode.run
  cases Settings.ofArguments (a.arguments source) with
  | error e => rfl
  | ok st =>
    have hsame := readSource_snd st.source s.disk
    simp only [Script.run_map, Script.run_andThen, readSource_run, Act.within, Act.run]
    cases hread : Bytecode.readSource st.source s.disk with
    | mk r d' =>
      rw [hread] at hsame
      simp only at hsame
      subst hsame
      cases r with
      | error e => rfl
      | ok found =>
        obtain ⟨content, modified⟩ := found
        have hfinish := fun p s => finish_run (τ := τ) st content modified p s
        simp only [Script.run_map] at hfinish
        simp only [Script.run_bind, generateCode, Script.run_ask]
        exact hfinish _ _

theorem runProgram_run (classpath : List String) (emission : Option Emission) (s : Site τ) :
    (a.runProgram classpath emission).run s =
      (a.evaluator.executor (a.evaluator.runRequest a.request classpath)).run s := rfl

theorem runExported_run (classpath : List String) (artifacts : Artifacts)
    (emission : Option Emission) (scratch : Place) (s : Site τ) :
    (a.runExported classpath artifacts emission scratch).run s =
      a.evaluator.runExported a.request classpath artifacts scratch.path s := by
  unfold runExported Evaluator.runExported Artifacts.exportTo
  simp only [Script.run_bind, exportFiles_comesTo _ _ s, getDisk_evaluator]
  cases Artifacts.exportFiles scratch.path artifacts.files s.disk with
  | mk r d' =>
    cases r with
    | error e => rfl
    | ok => exact a.runProgram_run _ _ _

theorem runInScratch_run (classpath : List String) (artifacts : Artifacts)
    (emission : Option Emission) (s : Site τ) :
    (a.runInScratch classpath artifacts emission).run s =
      a.evaluator.runInScratch a.request classpath artifacts s := by
  unfold runInScratch Evaluator.runInScratch
  simp only [Script.run_andThen, run_onDisk, getDisk_evaluator]
  cases Disk.openScratch Evaluator.label s.disk with
  | mk r d' =>
    cases r with
    | error e => rfl
    | ok scratch =>
      simp only [Script.run_bind, Script.run_done, run_onDisk, runExported_run,
        setDisk_evaluator]
      rfl

theorem execute_run (report : Report) (emission : Option Emission) (s : Site τ) :
    (a.execute report emission).run s = a.stages.execute report s := by
  have hstage : a.stages.execute report s = a.evaluator.execute a.request report s := rfl
  have hconfig : a.evaluator.config = a.config := rfl
  rw [hstage]
  unfold execute Evaluator.execute
  simp only [Script.run_andThen, run_look, getDisk_evaluator, hconfig]
  cases Evaluator.runClasspath a.config s.disk a.request.classpath with
  | error e => rfl
  | ok classpath =>
    cases report.output with
    | none => exact a.runProgram_run classpath emission s
    | some artifacts => exact a.runInScratch_run classpath artifacts emission s

theorem runReport_run (report : Report) (emission : Option Emission) (s : Site τ) :
    (a.runReport report emission).run s = a.stages.runReport report s := by
  unfold runReport Stages.runReport
  have hcancelled : a.stages.cancelled s = a.cancelled s.other := rfl
  cases report.hasErrors with
  | true => rfl
  | false =>
    simp only [Bool.false_eq_true, ↓reduceIte, Script.run_bind, run_look, hcancelled]
    cases a.cancelled s.other with
    | true => rfl
    | false =>
      simp only [Bool.false_eq_true, ↓reduceIte, Script.run_bind, execute_run]
      cases a.stages.execute report s with
      | mk r s' => cases r <;> rfl

theorem compileSource_run (source : Path) (s : Site τ) :
    (a.compileSource source).run s = a.stages.compileSource source s := by
  unfold compileSource Stages.compileSource
  have hcancelled : a.stages.cancelled s = a.cancelled s.other := rfl
  have hcompile := a.compile_run source s
  rw [Script.run_map] at hcompile
  simp only [Script.run_bind, run_look, hcancelled]
  cases a.cancelled s.other with
  | true => rfl
  | false =>
    simp only [Bool.false_eq_true, ↓reduceIte, Script.run_bind]
    rw [← hcompile]
    cases (a.compile source).run s with
    | mk r s' =>
      cases r with
      | error e => rfl
      | ok compiled => exact a.runReport_run compiled.1 compiled.2 s'

/-- The actions of an evaluation, with nothing in between, are the evaluation. -/
theorem work_run (s : Site τ) : a.work.run s = a.stages.run s := by
  unfold work Stages.run
  rw [Script.run_andThen, materialize_run]
  cases a.stages.materialize s with
  | mk r s' =>
    cases r with
    | error e => rfl
    | ok path => exact a.compileSource_run path s'

end Assignment

end Worksheet
