-- What evaluations leave behind, whatever their stages come to. An evaluator is called again and
-- again, with the bytecode compiler or with one that follows a script, and with a scripted executor.
import Worksheet.Proofs.Isolation
import Worksheet.Proofs.LoneEvaluation
import Worksheet.Proofs.OutputPlaces
import Worksheet.Proofs.ScratchFiles

namespace Worksheet

open Text (Bytes Octets Points)

/-! ## Calls -/

/-- A compiler that answers from a script. It may look at the disk, and leaves it alone; what it
keeps in memory it has written there. -/
structure CompilerScript (τ : Type) where
  extension : String
  entryArguments : String → List String
  answer : List String → Disk → τ → Except Fault Report × τ
  written : ∀ arguments d t report artifacts, (answer arguments d t).1 = .ok report →
    report.output = some artifacts → artifacts.Written

inductive CompilerChoice (τ : Type)
  | bytecode (generate : CodeGenerator τ)
  | scripted (script : CompilerScript τ)

/-- What the calls of one evaluator have in common. The executor answers from a script, too. -/
structure Workshop (τ : Type) where
  config : Config
  installation : Installation
  compiler : CompilerChoice τ
  executor : RunRequest → Disk → τ → Except Fault RunResult × τ

/-- A call: the request, and the stop signal that goes with it. -/
structure Call (τ : Type) where
  request : Request
  cancelled : τ → Bool

variable {τ : Type}

/-- Work that looks at the disk and changes nothing but the rest. -/
def Site.beside {α : Type} (work : Disk → τ → α × τ) : Site τ → α × Site τ := fun s =>
  ((work s.disk s.other).1, { s with other := (work s.disk s.other).2 })

def CompilerChoice.backend : CompilerChoice τ → Backend (Site τ)
  | .bytecode generate => {
    name := "python"
    extension := "py"
    entryArguments := Backend.moduleArguments
    run := Bytecode.runOnSite generate }
  | .scripted script => {
    name := "script"
    extension := script.extension
    entryArguments := script.entryArguments
    run := fun arguments => Site.beside (script.answer arguments) }

namespace Workshop

variable (w : Workshop τ) (c : Call τ)

def evaluator : Evaluator (Site τ) where
  config := w.config
  installation := w.installation
  backend := w.compiler.backend
  executor request := Site.beside (w.executor request)
  cancelled s := c.cancelled s.other
  getDisk := Site.disk
  setDisk d s := { s with disk := d }

/-- One call, from the locks and the site that the calls before it have left. -/
def call (stand : Locks × Site τ) : Outcome × Locks × Site τ :=
  (w.evaluator c).evaluate c.request stand.1 stand.2

/-- The locks and the site after some calls. -/
def calls (cs : List (Call τ)) (s : Site τ) : Locks × Site τ :=
  cs.foldl (fun stand c => (w.call c stand).2) (.empty, s)

/-! ## Files of a call -/

/-- The source has been written to the path. -/
def Materializes (s : Site τ) (path : Path) (s₁ : Site τ) : Prop :=
  (w.evaluator c).materialize c.request s = (.ok path, s₁)

/-- The bytecode compiler is asked to write the file of the module below the directory. -/
def AsksFor (path directory : Path) (module : String) : Prop :=
  (∃ generate, w.compiler = .bytecode generate) ∧ ∃ st,
    Settings.ofArguments (Backend.arguments w.config path
      (Backend.moduleArguments c.request.entryPoint) c.request.classpath) = .ok st ∧
    st.outputDirectory = some directory ∧ st.module = module

/-- The compiler reports no errors on the source at the path, and the place is a name of the file
that the path of the module that it is asked for leads to in the end. -/
def Emits (path : Path) (s₁ : Site τ) (d d' : Disk) (p : Place) : Prop :=
  ∃ report s₂ directory module q, (w.evaluator c).compile c.request path s₁ = (.ok report, s₂) ∧
    report.hasErrors = false ∧ w.AsksFor c path directory module ∧
    d'.locateWith true d.current (Bytecode.moduleFile directory module).way.octets = .ok q ∧
    d.SameFile q p

/-- The place is on the way to the file of the module that the compiler is asked for. -/
def Approaches (path : Path) (d' : Disk) (p : Place) : Prop :=
  ∃ directory module, w.AsksFor c path directory module ∧
    d'.OnWay (Bytecode.moduleFile directory module).parent.way p

/-- A name of the file that the path of the source leads to. -/
def IsSource (s : Site τ) (p : Place) : Prop :=
  ∃ path q, (w.evaluator c).materializer.sourcePath s.disk.currentPath c.request.entryPoint =
      .ok path ∧
    s.disk.locateWith true s.disk.current path.way.octets = .ok q ∧ s.disk.SameFile q p

/-- A name of the file of the module, written after the compiler has reported no errors. -/
def IsOutput (s : Site τ) (d' : Disk) (p : Place) : Prop :=
  ∃ path s₁, w.Materializes c s path s₁ ∧ w.Emits c path s₁ s.disk d' p

def IsAboveOutput (s : Site τ) (d' : Disk) (p : Place) : Prop :=
  ∃ path s₁, w.Materializes c s path s₁ ∧ w.Approaches c path d' p

end Workshop

/-- A tree was too deep to be taken away. -/
def Fault.tooDeepToRemove : Fault := .recursion "maximum recursion depth exceeded"

/-- The place is in a scratch directory that has been left, because it could not be taken away. -/
def Disk.IsLeft (d d' : Disk) (p : Place) : Prop :=
  ∃ name n, d.node? (d.scratch ++ [name]) = none ∧
    d'.node? (d.scratch ++ [name]) = some n ∧ Disk.maxRemovedLevels < n.depth ∧
    d.scratch ++ [name] <+: p

/-! ## The source -/

namespace Path

/-- A text that is not only made of slashes and points has components as a path. -/
theorem parts_ofString_ne_nil {s : String} {c : Char} (hc : c ∈ s.toList) (hslash : c ≠ '/')
    (hpoint : c ≠ '.') : (ofString s).parts ≠ [] := by
  rw [← Text.intercalate_split '/' s.toList] at hc
  obtain ⟨piece, hpiece, hmem⟩ := (Text.mem_intercalate_of_ne hslash _).mp hc
  have hcomponent : isComponent piece = true := by
    have hnil : piece ≠ [] := List.ne_nil_of_mem hmem
    have hone : piece ≠ ['.'] := by
      rintro rfl
      exact hpoint (List.mem_singleton.mp hmem)
    simp [isComponent, hnil, hone]
  unfold ofString ofChars
  exact List.ne_nil_of_mem (List.mem_map_of_mem (List.mem_filter.mpr ⟨hpiece, hcomponent⟩))

theorem parts_joinString_ne_nil {p : Path} {s : String} (h : (ofString s).parts ≠ []) :
    (p.joinString s).parts ≠ [] := by
  unfold joinString join
  split
  · exact h
  · exact List.append_ne_nil_of_right_ne_nil _ h

end Path

namespace Materializer

variable {m : Materializer} {current path : Path} {entryPoint : String} {d d' : Disk}

theorem dollar_mem_fileName (m : Materializer) (name : String) :
    '$' ∈ (m.fileName name).toList := by
  have hsuffix : '$' ∈ instrumentedSuffix.toList := by decide
  unfold fileName
  simp only [String.toList_append, List.mem_append]
  exact Or.inl (Or.inl (Or.inr hsuffix))

theorem isNormal_sourcePath (hcurrent : current.IsNormal)
    (hdirectory : ∀ directory, m.directory = some directory → directory.IsNormal)
    (h : m.sourcePath current entryPoint = .ok path) : path.IsNormal ∧ path.parts ≠ [] := by
  unfold sourcePath at h
  dsimp only at h
  split at h
  · cases h
  · rw [← Except.ok.inj h]
    have hdollar := m.dollar_mem_fileName (simpleName entryPoint)
    refine ⟨Path.isNormal_join ?_ (Path.isNormal_ofString _), Path.parts_joinString_ne_nil
      (Path.parts_ofString_ne_nil hdollar (by decide) (by decide))⟩
    cases hm : m.directory with
    | none => exact hcurrent
    | some directory => exact hdirectory directory hm

/-- The source is written as a whole, to where its path leads, or nothing changes. -/
theorem edit_materialize (hnormal : ∀ path, m.sourcePath d.currentPath entryPoint = .ok path →
      path.IsNormal ∧ path.parts ≠ []) {source : Points} {r : Except Fault Materialized}
    (h : (m.materialize entryPoint source).run d = (r, d')) :
    (∃ written q, r = .ok written ∧ m.sourcePath d.currentPath entryPoint = .ok written.path ∧
      d.locateWith true d.current written.path.way.octets = .ok q ∧
      Disk.Edit (d.SameFile q) (fun _ => False) d d') ∨ ((∃ fault, r = .error fault) ∧ d' = d) := by
  unfold Act.run materialize at h
  split at h
  · cases h
    exact Or.inr ⟨⟨_, rfl⟩, rfl⟩
  next path hpath =>
  obtain ⟨hpathNormal, hne⟩ := hnormal path hpath
  split at h
  · cases h
    exact Or.inr ⟨⟨_, rfl⟩, rfl⟩
  next content hcontent =>
  unfold writeSource at h
  cases hwrite : Disk.writeBytes path content d with
  | mk written d₁ =>
    rw [hwrite] at h
    rcases Disk.edit_writeBytes hpathNormal hne hwrite with
      ⟨rfl, q, hlocate, hedit⟩ | ⟨⟨fault, rfl⟩, rfl⟩
    · cases h
      exact Or.inl ⟨_, q, rfl, hpath, hlocate, hedit⟩
    · cases fault <;> cases h <;> exact Or.inr ⟨⟨_, rfl⟩, rfl⟩

end Materializer

/-! ## The compiler -/

namespace Bytecode

variable {st : Settings} {report : Report} {data : Bytes} {d d' : Disk}
  {r : Except Fault Report}

/-- What is left to do ends at once and keeps nothing, or a file is emitted. -/
theorem finish_cases (st : Settings) (source : Bytes) (modified : Int) (p : CodeProduct)
    (d : Disk) :
    (∃ r, finish st source modified p d = (r, d) ∧
      ∀ report, r = .ok report → report.output = none) ∨
    ∃ report data, report.hasErrors = false ∧ report.output = none ∧
      finish st source modified p d = emit st report data d := by
  unfold finish
  cases conclude st p with
  | error fault => exact Or.inl ⟨_, rfl, nofun⟩
  | ok concluded =>
    obtain ⟨diagnostics, code⟩ := concluded
    cases code with
    | none =>
      refine Or.inl ⟨_, rfl, fun report hok => ?_⟩
      cases hok
      rfl
    | some code =>
      dsimp only
      split
      · refine Or.inl ⟨_, rfl, fun report hok => ?_⟩
        cases hok
        rfl
      · next hclean =>
        cases fileAt code source.length (secondsOf modified) with
        | error fault => exact Or.inl ⟨_, rfl, nofun⟩
        | ok data => exact Or.inr ⟨_, data, Bool.eq_false_iff.mpr hclean, rfl, rfl⟩

/-- All that a run does to the disk is to emit its file. -/
theorem runOnSite_cases {generate : CodeGenerator τ} {arguments : List String} {s s' : Site τ}
    (h : runOnSite generate arguments s = (r, s')) :
    (s'.disk = s.disk ∧ ∀ report, r = .ok report → report.output = none) ∨
    ∃ st report data, Settings.ofArguments arguments = .ok st ∧ report.hasErrors = false ∧
      report.output = none ∧ emit st report data s.disk = (r, s'.disk) := by
  unfold runOnSite run at h
  cases hst : Settings.ofArguments arguments with
  | error e =>
    rw [hst] at h
    cases h
    exact Or.inl ⟨rfl, nofun⟩
  | ok st =>
    have hsame := Assignment.readSource_snd st.source s.disk
    rw [hst] at h
    dsimp only [Act.within, Act.run] at h
    cases hread : readSource st.source s.disk with
    | mk read d =>
      rw [hread] at h hsame
      dsimp only at hsame
      subst hsame
      cases read with
      | error fault =>
        cases h
        exact Or.inl ⟨rfl, nofun⟩
      | ok found =>
        obtain ⟨source, modified⟩ := found
        dsimp only at h
        rcases finish_cases st source modified
            (generate ⟨source, st.source.text, st.optimize⟩ s.other).1 s.disk with
          ⟨r', hfinish, hnone⟩ | ⟨report, data, hclean, hnone, hfinish⟩
        · rw [hfinish] at h
          cases h
          exact Or.inl ⟨rfl, hnone⟩
        · rw [hfinish] at h
          cases h
          exact Or.inr ⟨st, report, data, rfl, hclean, hnone, rfl⟩

/-- The file of a module is written below a directory, with the directories on the way to it. -/
theorem edit_emitBelow {directory : Path} (hdirectory : directory.IsNormal) {module : String}
    (hmodule : Settings.isModuleName module = true) {r : Except Fault Unit}
    (h : emitBelow directory module data d = (r, d')) :
    Disk.Edit
      (fun p => r = .ok () ∧ ∃ q, d'.locateWith true d.current
        (moduleFile directory module).way.octets = .ok q ∧ d.SameFile q p)
      (d'.OnWay (moduleFile directory module).parent.way) d d' := by
  obtain ⟨hnormal, hne⟩ := Assignment.isNormal_moduleFile hmodule hdirectory
  have hparts : (moduleFile directory module).parts ≠ [] := hne
  unfold emitBelow at h
  dsimp only at h
  split at h
  · next hensure =>
    obtain ⟨rfl, rfl⟩ := Prod.mk.inj h
    exact (Disk.edit_ensurePath (Path.isNormal_parent hnormal) hensure).mono
      (fun _ => False.elim) fun _ _ => id
  · next between hensure =>
    have hmade := Disk.edit_ensurePath (Path.isNormal_parent hnormal) hensure
    cases hwrite : Disk.writeBytes (moduleFile directory module) data between with
    | mk written d'' =>
      rw [hwrite] at h
      rcases Disk.edit_writeBytes hnormal hparts hwrite with
        ⟨rfl, q, hlocate, hedit⟩ | ⟨⟨fault, rfl⟩, rfl⟩
      · obtain ⟨rfl, rfl⟩ := Prod.mk.inj h
        refine (hmade.mono (fun _ => False.elim) fun p _ hway => ?_).trans
          (hedit.mono (fun p hp => ⟨rfl, q, ?_, hp.of_edit hmade⟩) fun _ _ => False.elim)
        · exact hway.grows hedit.grows hedit.current
        · rw [← hmade.current]
          exact Disk.locateWith_of_grows hedit.grows hlocate
      · obtain ⟨rfl, rfl⟩ := Prod.mk.inj h
        exact hmade.mono (fun _ => False.elim) fun _ _ => id

/-- What is kept in memory has been written there. -/
theorem written_of_emit {report' : Report} (houtput : report.output = none)
    (h : emit st report data d = (.ok report', d')) {artifacts : Artifacts}
    (hsome : report'.output = some artifacts) : artifacts.Written := by
  unfold emit at h
  split at h
  · obtain ⟨hok, -⟩ := Prod.mk.inj h
    obtain ⟨kept, hkept, rfl⟩ := exists_of_map_ok hok
    cases hsome
    unfold emitInMemory at hkept
    split at hkept
    · next hwrite =>
      cases hkept
      exact .write (.empty _) hwrite
    · cases hkept
  · split at h
    · cases h
      rw [houtput] at hsome
      cases hsome
    · cases (Prod.mk.inj h).1

/-- Nothing is written but below the directory that the settings name. -/
theorem edit_emit (hmodule : Settings.isModuleName st.module = true)
    (hdirectory : ∀ directory, st.outputDirectory = some directory → directory.IsNormal)
    (hclean : report.hasErrors = false) (h : emit st report data d = (r, d')) :
    Disk.Edit
      (fun p => (∃ report, r = .ok report ∧ report.hasErrors = false) ∧
        ∃ directory q, st.outputDirectory = some directory ∧ d'.locateWith true d.current
          (moduleFile directory st.module).way.octets = .ok q ∧ d.SameFile q p)
      (fun p => ∃ directory, st.outputDirectory = some directory ∧
        d'.OnWay (moduleFile directory st.module).parent.way p) d d' := by
  unfold emit at h
  cases hst : st.outputDirectory with
  | none =>
    simp only [hst] at h
    obtain ⟨-, rfl⟩ := Prod.mk.inj h
    exact .refl _
  | some directory =>
    simp only [hst] at h
    cases hemit : emitBelow directory st.module data d with
    | mk written d'' =>
      have hedit := edit_emitBelow (hdirectory directory hst) hmodule hemit
      rw [hemit] at h
      cases written with
      | error fault =>
        obtain ⟨rfl, rfl⟩ := Prod.mk.inj h
        exact hedit.mono (fun p hp => by cases hp.1) fun p _ hp => ⟨directory, rfl, hp⟩
      | ok =>
        obtain ⟨rfl, rfl⟩ := Prod.mk.inj h
        exact hedit.mono (fun p ⟨_, q, hlocate, hsame⟩ =>
          ⟨⟨_, rfl, hclean⟩, directory, q, rfl, hlocate, hsame⟩) fun p _ hp => ⟨directory, rfl, hp⟩

end Bytecode

namespace Workshop

variable {w : Workshop τ} {c : Call τ} {s s' : Site τ} {path : Path} {p : Place}

/-! ## The stages of a call -/

theorem edit_materialize (hready : s.disk.Ready) {r : Except Fault Path}
    (h : (w.evaluator c).materialize c.request s = (r, s')) :
    (∃ path, r = .ok path ∧ Disk.Edit (w.IsSource c s) (fun _ => False) s.disk s'.disk) ∨
      ((∃ fault, r = .error fault) ∧ s'.disk = s.disk) := by
  have hdirectory : ∀ directory, (w.evaluator c).materializer.directory = some directory →
      directory.IsNormal := by
    intro directory hsome
    obtain ⟨name, -, rfl⟩ := Option.map_eq_some_iff.mp hsome
    exact Path.isNormal_ofString name
  unfold Evaluator.materialize at h
  cases hwrite : ((w.evaluator c).materializer.materialize c.request.entryPoint
      c.request.source).run s.disk with
  | mk r' d' =>
    rw [show (w.evaluator c).getDisk s = s.disk from rfl, hwrite] at h
    rcases Materializer.edit_materialize
        (fun path hpath => Materializer.isNormal_sourcePath hready.current hdirectory hpath)
        hwrite with
      ⟨written, q, rfl, hpath, hlocate, hedit⟩ | ⟨⟨fault, rfl⟩, rfl⟩
    · obtain ⟨rfl, rfl⟩ := Prod.mk.inj h
      exact Or.inl ⟨_, rfl, hedit.mono (fun p hp => ⟨_, q, hpath, hlocate, hp⟩) fun _ _ => id⟩
    · obtain ⟨rfl, rfl⟩ := Prod.mk.inj h
      exact Or.inr ⟨⟨fault, rfl⟩, rfl⟩

theorem edit_compile {r : Except Fault Report}
    (h : (w.evaluator c).compile c.request path s = (r, s')) :
    Disk.Edit (w.Emits c path s s.disk s'.disk) (w.Approaches c path s'.disk) s.disk s'.disk ∧
      ∀ report artifacts, r = .ok report → report.output = some artifacts → artifacts.Written := by
  cases hcompiler : w.compiler with
  | scripted script =>
    have hrun : Site.beside (script.answer (Backend.arguments w.config path
        (script.entryArguments c.request.entryPoint) c.request.classpath)) s = (r, s') := by
      rw [← h]
      unfold Evaluator.compile evaluator Backend.compile
      simp only [hcompiler, CompilerChoice.backend]
    obtain ⟨rfl, rfl⟩ := Prod.mk.inj hrun
    exact ⟨.refl _, fun report artifacts => script.written _ _ _ report artifacts⟩
  | bytecode generate =>
    have hrun : Bytecode.runOnSite generate (Backend.arguments w.config path
        (Backend.moduleArguments c.request.entryPoint) c.request.classpath) s = (r, s') := by
      rw [← h]
      unfold Evaluator.compile evaluator Backend.compile
      simp only [hcompiler, CompilerChoice.backend]
    rcases Bytecode.runOnSite_cases hrun with
      ⟨hsame, hnone⟩ | ⟨st, report, data, hst, hclean, hnone, hemit⟩
    · rw [hsame]
      refine ⟨.refl _, fun report artifacts hok hsome => ?_⟩
      rw [hnone report hok] at hsome
      cases hsome
    · obtain ⟨items, word, -, -, -, -, hmodule, hdirectory⟩ := Settings.ofArguments_spec hst
      have hnormal : ∀ directory, st.outputDirectory = some directory → directory.IsNormal := by
        intro directory hsome
        rw [hdirectory] at hsome
        obtain ⟨name, -, rfl⟩ := Option.map_eq_some_iff.mp hsome
        exact Path.isNormal_ofString name
      have hasks : ∀ directory, st.outputDirectory = some directory →
          w.AsksFor c path directory st.module := fun directory hsome =>
        ⟨⟨generate, hcompiler⟩, st, hst, hsome, rfl⟩
      have hedit := Bytecode.edit_emit hmodule hnormal hclean hemit
      refine ⟨hedit.mono ?_ ?_, fun report' artifacts hok hsome =>
        Bytecode.written_of_emit hnone (hok ▸ hemit) hsome⟩
      · rintro p ⟨⟨report', rfl, hclean'⟩, directory, q, hsome, hlocate, hsame⟩
        exact ⟨report', s', directory, st.module, q, h, hclean', hasks directory hsome, hlocate,
          hsame⟩
      · rintro p - ⟨directory, hsome, hway⟩
        exact ⟨directory, st.module, hasks directory hsome, hway⟩

/-- What a run exports is all that it does to the disk. -/
theorem exportTo_of_runExported {scratch : Path} {artifacts : Artifacts} {classpath : List String}
    {r : Except Fault RunResult}
    (h : (w.evaluator c).runExported c.request classpath artifacts scratch s = (r, s')) :
    ∃ exported, artifacts.exportTo scratch s.disk = (exported, s'.disk) := by
  unfold Evaluator.runExported at h
  cases hexport : artifacts.exportTo scratch s.disk with
  | mk exported d' =>
    rw [show (w.evaluator c).getDisk s = s.disk from rfl, hexport] at h
    refine ⟨exported, congrArg _ ?_⟩
    cases exported with
    | error fault =>
      obtain ⟨-, rfl⟩ := Prod.mk.inj h
      rfl
    | ok =>
      obtain ⟨-, rfl⟩ := Prod.mk.inj h
      rfl

/-- A run changes no file, unless it leaves a directory that could not be taken away. -/
theorem edit_runInScratch (hready : s.disk.Ready) {artifacts : Artifacts}
    (hwritten : artifacts.Written) {classpath : List String} {r : Except Fault RunResult}
    (h : (w.evaluator c).runInScratch c.request classpath artifacts s = (r, s')) :
    Disk.Edit (fun p => r = .error .tooDeepToRemove ∧ s.disk.IsLeft s'.disk p)
      (fun p => r = .error .tooDeepToRemove ∧ s.disk.IsLeft s'.disk p) s.disk s'.disk := by
  unfold Evaluator.runInScratch at h
  cases hopen : Disk.openScratch Evaluator.label s.disk with
  | mk opened d =>
    rw [show (w.evaluator c).getDisk s = s.disk from rfl, hopen] at h
    cases opened with
    | error fault =>
      cases Disk.openScratch_error hopen
      obtain ⟨-, rfl⟩ := Prod.mk.inj h
      exact .refl _
    | ok scratch =>
      cases hrun : (w.evaluator c).runExported c.request classpath artifacts scratch.path
          { s with disk := d } with
      | mk result s₁ =>
        obtain ⟨exported, hexport⟩ := exportTo_of_runExported hrun
        obtain ⟨⟨name, rfl⟩, hnone, hown, hbelow⟩ := hready.edit_exportTo hwritten hopen hexport
        dsimp only at h
        rw [show (w.evaluator c).setDisk d s = { s with disk := d } from rfl, hrun] at h
        dsimp only at h
        rcases hown.removeScratch with hremove | ⟨⟨n, hn, hdeep⟩, hremove⟩
        · rw [show (w.evaluator c).getDisk s₁ = s₁.disk from rfl, hremove] at h
          obtain ⟨-, rfl⟩ := Prod.mk.inj h
          exact (hbelow.erase hown.ne_nil hnone).mono (fun _ => False.elim) fun _ _ => False.elim
        · rw [show (w.evaluator c).getDisk s₁ = s₁.disk from rfl, hremove] at h
          obtain ⟨rfl, rfl⟩ := Prod.mk.inj h
          exact hbelow.mono (fun p hp => ⟨rfl, name, n, hnone, hn, hdeep, hp⟩)
            fun p _ hp => ⟨rfl, name, n, hnone, hn, hdeep, hp⟩

theorem edit_execute (hready : s.disk.Ready) {report : Report}
    (hwritten : ∀ artifacts, report.output = some artifacts → artifacts.Written)
    {r : Except Fault RunResult} (h : (w.evaluator c).execute c.request report s = (r, s')) :
    Disk.Edit (fun p => r = .error .tooDeepToRemove ∧ s.disk.IsLeft s'.disk p)
      (fun p => r = .error .tooDeepToRemove ∧ s.disk.IsLeft s'.disk p) s.disk s'.disk := by
  unfold Evaluator.execute at h
  split at h
  · obtain ⟨-, rfl⟩ := Prod.mk.inj h
    exact .refl _
  · split at h
    · obtain ⟨-, rfl⟩ := Prod.mk.inj h
      exact .refl _
    · next artifacts hsome => exact edit_runInScratch hready (hwritten artifacts hsome) h

/-! ## Whole calls -/

variable {d d' d₁ : Disk} {result : Except Fault Outcome}

theorem isLeft_of_edit {mine ways : Place → Prop} (hedit : Disk.Edit mine ways d d₁)
    (h : d₁.IsLeft d' p) : d.IsLeft d' p := by
  obtain ⟨name, n, hnone, hn, hdeep, hp⟩ := h
  rw [hedit.scratch] at hnone hn hp
  refine ⟨name, n, ?_, hn, hdeep, hp⟩
  cases hold : d.node? (d.scratch ++ [name]) with
  | none => rfl
  | some m =>
    obtain ⟨m', hm', -⟩ := hedit.grows.kept _ m hold
    cases hnone.symm.trans hm'

theorem Emits.grows {s₁ : Site τ} (h : w.Emits c path s₁ d d₁ p) (hgrows : d₁.root.Grows d'.root) :
    w.Emits c path s₁ d d' p := by
  obtain ⟨report, s₂, directory, module, q, hcompile, hclean, hasks, hlocate, hsame⟩ := h
  exact ⟨report, s₂, directory, module, q, hcompile, hclean, hasks,
    Disk.locateWith_of_grows hgrows hlocate, hsame⟩

theorem Emits.before {mine ways : Place → Prop} {s₁ : Site τ} (hedit : Disk.Edit mine ways d d₁)
    (h : w.Emits c path s₁ d₁ d' p) : w.Emits c path s₁ d d' p := by
  obtain ⟨report, s₂, directory, module, q, hcompile, hclean, hasks, hlocate, hsame⟩ := h
  rw [hedit.current] at hlocate
  exact ⟨report, s₂, directory, module, q, hcompile, hclean, hasks, hlocate, hsame.of_edit hedit⟩

theorem Approaches.grows (h : w.Approaches c path d p) (hgrows : d.root.Grows d'.root)
    (hcurrent : d'.current = d.current) : w.Approaches c path d' p := by
  obtain ⟨directory, module, hasks, hway⟩ := h
  exact ⟨directory, module, hasks, hway.grows hgrows hcurrent⟩

theorem edit_runReport (hready : s.disk.Ready) {report : Report}
    (hwritten : ∀ artifacts, report.output = some artifacts → artifacts.Written)
    (h : ((w.evaluator c).stages c.request).runReport report s = (result, s')) :
    Disk.Edit (fun p => result = .error .tooDeepToRemove ∧ s.disk.IsLeft s'.disk p)
      (fun p => result = .error .tooDeepToRemove ∧ s.disk.IsLeft s'.disk p) s.disk s'.disk := by
  unfold Stages.runReport at h
  split at h
  · obtain ⟨-, rfl⟩ := Prod.mk.inj h
    exact .refl _
  split at h
  · obtain ⟨-, rfl⟩ := Prod.mk.inj h
    exact .refl _
  split at h
  · next hexecute =>
    obtain ⟨-, rfl⟩ := Prod.mk.inj h
    exact (edit_execute hready hwritten hexecute).mono (fun p hp => by cases hp.1)
      fun p _ hp => by cases hp.1
  · next hexecute =>
    obtain ⟨rfl, rfl⟩ := Prod.mk.inj h
    -- No stage answers for a directory that has been left.
    have htold : ∀ {fault : Fault},
        (.error fault : Except Fault RunResult) = .error .tooDeepToRemove →
          Stages.executeFault fault = .error .tooDeepToRemove := by
      rintro fault ⟨⟩
      rfl
    exact (edit_execute hready hwritten hexecute).mono (fun p hp => ⟨htold hp.1, hp.2⟩)
      fun p _ hp => ⟨htold hp.1, hp.2⟩

theorem edit_compileSource (hready : s.disk.Ready)
    (h : ((w.evaluator c).stages c.request).compileSource path s = (result, s')) :
    Disk.Edit
      (fun p => w.Emits c path s s.disk s'.disk p ∨
        result = .error .tooDeepToRemove ∧ s.disk.IsLeft s'.disk p)
      (fun p => w.Approaches c path s'.disk p ∨
        result = .error .tooDeepToRemove ∧ s.disk.IsLeft s'.disk p) s.disk s'.disk := by
  unfold Stages.compileSource at h
  split at h
  · obtain ⟨-, rfl⟩ := Prod.mk.inj h
    exact .refl _
  split at h
  · next report s₁ hcompile =>
    obtain ⟨hedit, hwritten⟩ := edit_compile hcompile
    have hrun := edit_runReport (hready.edit hedit) (hwritten report · rfl) h
    refine (hedit.mono (fun p hp => Or.inl (hp.grows hrun.grows))
      fun p _ hp => Or.inl (hp.grows hrun.grows hrun.current)).trans ?_
    exact hrun.mono (fun p hp => Or.inr ⟨hp.1, isLeft_of_edit hedit hp.2⟩)
      fun p _ hp => Or.inr ⟨hp.1, isLeft_of_edit hedit hp.2⟩
  · next hcompile =>
    obtain ⟨hedit, -⟩ := edit_compile hcompile
    obtain ⟨-, rfl⟩ := Prod.mk.inj h
    exact hedit.mono (fun p => Or.inl) fun p _ => Or.inl

theorem edit_run (hready : s.disk.Ready)
    (h : ((w.evaluator c).stages c.request).run s = (result, s')) :
    Disk.Edit
      (fun p => w.IsSource c s p ∨ w.IsOutput c s s'.disk p ∨
        result = .error .tooDeepToRemove ∧ s.disk.IsLeft s'.disk p)
      (fun p => w.IsAboveOutput c s s'.disk p ∨
        result = .error .tooDeepToRemove ∧ s.disk.IsLeft s'.disk p) s.disk s'.disk := by
  unfold Stages.run at h
  cases hmaterialize : (w.evaluator c).materialize c.request s with
  | mk r s₁ =>
    rw [Evaluator.stages_materialize, hmaterialize] at h
    rcases edit_materialize hready hmaterialize with ⟨path, rfl, hedit⟩ | ⟨⟨fault, rfl⟩, hsame⟩
    · have hrest := edit_compileSource (hready.edit hedit) h
      have hwritten : w.Materializes c s path s₁ := hmaterialize
      refine Disk.Edit.trans (?_ : Disk.Edit _ _ s.disk s₁.disk) ?_
      · exact hedit.mono (fun p => Or.inl) fun _ _ => False.elim
      · refine hrest.mono ?_ ?_
        · rintro p (hemits | ⟨hfault, hleft⟩)
          · exact Or.inr (Or.inl ⟨path, s₁, hwritten, Emits.before hedit hemits⟩)
          · exact Or.inr (Or.inr ⟨hfault, isLeft_of_edit hedit hleft⟩)
        · rintro p - (hway | ⟨hfault, hleft⟩)
          · exact Or.inl ⟨path, s₁, hwritten, hway⟩
          · exact Or.inr ⟨hfault, isLeft_of_edit hedit hleft⟩
    · obtain ⟨-, rfl⟩ := Prod.mk.inj h
      rw [hsame]
      exact .refl _

theorem sourcePath_of_materializes {s₁ : Site τ} (h : w.Materializes c s path s₁) :
    (w.evaluator c).materializer.sourcePath s.disk.currentPath c.request.entryPoint = .ok path := by
  unfold Materializes Evaluator.materialize at h
  rw [show (w.evaluator c).getDisk s = s.disk from rfl] at h
  unfold Act.run Materializer.materialize at h
  cases hpath : (w.evaluator c).materializer.sourcePath s.disk.currentPath
      c.request.entryPoint with
  | error fault =>
    rw [hpath] at h
    cases (Prod.mk.inj h).1
  | ok found =>
    simp only [hpath] at h
    cases hencode : Text.Utf8.encode c.request.source with
    | error run =>
      simp only [hencode] at h
      cases (Prod.mk.inj h).1
    | ok content =>
      simp only [hencode] at h
      split at h
      · next hwritten =>
        split at hwritten
        · cases (Prod.mk.inj hwritten).1
        · obtain ⟨hwritten, -⟩ := Prod.mk.inj hwritten
          cases hwritten
          exact congrArg _ (Except.ok.inj (Prod.mk.inj h).1)
      · cases (Prod.mk.inj h).1

/-- An entry point that is a module, or whose word no option takes for its value, is the module that
the compiler is asked for, below the configured directory. -/
theorem AsksFor.module_eq {s₁ : Site τ} (hmaterializes : w.Materializes c s path s₁)
    {directory : Path} {module : String} (hasks : w.AsksFor c path directory module)
    (hentry : Settings.isModuleName c.request.entryPoint = true ∨
      awaitsValue w.config.compilerArguments = false) :
    module = c.request.entryPoint ∧ Settings.directoryOf w.config = some directory := by
  obtain ⟨⟨generate, hcompiler⟩, st, hst, hdirectory, rfl⟩ := hasks
  let a : Assignment τ :=
    ⟨w.config, w.installation, generate, w.executor, c.cancelled, c.request⟩
  have hmaterializer : (w.evaluator c).materializer = a.evaluator.materializer := by
    unfold Evaluator.materializer evaluator
    simp only [hcompiler]
    rfl
  have hpath := sourcePath_of_materializes hmaterializes
  rw [hmaterializer] at hpath
  have hsource : path = a.source s.disk.current := Assignment.eq_source_of_sourcePath hpath
  have htext : ['.', 'p', 'y'] <:+ path.text.toList := hsource ▸ a.text_source s.disk.current
  have hcut : awaitsValue w.config.compilerArguments = false := by
    rcases hentry with hmodule | hcut
    · exact Settings.awaitsValue_of_ofArguments hmodule htext hst
    · exact hcut
  obtain ⟨-, hmodule, houtput⟩ := Settings.module_of_arguments htext hcut hst
  exact ⟨hmodule, houtput.symm.trans hdirectory⟩

/-- What a call leaves behind. -/
structure Footprint (w : Workshop τ) (c : Call τ) (s : Site τ) (outcome : Outcome) (s' : Site τ) :
    Prop where
  kept : ∀ p, (s.disk.node? p).isSome = true → (s'.disk.node? p).isSome = true
  files : ∀ p n, s'.disk.node? p = some n → n.isDirectory = false →
    s.disk.node? p = some n ∨ w.IsSource c s p ∨ w.IsOutput c s s'.disk p ∨
      outcome = Stages.conclude (.error .tooDeepToRemove) ∧ s.disk.IsLeft s'.disk p
  entries : ∀ name p, p = s.disk.scratch ++ [name] → s.disk.node? p = none →
    (s'.disk.node? p).isSome = true →
      w.IsSource c s p ∨ w.IsOutput c s s'.disk p ∨ w.IsAboveOutput c s s'.disk p ∨
        outcome = Stages.conclude (.error .tooDeepToRemove) ∧ s.disk.IsLeft s'.disk p
  unwritten : (∃ fault, (w.evaluator c).lockKey c.request s.disk = .error fault) ∨
    (∀ path s₁, ¬w.Materializes c s path s₁) → s'.disk = s.disk
  asked : Settings.isModuleName c.request.entryPoint = true ∨
    awaitsValue w.config.compilerArguments = false →
      ∀ path s₁ directory module, w.Materializes c s path s₁ →
        w.AsksFor c path directory module →
          module = c.request.entryPoint ∧ Settings.directoryOf w.config = some directory

theorem Footprint.refl (outcome : Outcome) : w.Footprint c s outcome s := by
  refine ⟨fun _ => id, fun _ _ hn _ => Or.inl hn, fun name p _ hnone hsome => ?_, fun _ => rfl,
    fun hentry _ _ _ _ hmaterializes hasks => hasks.module_eq hmaterializes hentry⟩
  rw [hnone] at hsome
  cases hsome

/-- What all stages leave behind, and that another call can follow. -/
theorem footprint_of_run (hready : s.disk.Ready)
    (h : ((w.evaluator c).stages c.request).run s = (result, s'))
    (hkey : ∀ fault, (w.evaluator c).lockKey c.request s.disk ≠ .error fault) :
    w.Footprint c s (Stages.conclude result) s' ∧ s'.disk.Ready := by
  have hedit := edit_run hready h
  have hleft : ∀ {p}, result = .error .tooDeepToRemove ∧ s.disk.IsLeft s'.disk p →
      Stages.conclude result = Stages.conclude (.error .tooDeepToRemove) ∧
        s.disk.IsLeft s'.disk p := by
    rintro p ⟨rfl, hleft⟩
    exact ⟨rfl, hleft⟩
  refine ⟨⟨fun p hp => ?_, fun p n hn hdir => ?_, fun name p _ hnone hsome => ?_, fun hfail => ?_,
    fun hentry _ _ _ _ hmaterializes hasks => hasks.module_eq hmaterializes hentry⟩,
    hready.edit hedit⟩
  · obtain ⟨n, hn⟩ := Option.isSome_iff_exists.mp hp
    obtain ⟨n', hn', -⟩ := hedit.grows.kept p n hn
    exact Option.isSome_of_eq_some hn'
  · rcases hedit.files p n hn hdir with hold | hsource | houtput | hdeep
    · exact Or.inl hold
    · exact Or.inr (Or.inl hsource)
    · exact Or.inr (Or.inr (Or.inl houtput))
    · exact Or.inr (Or.inr (Or.inr (hleft hdeep)))
  · rcases hedit.fresh p hnone hsome with (hsource | houtput | hdeep) | habove | hdeep
    · exact Or.inl hsource
    · exact Or.inr (Or.inl houtput)
    · exact Or.inr (Or.inr (Or.inr (hleft hdeep)))
    · exact Or.inr (Or.inr (Or.inl habove))
    · exact Or.inr (Or.inr (Or.inr (hleft hdeep)))
  · have hnone := hfail.resolve_left fun ⟨fault, hfault⟩ => hkey fault hfault
    unfold Stages.run at h
    cases hmaterialize : (w.evaluator c).materialize c.request s with
    | mk r s₁ =>
      rw [Evaluator.stages_materialize, hmaterialize] at h
      rcases edit_materialize hready hmaterialize with ⟨path, rfl, -⟩ | ⟨⟨fault, rfl⟩, hsame⟩
      · exact absurd hmaterialize (hnone path s₁)
      · obtain ⟨-, rfl⟩ := Prod.mk.inj h
        exact hsame

end Workshop

/-- The one who works alone takes the key away again. -/
theorem Locks.table_guarded {σ α : Type} {l : Locks} (h : l.table = []) (key : LockKey)
    (work : σ → α × σ) (s : σ) : (l.guarded key work s).2.1.table = [] := by
  unfold guarded register
  rw [h]
  simp [deregister, release, acquire, change, eraseKey]

namespace Workshop

variable {w : Workshop τ} {c : Call τ}

theorem getDisk_evaluator (w : Workshop τ) (c : Call τ) : (w.evaluator c).getDisk = Site.disk := rfl

theorem footprint_of_call {stand : Locks × Site τ} (hready : stand.2.disk.Ready)
    (htable : stand.1.table = []) :
    (w.call c stand).2.1.table = [] ∧
      w.Footprint c stand.2 (w.call c stand).1 (w.call c stand).2.2 ∧
      (w.call c stand).2.2.disk.Ready := by
  unfold call Evaluator.evaluate
  rw [getDisk_evaluator]
  cases hkey : (w.evaluator c).lockKey c.request stand.2.disk with
  | error fault =>
    rw [Stages.evaluate_error]
    exact ⟨htable, .refl _, hready⟩
  | ok key =>
    rw [Stages.evaluate_ok]
    cases hrun : ((w.evaluator c).stages c.request).run stand.2 with
    | mk result s' =>
      have hall := footprint_of_run hready hrun fun fault hfault => by
        rw [hkey] at hfault
        cases hfault
      exact ⟨Locks.table_guarded htable .., hall⟩

/-- Whatever the calls before have come to, the next one can follow. -/
theorem ready_of_calls (w : Workshop τ) {s : Site τ} (hready : s.disk.Ready)
    (cs : List (Call τ)) :
    (w.calls cs s).2.disk.Ready ∧ (w.calls cs s).1.table = [] := by
  have hall : ∀ stand : Locks × Site τ, stand.2.disk.Ready → stand.1.table = [] →
      (cs.foldl (fun stand c => (w.call c stand).2) stand).2.disk.Ready ∧
        (cs.foldl (fun stand c => (w.call c stand).2) stand).1.table = [] := by
    induction cs with
    | nil => exact fun _ hready htable => ⟨hready, htable⟩
    | cons c cs ih =>
      intro stand hready htable
      obtain ⟨htable', -, hready'⟩ := footprint_of_call (w := w) (c := c) hready htable
      rw [List.foldl_cons]
      exact ih (w.call c stand).2 hready' htable'
  exact hall (.empty, s) hready rfl

/-- After each call the lock table is empty. Nothing is gone, and each file that is new or has
changed is the source's, or the module's if the compiler has reported no errors and has been asked
for one below a directory. Nothing else is new among the scratch directories, unless a directory has
been made there on the way to the module, or a tree was too deep to be taken away. A call that fails
before its source is written changes nothing. -/
theorem calls_leave_only_their_files (w : Workshop τ) {s : Site τ} (hready : s.disk.Ready)
    (before : List (Call τ)) (c : Call τ) :
    (w.call c (w.calls before s)).2.1.table = [] ∧
      w.Footprint c (w.calls before s).2 (w.call c (w.calls before s)).1
        (w.call c (w.calls before s)).2.2 := by
  obtain ⟨hready', htable⟩ := w.ready_of_calls hready before
  obtain ⟨htable', hfootprint, -⟩ := footprint_of_call (w := w) (c := c) hready' htable
  exact ⟨htable', hfootprint⟩

/-! ## Single calls -/

/-- The bytecode compiler, for which the code of a source is the source, and programs that end at
once. -/
def sampleShop (config : Config) : Workshop Unit where
  config := config
  installation := ⟨"python3", "launcher"⟩
  compiler := .bytecode fun request _ => (⟨[], .ok request.source⟩, ())
  executor _ _ _ := (.ok ⟨[], 0⟩, ())

def sampleCall (entryPoint : String) : Call Unit :=
  ⟨⟨entryPoint, Points.ofString "x = 1\n", [], ⟨.root, []⟩⟩, fun _ => false⟩

/-- A current directory with these entries, beside an empty one for scratch space. -/
def sampleDisk (entries : List (Octets × Node)) : Disk where
  root := .directory 493 0 [(['w'], .directory 493 0 entries), (['t'], .directory 493 0 [])]
  current := [['w']]
  scratch := [['t']]
  scratchCount := 0
  groupCount := 0
  now := 0

def diskAfter (config : Config) (entryPoint : String) (entries : List (Octets × Node)) : Disk :=
  ((sampleShop config).call (sampleCall entryPoint) (.empty, ⟨sampleDisk entries, ()⟩)).2.2.disk

def contentAt (d : Disk) (place : Place) : Option Bytes :=
  match d.node? place with
  | some (.file content _ _ _) => some content
  | _ => none

/-- Two calls, the first of which has left its source. -/
theorem two_calls_leave_their_sources :
    ((sampleShop .defaults).call (sampleCall "b")
      ((sampleShop .defaults).calls [sampleCall "a"] (Assignment.sampleSite []))).2.1.table = [] ∧
    (sampleShop .defaults).Footprint (sampleCall "b")
      ((sampleShop .defaults).calls [sampleCall "a"] (Assignment.sampleSite [])).2
      ((sampleShop .defaults).call (sampleCall "b")
        ((sampleShop .defaults).calls [sampleCall "a"] (Assignment.sampleSite []))).1
      ((sampleShop .defaults).call (sampleCall "b")
        ((sampleShop .defaults).calls [sampleCall "a"] (Assignment.sampleSite []))).2.2 := by
  have hnormal : Path.IsNormal (Place.path []) := nofun
  have hstraight : Disk.Straight (Assignment.sampleSite []).disk [] := by
    intro above target time habove hlink
    obtain rfl := List.prefix_nil.mp habove
    cases hlink
  have hready : (Assignment.sampleSite []).disk.Ready :=
    ⟨hnormal, ⟨hnormal, List.not_mem_nil⟩, rfl, hstraight⟩
  exact calls_leave_only_their_files (sampleShop .defaults) hready [sampleCall "a"] (sampleCall "b")

/-- The source can lie among the scratch directories, its path can lead to another file, and an
option that lacks its value can make the compiler write a module that is not the entry point. -/
theorem other_files_can_change :
    ((sampleDisk []).children [['t']]).length = 0 ∧
      ((diskAfter { Config.defaults with sourceDirectory := some "../t" } "m" []).children
        [['t']]).length = 1 ∧
    contentAt (diskAfter .defaults "m" [
        (Octets.ofString "m$instrumented.py", .link ['o'] 0), (['o'], .file [] 420 0 0)])
      [['w'], ['o']] = some (Text.Utf8.encodeString "x = 1\n") ∧
    (contentAt (diskAfter { Config.defaults with
        compilerArguments := ["-module", "x", "-d", "out", "-cp"] } "-nowarn" [])
      [['w'], Octets.ofString "out", Octets.ofString "x.pyc"]).isSome = true := by
  refine ⟨rfl, ?_, ?_, ?_⟩
  · decide +kernel
  · decide +kernel
  · decide +kernel

end Workshop

end Worksheet
