-- What a run of the bytecode compiler comes to, by what the code generator did with the source.
-- Warnings are told in their order and a fault in the source after them, some faults are told as
-- failures of the compiler, and only a report without errors comes with a file: in memory, or at
-- the path of the module below a directory.
import Mathlib.Data.List.Forall2
import Worksheet.Proofs.EvaluationFootprint
import Worksheet.Proofs.OutputPlaces

namespace Worksheet

open Text (Bytes Octets Points)

/-! ## Classes of faults -/

namespace Fault

/-- The classes that are told as failures of the compiler. -/
def failureClasses : List String := ["ValueError", "RecursionError", "MemoryError"]

/-- The fault is of one of these classes, or of a class below one of them. Foreign faults have
classes of their own. -/
def IsFailure : Fault → Prop
  | foreign .. => False
  | e => ∃ name ∈ e.className :: e.broaderClasses, name ∈ failureClasses

theorem className_errno_notMem (e : Errno) : e.className ∉ failureClasses := by
  cases e <;> decide

/-- Failures of the system have classes of their own. -/
theorem className_system_notMem (e : SystemFault) : e.className ∉ failureClasses := by
  cases e with
  | failed errno _ => exact className_errno_notMem errno
  | plain errno => exact className_errno_notMem errno
  | stated errno _ =>
    cases errno with
    | none =>
      change "OSError" ∉ failureClasses
      decide
    | some errno => exact className_errno_notMem errno

theorem not_mem_of_oneBroader {name : String} {p : Prop} [Decidable p]
    (hname : name ∉ failureClasses) :
    ¬ ∃ n ∈ name :: (if p then [] else ["OSError"]), n ∈ failureClasses := by
  rintro ⟨n, hn, hfailure⟩
  rcases List.mem_cons.mp hn with rfl | hn
  · exact hname hfailure
  · split at hn
    · cases hn
    · rw [List.mem_singleton.mp hn] at hfailure
      exact absurd hfailure (by decide)

/-- The faults that the compiler gives up on are those of the classes that are told as its
failures. -/
theorem isFailure_iff (e : Fault) : e.IsFailure ↔ (e.isValueFault || e.isExhaustion) = true := by
  cases e with
  | system fault => exact iff_of_false (not_mem_of_oneBroader (className_system_notMem fault)) nofun
  | artifact fault =>
    cases fault with
    | system errno path =>
      exact iff_of_false (not_mem_of_oneBroader (className_errno_notMem errno)) nofun
    | noRoom errno =>
      exact iff_of_false (not_mem_of_oneBroader (className_errno_notMem errno)) nofun
    | _ =>
      simp [IsFailure, className, ArtifactFault.className, broaderClasses, isValueFault,
        isExhaustion, failureClasses]
  | encoding fault =>
    cases fault <;>
      simp [IsFailure, className, broaderClasses, isValueFault, isExhaustion, failureClasses]
  | _ => simp [IsFailure, className, broaderClasses, isValueFault, isExhaustion, failureClasses]

end Fault

/-! ## Files that are written -/

namespace Disk

variable {d d' : Disk} {content : Bytes}

/-- What has been written stands where the path leads to. -/
theorem holds_of_writeBytes {path : Path} (hpath : path.IsNormal) (hne : path.parts ≠ [])
    (h : writeBytes path content d = (.ok (), d')) :
    ∃ place, d'.Holds d.current path.way.octets place content := by
  have htrim : Way.trimSlashes path.way.octets = path.way.octets :=
    Way.trimSlashes_octets (Path.named_way hpath) (by simpa [Path.way] using hne)
  unfold writeBytes at h
  split at h
  · cases h
  split at h
  · cases h
  next place opened hopen =>
  split at h
  · next filled hfill =>
    cases h
    exact ⟨place, (holds_of_openToWrite htrim hopen).fill hfill⟩
  · cases h

end Disk

namespace Bytecode

variable {τ : Type} {settings : Settings} {data : Bytes} {d d' : Disk}

/-- The path of a module below a directory leads to its file, once this has been written. -/
theorem holds_of_emitBelow {directory : Path} (hdirectory : directory.IsNormal) {module : String}
    (hmodule : Settings.isModuleName module = true)
    (h : emitBelow directory module data d = (.ok (), d')) :
    ∃ place, d'.Holds d.current (moduleFile directory module).way.octets place data := by
  obtain ⟨hnormal, hne⟩ := Assignment.isNormal_moduleFile hmodule hdirectory
  unfold emitBelow at h
  dsimp only at h
  split at h
  · cases Assignment.eq_ok_of_toldOf (Prod.mk.inj h).1
  · next between hensure =>
    have hmade := Disk.edit_ensurePath (Path.isNormal_parent hnormal) hensure
    cases hwrite : Disk.writeBytes (moduleFile directory module) data between with
    | mk written d'' =>
      rw [hwrite] at h
      obtain ⟨htold, rfl⟩ := Prod.mk.inj h
      rw [Assignment.eq_ok_of_toldOf htold] at hwrite
      rw [← hmade.current]
      exact Disk.holds_of_writeBytes hnormal hne hwrite

/-! ## Diagnostics -/

/-- The diagnostic of a warning. -/
structure TellsWarning (settings : Settings) (w : CodeWarning) (told : Diagnostic) : Prop where
  severity : told.severity = if settings.fatalWarnings then .error else .warning
  message : told.message = w.message
  position : told.position = if w.line = 0 then none else some ⟨w.line, none⟩

/-- The diagnostics of warnings in the order in which they came up, or none if warnings are
turned off. -/
def TellsWarnings (settings : Settings) (warnings : List CodeWarning)
    (told : List Diagnostic) : Prop :=
  if settings.noWarnings then told = []
  else List.Forall₂ (TellsWarning settings) warnings told

/-- The diagnostic of a fault in the source. There is no position without a line, and no column
without a position. -/
structure TellsFault (fault : SourceFault) (told : Diagnostic) : Prop where
  severity : told.severity = .error
  message : told.message = fault.message.getD "" ∨
    fault.message.getD "" = "" ∧ told.message = fault.text
  unplaced : told.position = none ↔ fault.line = none ∨ fault.line = some 0
  line : ∀ position ∈ told.position, fault.line = some position.line
  uncolumned : ∀ position ∈ told.position,
    (position.column = none ↔ fault.column = none ∨ fault.column = some 0)
  column : ∀ position ∈ told.position, ∀ column ∈ position.column, fault.column = some column

theorem nonzero?_eq_none_iff {n : Option Int} : nonzero? n = none ↔ n = none ∨ n = some 0 := by
  cases n with
  | none => simp [nonzero?]
  | some n => simp [nonzero?, Option.filter]

theorem eq_some_of_nonzero? {n : Option Int} {k : Int} (h : nonzero? n = some k) : n = some k := by
  unfold nonzero? at h
  exact (Option.filter_eq_some_iff.mp h).1

/-- A warning has one diagnostic. -/
theorem tellsWarning_iff {settings : Settings} {w : CodeWarning} {told : Diagnostic} :
    TellsWarning settings w told ↔
      told = warningDiagnostic (if settings.fatalWarnings then .error else .warning) w := by
  have hposition : (nonzero? (some w.line)).map (fun l => (⟨l, none⟩ : Position)) =
      if w.line = 0 then none else some ⟨w.line, none⟩ := by
    unfold nonzero?
    by_cases hline : w.line = 0
    · simp [hline, Option.filter]
    · simp [hline, Option.filter]
  unfold warningDiagnostic
  rw [hposition]
  constructor
  · rintro ⟨hseverity, hmessage, hplace⟩
    cases told
    simp only at hseverity hmessage hplace
    rw [hseverity, hmessage, hplace]
  · rintro rfl
    exact ⟨rfl, rfl, rfl⟩

theorem tellsWarnings_iff {settings : Settings} {warnings : List CodeWarning}
    {told : List Diagnostic} :
    TellsWarnings settings warnings told ↔ told = warningDiagnostics settings warnings := by
  unfold TellsWarnings warningDiagnostics
  split
  · exact Iff.rfl
  · constructor
    · intro h
      have hmap : List.Forall₂ (· = ·) (warnings.map (warningDiagnostic
          (if settings.fatalWarnings then .error else .warning))) told :=
        List.forall₂_map_left_iff.mpr (h.imp fun w d hd => (tellsWarning_iff.mp hd).symm)
      rw [List.forall₂_eq_eq_eq] at hmap
      exact hmap.symm
    · rintro rfl
      rw [List.forall₂_map_right_iff, List.forall₂_same]
      intro w _
      exact tellsWarning_iff.mpr rfl

theorem tellsFault (fault : SourceFault) : TellsFault fault (sourceDiagnostic fault) := by
  unfold sourceDiagnostic
  refine ⟨rfl, ?_, ?_, ?_, ?_, ?_⟩
  · cases fault.message with
    | none => exact Or.inr ⟨rfl, rfl⟩
    | some message =>
      by_cases hempty : message = ""
      · exact Or.inr ⟨hempty, by simp [hempty]⟩
      · left
        simp [String.isEmpty_iff, hempty]
  · rw [Option.map_eq_none_iff]
    exact nonzero?_eq_none_iff
  · intro position hposition
    obtain ⟨line, hline, rfl⟩ := Option.map_eq_some_iff.mp hposition
    exact eq_some_of_nonzero? hline
  · intro position hposition
    obtain ⟨line, -, rfl⟩ := Option.map_eq_some_iff.mp hposition
    exact nonzero?_eq_none_iff
  · intro position hposition column hcolumn
    obtain ⟨line, -, rfl⟩ := Option.map_eq_some_iff.mp hposition
    exact eq_some_of_nonzero? hcolumn

/-! ## What comes of the code -/

/-- One file has been emitted: it is kept in memory if no directory is named, and otherwise it
stands where the path of the module below the directory leads to, and no other file is new or
changed. What is no regular file takes the data and keeps none of it. -/
inductive Emitted (settings : Settings) (data : Bytes) (d : Disk) : Option Artifacts → Disk → Prop
  | kept {artifacts : Artifacts} :
    settings.outputDirectory = none →
    artifacts.files = [(Points.ofString (modulePath settings.module), data)] →
    Emitted settings data d (some artifacts) d
  | written {directory : Path} {place : Place} {d' : Disk} :
    settings.outputDirectory = some directory →
    d'.Holds d.current (moduleFile directory settings.module).way.octets place data →
    Disk.Edit (d.SameFile place) (d'.OnWay (moduleFile directory settings.module).parent.way) d d' →
    Emitted settings data d none d'

/-- Nothing has been emitted, for the directory does not take the file. Of the disk no more has
changed than that directories have been made on the way. -/
def Refused (settings : Settings) (data : Bytes) (d : Disk) (fault : Fault) (d' : Disk) : Prop :=
  ∃ directory, settings.outputDirectory = some directory ∧
    emitBelow directory settings.module data d = (.error fault, d') ∧
    Disk.Edit (fun _ => False) (d'.OnWay (moduleFile directory settings.module).parent.way) d d'

theorem isNormal_outputDirectory {arguments : List String}
    (haccepted : Settings.ofArguments arguments = .ok settings) {directory : Path}
    (hdirectory : settings.outputDirectory = some directory) : directory.IsNormal := by
  obtain ⟨items, -, -, -, -, -, -, houtput⟩ := Settings.ofArguments_spec haccepted
  rw [houtput] at hdirectory
  obtain ⟨name, -, rfl⟩ := Option.map_eq_some_iff.mp hdirectory
  exact Path.isNormal_ofString name

theorem isModuleName_of_accepted {arguments : List String}
    (haccepted : Settings.ofArguments arguments = .ok settings) :
    Settings.isModuleName settings.module = true := by
  obtain ⟨-, -, -, -, -, -, hname, -⟩ := Settings.ofArguments_spec haccepted
  exact hname

/-- A report is emitted with one file, or not at all. -/
theorem emit_cases {arguments : List String}
    (haccepted : Settings.ofArguments arguments = .ok settings) (report : Report)
    (houtput : report.output = none) (data : Bytes) (d : Disk) :
    (∃ output d', Emitted settings data d output d' ∧
      emit settings report data d = (.ok { report with output := output }, d')) ∨
    ∃ fault d', Refused settings data d fault d' ∧
      emit settings report data d = (.error fault, d') := by
  have hmodule := isModuleName_of_accepted haccepted
  cases hdirectory : settings.outputDirectory with
  | none =>
    left
    refine ⟨some ⟨Artifacts.defaultName, [(Points.ofString (modulePath settings.module), data)]⟩,
      d, .kept hdirectory rfl, ?_⟩
    simp only [emit, hdirectory, emitInMemory_eq hmodule, Except.map]
  | some directory =>
    have hnormal := isNormal_outputDirectory haccepted hdirectory
    cases hemit : emitBelow directory settings.module data d with
    | mk r d' =>
      have hedit := edit_emitBelow hnormal hmodule hemit
      cases r with
      | ok =>
        left
        obtain ⟨place, hholds⟩ := holds_of_emitBelow hnormal hmodule hemit
        refine ⟨none, d', .written hdirectory hholds (hedit.mono ?_ fun _ _ => id), ?_⟩
        · rintro p ⟨-, q, hq, hsame⟩
          cases hholds.leads.symm.trans hq
          exact hsame
        · have hreport : { report with output := none } = report := by rw [← houtput]
          rw [hreport]
          exact (emit_ok_iff hdirectory report).mp hemit
      | error fault =>
        right
        refine ⟨fault, d', ⟨directory, hdirectory, hemit,
          hedit.mono ?_ fun _ _ => id⟩, ?_⟩
        · rintro p ⟨hok, -⟩
          cases hok
        · simp only [emit, hdirectory, hemit]

/-! ## A run -/

/-- The warnings are told as errors, and there are some. -/
def HoldsBack (settings : Settings) (warnings : List CodeWarning) : Prop :=
  settings.noWarnings = false ∧ settings.fatalWarnings = true ∧ warnings ≠ []

/-- What a run is to come to on a disk, when the code generator has done this with a source of this
size that was changed at this time. -/
inductive ComesTo (settings : Settings) (size : Nat) (modified : Int) (product : CodeProduct)
    (d : Disk) : Except Fault Report → Disk → Prop
  | emitted {code : Bytes} {told : List Diagnostic} {seconds : Int} {output : Option Artifacts}
      {d' : Disk} :
    product.result = .ok code → ¬ HoldsBack settings product.warnings →
    TellsWarnings settings product.warnings told →
    wholeSeconds (secondsOf modified) = .ok seconds →
    Emitted settings (file code size seconds) d output d' →
    ComesTo settings size modified product d (.ok ⟨told, output, some settings.source⟩) d'
  | unwritten {code : Bytes} {seconds : Int} {fault : Fault} {d' : Disk} :
    product.result = .ok code → ¬ HoldsBack settings product.warnings →
    wholeSeconds (secondsOf modified) = .ok seconds →
    Refused settings (file code size seconds) d fault d' →
    ComesTo settings size modified product d (.error fault) d'
  | heldBack {code : Bytes} {told : List Diagnostic} :
    product.result = .ok code → HoldsBack settings product.warnings →
    TellsWarnings settings product.warnings told →
    ComesTo settings size modified product d (.ok ⟨told, none, some settings.source⟩) d
  | faulty {fault : SourceFault} {told : List Diagnostic} {last : Diagnostic} :
    product.result = .error (.source fault) →
    TellsWarnings settings product.warnings told → TellsFault fault last →
    ComesTo settings size modified product d (.ok ⟨told ++ [last], none, some settings.source⟩) d
  | gaveUp {fault : Fault} :
    product.result = .error fault → fault.IsFailure →
    ComesTo settings size modified product d
      (.error (.invocation (.gaveUp settings.source fault.message))) d
  | passedOn {fault : Fault} :
    product.result = .error fault → (∀ f, fault ≠ .source f) → ¬ fault.IsFailure →
    ComesTo settings size modified product d (.error fault) d

theorem hasErrors_of_warnings (settings : Settings) (warnings : List CodeWarning)
    (output : Option Artifacts) (source : Option Path) :
    (⟨warningDiagnostics settings warnings, output, source⟩ : Report).hasErrors = true ↔
      HoldsBack settings warnings := by
  unfold Report.hasErrors HoldsBack warningDiagnostics
  cases settings.noWarnings with
  | true => simp
  | false =>
    cases settings.fatalWarnings with
    | true => cases warnings <;> simp [warningDiagnostic]
    | false => simp [warningDiagnostic]

/-- A fault of the code generator that is none of the source ends the run and leaves the disk as it
is. -/
theorem finish_of_fault {product : CodeProduct} {fault : Fault}
    (hresult : product.result = .error fault) (hsource : ∀ f, fault ≠ .source f)
    (source : Bytes) (modified : Int) (d : Disk) :
    finish settings source modified product d =
      (if fault.isValueFault || fault.isExhaustion then
        .error (.invocation (.gaveUp settings.source fault.message))
      else .error fault, d) := by
  have hconclude : conclude settings product =
      if fault.isValueFault || fault.isExhaustion then
        .error (.invocation (.gaveUp settings.source fault.message))
      else .error fault := by
    unfold conclude
    rw [hresult]
    cases fault with
    | source f => exact absurd rfl (hsource f)
    | _ => rfl
  unfold finish
  rw [hconclude]
  cases (fault.isValueFault || fault.isExhaustion) <;> rfl

/-- What is left to do after the code generator comes to what it should. -/
theorem comesTo_finish {arguments : List String}
    (haccepted : Settings.ofArguments arguments = .ok settings) (source : Bytes) {modified : Int}
    (htime : |modified| < 9223372036854775808 * 1000000000) (product : CodeProduct) (d : Disk) :
    ComesTo settings source.length modified product d
      (finish settings source modified product d).1
      (finish settings source modified product d).2 := by
  have htold : TellsWarnings settings product.warnings
      (warningDiagnostics settings product.warnings) := tellsWarnings_iff.mpr rfl
  cases hresult : product.result with
  | ok code =>
    have hconclude : conclude settings product =
        .ok (warningDiagnostics settings product.warnings, some code) := by
      simp only [conclude, hresult]
    by_cases hback : HoldsBack settings product.warnings
    · have herrors := (hasErrors_of_warnings settings product.warnings none
        (some settings.source)).mpr hback
      rw [finish_of_errors rfl rfl hconclude herrors]
      exact .heldBack hresult hback htold
    · have herrors := (hasErrors_of_warnings settings product.warnings none
        (some settings.source)).not.mpr hback
      obtain ⟨seconds, hseconds⟩ := exists_wholeSeconds htime
      rw [finish_of_code rfl rfl hconclude (Bool.eq_false_iff.mpr herrors) hseconds]
      rcases emit_cases haccepted ⟨warningDiagnostics settings product.warnings, none,
          some settings.source⟩ rfl (file code source.length seconds) d with
        ⟨output, d', hemitted, hemit⟩ | ⟨fault, d', hrefused, hemit⟩
      · rw [hemit]
        exact .emitted hresult hback htold hseconds hemitted
      · rw [hemit]
        exact .unwritten hresult hback hseconds hrefused
  | error fault =>
    by_cases hsource : ∃ f, fault = .source f
    · obtain ⟨f, rfl⟩ := hsource
      have hconclude : conclude settings product =
          .ok (warningDiagnostics settings product.warnings ++ [sourceDiagnostic f], none) := by
        simp only [conclude, hresult]
      have hfinish : finish settings source modified product d =
          (.ok ⟨warningDiagnostics settings product.warnings ++ [sourceDiagnostic f], none,
            some settings.source⟩, d) := by
        simp only [finish, hconclude]
      rw [hfinish]
      exact .faulty hresult htold (tellsFault f)
    · have hother : ∀ f, fault ≠ .source f := by
        intro f hf
        exact hsource ⟨f, hf⟩
      rw [finish_of_fault hresult hother]
      by_cases hfailure : fault.IsFailure
      · rw [if_pos (fault.isFailure_iff.mp hfailure)]
        exact .gaveUp hresult hfailure
      · rw [if_neg (fault.isFailure_iff.not.mp hfailure)]
        exact .passedOn hresult hother hfailure

/-- A report has errors exactly if nothing has been emitted. -/
theorem ComesTo.hasErrors_cases {size : Nat} {modified : Int} {product : CodeProduct}
    {report : Report} (h : ComesTo settings size modified product d (.ok report) d') :
    (report.hasErrors = true ∧ report.output = none ∧ d' = d) ∨
      report.hasErrors = false ∧ ∃ code seconds, product.result = .ok code ∧
        wholeSeconds (secondsOf modified) = .ok seconds ∧
        Emitted settings (file code size seconds) d report.output d' := by
  cases h with
  | emitted hresult hback htold hseconds hemitted =>
    right
    obtain rfl := tellsWarnings_iff.mp htold
    refine ⟨?_, _, _, hresult, hseconds, hemitted⟩
    rw [Bool.eq_false_iff]
    exact (hasErrors_of_warnings settings product.warnings _ _).not.mpr hback
  | heldBack hresult hback htold =>
    left
    obtain rfl := tellsWarnings_iff.mp htold
    exact ⟨(hasErrors_of_warnings settings product.warnings _ _).mpr hback, rfl, rfl⟩
  | faulty hresult htold hlast =>
    left
    refine ⟨?_, rfl, rfl⟩
    simp [Report.hasErrors, hlast.severity]

/-- A run whose source can be read comes to what the code generator has done. Warnings are told in
the order in which they came up, as errors or as warnings, or none of them; a fault in the source
is told after them; faults of some classes are told as failures of the compiler and other faults go
on; and in these cases nothing changes on the disk. A report without errors comes with one file,
which is in memory or where the path of the module below the directory leads to, and holds the
code behind the header of this source; a report with errors comes with none. -/
theorem a_run_comes_to_what_was_done_with_the_source (generate : CodeGenerator τ)
    {arguments : List String} (haccepted : Settings.ofArguments arguments = .ok settings)
    {s : Site τ} {source : Bytes} {modified : Int}
    (hread : (readSource settings.source s.disk).1 = .ok (source, modified))
    (htime : |modified| < 9223372036854775808 * 1000000000) {product : CodeProduct} {other : τ}
    (hproduct : generate ⟨source, settings.source.text, settings.optimize⟩ s.other =
      (product, other)) :
    ∃ r d', runOnSite generate arguments s = (r, ⟨d', other⟩) ∧
      ComesTo settings source.length modified product s.disk r d' ∧
      ∀ report, r = .ok report →
        (report.hasErrors = true ∧ report.output = none ∧ d' = s.disk) ∨
        report.hasErrors = false ∧ ∃ code seconds, product.result = .ok code ∧
          wholeSeconds (secondsOf modified) = .ok seconds ∧
          Emitted settings (file code source.length seconds) s.disk report.output d' := by
  have hcomes := comesTo_finish haccepted source htime product s.disk
  refine ⟨_, _, runOnSite_eq generate haccepted hread hproduct, hcomes, ?_⟩
  intro report hreport
  rw [hreport] at hcomes
  exact hcomes.hasErrors_cases

/-- Two warnings alike are told twice, and the module is written below the directory. -/
theorem a_module_with_two_warnings_is_written :
    ∃ (generate : CodeGenerator Unit) (settings : Settings) (report : Report) (d : Disk),
      Settings.ofArguments ["-d", "out", "m.py"] = .ok settings ∧
      runOnSite generate ["-d", "out", "m.py"] ⟨sampleDisk, ()⟩ = (.ok report, ⟨d, ()⟩) ∧
      report.diagnostics = [⟨.warning, "w", some ⟨2, none⟩⟩, ⟨.warning, "w", some ⟨2, none⟩⟩] ∧
      Emitted settings (file [7] 6 0) sampleDisk report.output d := by
  let generate : CodeGenerator Unit := fun _ u => (⟨[⟨"w", 2⟩, ⟨"w", 2⟩], .ok [7]⟩, u)
  have haccepted : Settings.ofArguments ["-d", "out", "m.py"] =
      .ok ⟨Path.ofString "m.py", some (Path.ofString "out"), "", "m", -1, false, false⟩ := by
    decide +kernel
  have hread : (readSource (Path.ofString "m.py") sampleDisk).1 =
      .ok (Text.Utf8.encodeString "x = 1\n", 0) := by decide +kernel
  obtain ⟨r, d, hrun, -, hreported⟩ := a_run_comes_to_what_was_done_with_the_source
    generate haccepted (s := ⟨sampleDisk, ()⟩) hread (by decide) rfl
  have htold : (runOnSite generate ["-d", "out", "m.py"] ⟨sampleDisk, ()⟩).1.toOption =
      some ⟨[⟨.warning, "w", some ⟨2, none⟩⟩, ⟨.warning, "w", some ⟨2, none⟩⟩], none,
        some (Path.ofString "m.py")⟩ := by decide +kernel
  rw [hrun] at htold
  cases r with
  | error fault => cases htold
  | ok report =>
    cases htold
    rcases hreported _ rfl with ⟨herrors, -⟩ | ⟨-, code, seconds, hcode, hseconds, hemitted⟩
    · exact absurd herrors (by decide)
    · have hzero : wholeSeconds (secondsOf 0) = .ok 0 := by decide +kernel
      cases hcode
      cases hzero.symm.trans hseconds
      exact ⟨generate, _, _, d, haccepted, hrun, rfl, hemitted⟩

/-- A disk like the other one, with a device where the module is to be written. -/
def deviceDisk : Disk where
  root := .directory 493 0 [
    (Octets.ofString "m.py", .file (Text.Utf8.encodeString "x = 1\n") 420 0 0),
    (Octets.ofString "out", .directory 493 0 [(Octets.ofString "m.pyc", .device .null)])]
  current := []
  scratch := []
  scratchCount := 0
  groupCount := 0
  now := 0

/-- A fault with a column and no line is told without a column, for a column is part of a position;
and a device in the place of the module takes the code and keeps none of it, so that a report
without errors comes with no file. -/
theorem a_column_and_a_module_can_be_lost :
    runOnSite (fun _ u => (⟨[], .error (.source ⟨some "bad", some "f.py", none, some 3⟩)⟩, u))
        ["m.py"] ⟨sampleDisk, ()⟩ =
      (.ok ⟨[⟨.error, "bad", none⟩], none, some (Path.ofString "m.py")⟩, ⟨sampleDisk, ()⟩) ∧
    ∃ d, runOnSite (fun _ u => (⟨[], .ok [7]⟩, u)) ["-d", "out", "m.py"] ⟨deviceDisk, ()⟩ =
        (.ok ⟨[], none, some (Path.ofString "m.py")⟩, ⟨d, ()⟩) ∧
      (d.readFile "out/m.pyc".toList).toOption.map Prod.fst = some [] := by
  refine ⟨?_, ?_⟩
  · exact Prod.ext (by decide +kernel) rfl
  · exact ⟨_, Prod.ext (by decide +kernel) rfl, by decide +kernel⟩

end Bytecode

end Worksheet
