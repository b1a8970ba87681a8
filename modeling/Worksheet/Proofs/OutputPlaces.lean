-- Bytecode in memory and bytecode below a directory. The same run of the compiler keeps its file in
-- one or writes it into the other, and whoever exports what was kept in memory finds on the disk
-- what the other run would have written.
import Mathlib.Algebra.Order.Ring.Abs
import Worksheet.Proofs.CommandLine
import Worksheet.Proofs.FileTimes
import Worksheet.Proofs.ModuleFiles
import Worksheet.Proofs.StepwiseRuns

namespace Worksheet

open Text (Bytes Octets Points)

/-! ## Characters of code zero -/

/-- A character below 0x80 is an octet of its own. -/
theorem Text.Octets.mem_ofString {c : Char} (hc : c.toNat < 0x80) {s : String} :
    c ∈ ofString s ↔ c ∈ s.toList := by
  refine ⟨mem_of_mem_ofString hc, fun hmem => ?_⟩
  obtain ⟨before, after, hs⟩ := List.append_of_mem hmem
  have hcut : s = String.ofList before ++ String.ofList [c] ++ String.ofList after := by
    rw [← String.ofList_append, ← String.ofList_append, List.append_assoc, List.singleton_append,
      ← hs, String.ofList_toList]
  have hone : ofString (String.ofList [c]) = [c] := ofString_of_ascii (by simpa using hc)
  rw [hcut, ofString_append, ofString_append, hone]
  simp

/-- The text of a path holds a character of code zero exactly if one of its components does. -/
theorem Disk.guardPath_text (p : Path) :
    Disk.guardPath p.text = if p.way.hasNul then .error (.value .nulByte) else .ok () := by
  have hpart : ∀ part : String, Char.ofNat 0 ∈ Octets.ofString part ↔ Char.ofNat 0 ∈ part.toList :=
    fun part => Text.Octets.mem_ofString (by decide)
  have hanchor : Char.ofNat 0 ∉ p.anchor.text.toList := by cases p.anchor <;> decide
  have hsame : p.text.toList.contains (Char.ofNat 0) = p.way.hasNul := by
    rw [Bool.eq_iff_iff]
    unfold Path.text Path.way Way.hasNul
    by_cases hpoint : p.anchor = .current ∧ p.parts = []
    · rw [if_pos hpoint, hpoint.2]
      exact iff_of_false (by decide) (by simp)
    · have hslash : Char.ofNat 0 ≠ '/' := by decide
      have hsep : ("/" : String).toList = ['/'] := rfl
      rw [if_neg hpoint, String.toList_append, String.toList_intercalate, hsep]
      simp [hanchor, Text.mem_intercalate_of_ne hslash, hpart]
  unfold Disk.guardPath
  rw [hsame]

/-! ## Writing a file -/

/-- Two pieces of work on the disk that leave it alike, and of which both succeed or none. -/
def Alike {ε ε' : Type} (r : Except ε Unit × Disk) (r' : Except ε' Unit × Disk) : Prop :=
  r.2 = r'.2 ∧ (r.1 = .ok () ↔ r'.1 = .ok ())

theorem Alike.ok_iff {ε ε' : Type} {r : Except ε Unit × Disk} {r' : Except ε' Unit × Disk}
    (h : Alike r r') (d : Disk) : r = (.ok (), d) ↔ r' = (.ok (), d) := by
  obtain ⟨result, disk⟩ := r
  obtain ⟨result', disk'⟩ := r'
  obtain ⟨hdisk, hresult⟩ := h
  simp only at hdisk hresult
  rw [Prod.mk.injEq, Prod.mk.injEq, hdisk, hresult]

namespace Bytecode

theorem toldOf_eq_ok {α : Type} {target : Path} {r : Except Fault α} {a : α} :
    toldOf target r = .ok a ↔ r = .ok a := by
  cases r with
  | ok b => rfl
  | error e => exact iff_of_false (by cases e <;> exact nofun) nofun

/-- A file is written below a directory as it is exported to its way. -/
theorem exportFile_alike (directory : Path) (module : String) (data : Bytes) (d : Disk) :
    Alike (Artifacts.exportFile (moduleFile directory module).way data d)
      (emitBelow directory module data d) := by
  unfold emitBelow
  generalize moduleFile directory module = target
  have hparent : target.parent.way = target.way.parent := by
    unfold Path.way Path.parent Way.parent
    rw [List.map_dropLast]
  unfold Artifacts.exportFile Disk.ensurePath
  dsimp only
  rw [Disk.guardPath_text, hparent]
  by_cases hnul : target.way.parent.hasNul = true
  · rw [if_pos hnul, if_pos hnul]
    exact ⟨rfl, by simp [toldOf_eq_ok]⟩
  rw [if_neg hnul, if_neg hnul]
  cases d.makeWay target.way.parent with
  | mk r d' =>
    cases r with
    | error e => cases e <;> exact ⟨rfl, by simp [toldOf_eq_ok]⟩
    | ok =>
      dsimp only
      unfold Artifacts.exportInto Disk.writeBytes
      rw [Disk.guardPath_text]
      by_cases hname : target.way.hasNul = true
      · rw [if_pos hname, if_pos hname]
        exact ⟨rfl, by simp [toldOf_eq_ok]⟩
      rw [if_neg hname, if_neg hname]
      dsimp only
      cases d'.openToWrite d'.current Mode.usualMask true target.way.octets with
      | error e => exact ⟨rfl, by simp [toldOf_eq_ok]⟩
      | ok opened =>
        obtain ⟨place, d''⟩ := opened
        dsimp only
        cases d''.fill place data <;> exact ⟨rfl, by simp [toldOf_eq_ok]⟩

end Bytecode

/-- To export one file is to write it. -/
theorem Artifacts.exportTo_singleton (name : String) (k : Points) (data : Bytes) (root : Path)
    (d d' : Disk) : (⟨name, [(k, data)]⟩ : Artifacts).exportTo root d = (.ok (), d') ↔
      exportFile (target root k) data d = (.ok (), d') := by
  unfold exportTo
  simp only [exportFiles]
  cases exportFile (target root k) data d with
  | mk r d'' => cases r <;> simp

/-! ## A directory in front of the other arguments -/

namespace Settings

theorem lastValue?_cons_ne {o o' : SettingsOption} (h : o' ≠ o) (value : String)
    (items : List SettingsItem) :
    lastValue? o (.option o' value :: items) = lastValue? o items := by
  unfold lastValue?
  rw [List.filterMap_cons]
  simp [h]

theorem lastValue?_cons_of_none {o : SettingsOption} (value : String)
    {items : List SettingsItem} (h : lastValue? o items = none) :
    lastValue? o (.option o value :: items) = some value := by
  have happend := lastValue?_append o [.option o value] items
  rw [h, Option.none_or] at happend
  rw [← List.singleton_append, happend]
  simp [lastValue?]

/-- A directory that is named first counts if no other one is named, and changes nothing else. -/
theorem ofArguments_directory {arguments : List String} {settings : Settings}
    (h : ofArguments arguments = .ok settings) (hnone : settings.outputDirectory = none)
    (directory : String) : ofArguments ("-d" :: directory :: arguments) =
      .ok { settings with outputDirectory := some (Path.ofString directory) } := by
  unfold ofArguments at h ⊢
  rw [readItems_option "-d" rfl rfl]
  cases hitems : readItems arguments with
  | error e => simp [hitems] at h
  | ok items =>
    rw [hitems] at h
    dsimp only at h
    unfold ofItems at h
    split at h
    · next word hsources =>
      cases hlevel : readOptimize items with
      | error e => simp [hlevel] at h
      | ok level =>
        simp only [hlevel] at h
        split at h
        · next hname =>
          cases h
          have hunnamed : lastValue? .outputDirectory items = none := by simpa using hnone
          have hsources' : sources (.option .outputDirectory directory :: items) = [word] :=
            hsources
          have hlevel' :
              readOptimize (.option .outputDirectory directory :: items) = .ok level := by
            unfold readOptimize
            rw [lastValue?_cons_ne (by decide)]
            exact hlevel
          simp only [Except.map, ofItems, hsources', hlevel',
            lastValue?_cons_ne (by decide : SettingsOption.outputDirectory ≠ .module),
            lastValue?_cons_ne (by decide : SettingsOption.outputDirectory ≠ .classpath),
            lastValue?_cons_of_none directory hunnamed, hname, if_true, Option.map_some,
            List.contains_cons]
          rfl
        · cases h
    · cases h

end Settings

/-! ## Two runs -/

/-- The code generator has accepted the source, or has told a fault of it. -/
def CodeProduct.IsVerdict (p : CodeProduct) : Prop :=
  (∃ code, p.result = .ok code) ∨ ∃ fault, p.result = .error (.source fault)

namespace Bytecode

variable {τ : Type}

/-- A run of the compiler on a site, with a code generator that leaves the disk alone. -/
def runOnSite (generate : CodeGenerator τ) (arguments : List String) : Act (Site τ) Report :=
  run (fun request s =>
      ((generate request s.other).1, { s with other := (generate request s.other).2 }))
    Site.disk (fun d s => { s with disk := d }) arguments

/-- A run with a source that can be read: all that it does to the disk is to emit its file. -/
theorem runOnSite_eq (generate : CodeGenerator τ) {arguments : List String} {settings : Settings}
    (haccepted : Settings.ofArguments arguments = .ok settings) {s : Site τ} {source : Bytes}
    {modified : Int} (hread : (readSource settings.source s.disk).1 = .ok (source, modified))
    {product : CodeProduct} {other : τ}
    (hproduct : generate ⟨source, settings.source.text, settings.optimize⟩ s.other =
      (product, other)) :
    runOnSite generate arguments s =
      ((finish settings source modified product s.disk).1,
        ⟨(finish settings source modified product s.disk).2, other⟩) := by
  have hsame := Assignment.readSource_snd settings.source s.disk
  unfold runOnSite run
  simp only [haccepted, Act.within, Act.run]
  cases hfound : readSource settings.source s.disk with
  | mk r d =>
    rw [hfound] at hread hsame
    simp only at hread hsame
    subst hread hsame
    simp only [hproduct]

/-- The report of a run without its output. Only a source that has been accepted leaves it without
errors. -/
theorem exists_report (settings : Settings) {p : CodeProduct} (h : p.IsVerdict) :
    ∃ (report : Report) (code : Option Bytes),
      report.output = none ∧ report.sourcePath = some settings.source ∧
      (∀ directory, conclude { settings with outputDirectory := directory } p =
        .ok (report.diagnostics, code)) ∧
      (report.hasErrors = false → ∃ c, code = some c ∧ p.result = .ok c) := by
  rcases h with ⟨code, hcode⟩ | ⟨fault, hfault⟩
  · refine ⟨⟨warningDiagnostics settings p.warnings, none, some settings.source⟩, some code, rfl,
      rfl, fun directory => ?_, fun _ => ⟨code, rfl, hcode⟩⟩
    simp only [conclude, hcode]
    rfl
  · refine ⟨⟨warningDiagnostics settings p.warnings ++ [sourceDiagnostic fault], none,
      some settings.source⟩, none, rfl, rfl, fun directory => ?_, fun hnone => ?_⟩
    · simp only [conclude, hfault]
      rfl
    · simp [Report.hasErrors, sourceDiagnostic] at hnone

/-- A run whose report has errors emits nothing. -/
theorem finish_of_errors {settings : Settings} {p : CodeProduct} {report : Report}
    {code : Option Bytes} (houtput : report.output = none)
    (hpath : report.sourcePath = some settings.source)
    (hconclude : conclude settings p = .ok (report.diagnostics, code))
    (herrors : report.hasErrors = true) (source : Bytes) (modified : Int) (d : Disk) :
    finish settings source modified p d = (.ok report, d) := by
  have hreport : (⟨report.diagnostics, none, some settings.source⟩ : Report) = report := by
    rw [← houtput, ← hpath]
  unfold finish
  simp only [hconclude, hreport]
  cases code with
  | none => rfl
  | some c => simp only [herrors, if_true]

/-- A run whose report has none emits the code behind its header. -/
theorem finish_of_code {settings : Settings} {p : CodeProduct} {report : Report} {code : Bytes}
    (houtput : report.output = none) (hpath : report.sourcePath = some settings.source)
    (hconclude : conclude settings p = .ok (report.diagnostics, some code))
    (herrors : report.hasErrors = false) {source : Bytes} {modified seconds : Int}
    (hseconds : wholeSeconds (secondsOf modified) = .ok seconds) (d : Disk) :
    finish settings source modified p d =
      emit settings report (file code source.length seconds) d := by
  have hreport : (⟨report.diagnostics, none, some settings.source⟩ : Report) = report := by
    rw [← houtput, ← hpath]
  unfold finish fileAt
  simp only [hconclude, hreport, herrors, Bool.false_eq_true, if_false, hseconds, Except.map]

/-- A run with a directory ends well exactly if the file is written below the directory. -/
theorem emit_ok_iff {settings : Settings} {directory : Path}
    (hdirectory : settings.outputDirectory = some directory) (report : Report) {data : Bytes}
    {onto d : Disk} :
    emitBelow directory settings.module data onto = (.ok (), d) ↔
      emit settings report data onto = (.ok report, d) := by
  simp only [emit, hdirectory]
  cases emitBelow directory settings.module data onto with
  | mk r d' =>
    cases r with
    | error e => exact iff_of_false nofun nofun
    | ok =>
      constructor
      · rintro ⟨⟩
        rfl
      · rintro ⟨⟩
        rfl

/-- Two runs with the same arguments, the second one with a directory in front of them, on disks
where they read the same source, and with the same verdict of the code generator. Both reports
have the same diagnostics and the same source. The first run leaves its disk as it is. If there are
errors, neither run has an output; otherwise the first one keeps the file of the module in memory,
and to export it below the directory, onto the disk of the second run, comes to what the second run
does there. -/
theorem memory_is_exported_to_what_a_directory_holds (generate : CodeGenerator τ)
    {arguments : List String} {settings : Settings}
    (haccepted : Settings.ofArguments arguments = .ok settings)
    (hnone : settings.outputDirectory = none) (directory : String) {s : Site τ} {onto : Disk}
    {source : Bytes} {modified : Int}
    (hread : (readSource settings.source s.disk).1 = .ok (source, modified))
    (hagain : (readSource settings.source onto).1 = .ok (source, modified))
    (htime : |modified| < 9223372036854775808 * 1000000000) {product : CodeProduct} {other : τ}
    (hproduct : generate ⟨source, settings.source.text, settings.optimize⟩ s.other =
      (product, other))
    (hverdict : product.IsVerdict) :
    ∃ report : Report,
      runOnSite generate arguments s = (.ok report, ⟨s.disk, other⟩) ∧
      report.sourcePath = some settings.source ∧
      (report.hasErrors = true → report.output = none ∧
        runOnSite generate ("-d" :: directory :: arguments) ⟨onto, s.other⟩ =
          (.ok report, ⟨onto, other⟩)) ∧
      (report.hasErrors = false → ∃ (artifacts : Artifacts) (code : Bytes) (seconds : Int),
        report.output = some artifacts ∧ product.result = .ok code ∧
        wholeSeconds (secondsOf modified) = .ok seconds ∧
        artifacts.files = [(Points.ofString (modulePath settings.module),
          file code source.length seconds)] ∧
        ∀ d, artifacts.exportTo (Path.ofString directory) onto = (.ok (), d) ↔
          runOnSite generate ("-d" :: directory :: arguments) ⟨onto, s.other⟩ =
            (.ok { report with output := none }, ⟨d, other⟩)) := by
  obtain ⟨report, code, houtput, hpath, hconclude, hcode⟩ := exists_report settings hverdict
  obtain ⟨below, hsource, hmodule, hoptimize, hdirectory, hbelow, hconcludeSecond⟩ :
      ∃ below : Settings, below.source = settings.source ∧ below.module = settings.module ∧
        below.optimize = settings.optimize ∧
        below.outputDirectory = some (Path.ofString directory) ∧
        Settings.ofArguments ("-d" :: directory :: arguments) = .ok below ∧
        conclude below product = .ok (report.diagnostics, code) :=
    ⟨{ settings with outputDirectory := some (Path.ofString directory) }, rfl, rfl, rfl, rfl,
      Settings.ofArguments_directory haccepted hnone directory, hconclude _⟩
  have hconcludeFirst : conclude settings product = .ok (report.diagnostics, code) := by
    rw [← hconclude none, ← hnone]
  have hfirst := runOnSite_eq generate haccepted hread hproduct
  have hproductBelow : generate ⟨source, below.source.text, below.optimize⟩ s.other =
      (product, other) := by
    rw [hsource, hoptimize, hproduct]
  have hsecond := runOnSite_eq generate (s := ⟨onto, s.other⟩) hbelow (hsource ▸ hagain)
    hproductBelow
  rw [← hsource] at hpath
  cases herrors : report.hasErrors with
  | true =>
    refine ⟨report, ?_, hsource ▸ hpath, fun _ => ⟨houtput, ?_⟩, fun h => ?_⟩
    · rw [hfirst, finish_of_errors houtput (hsource ▸ hpath) hconcludeFirst herrors]
    · rw [hsecond, finish_of_errors houtput hpath hconcludeSecond herrors]
    · rw [herrors] at h
      cases h
  | false =>
    obtain ⟨c, rfl, hresult⟩ := hcode herrors
    obtain ⟨seconds, hseconds⟩ := exists_wholeSeconds htime
    obtain ⟨-, -, -, -, -, -, hname, -⟩ := Settings.ofArguments_spec haccepted
    have hkept := emitInMemory_eq hname (file c source.length seconds)
    refine ⟨{ report with output := some ⟨Artifacts.defaultName,
      [(Points.ofString (modulePath settings.module), file c source.length seconds)]⟩ }, ?_,
      hsource ▸ hpath, fun h => ?_,
      fun _ => ⟨_, c, seconds, rfl, hresult, hseconds, rfl, fun d => ?_⟩⟩
    · rw [hfirst, finish_of_code houtput (hsource ▸ hpath) hconcludeFirst herrors hseconds]
      simp only [emit, hnone, hkept, Except.map]
    · rw [show report.hasErrors = true from h] at herrors
      cases herrors
    · have hreport : { report with output := none } = report := by rw [← houtput]
      have halike := (exportFile_alike (Path.ofString directory) settings.module
        (file c source.length seconds) onto).ok_iff d
      rw [hsecond, finish_of_code houtput hpath hconcludeSecond herrors hseconds,
        Artifacts.exportTo_singleton, Artifacts.target_modulePath hname, halike, hreport,
        ← hmodule, emit_ok_iff hdirectory report, Prod.mk.injEq, Site.mk.injEq, and_iff_left rfl]
      exact Prod.ext_iff

/-- A disk with a source and an empty directory. -/
def sampleDisk : Disk where
  root := .directory 493 0 [
    (Octets.ofString "m.py", .file (Text.Utf8.encodeString "x = 1\n") 420 0 0),
    (Octets.ofString "out", .directory 493 0 [])]
  current := []
  scratch := []
  scratchCount := 0
  groupCount := 0
  now := 0

/-- A run in memory and a run with a directory, which holds the same file in the end. -/
theorem a_module_is_kept_and_written :
    ∃ (generate : CodeGenerator Unit) (report : Report) (artifacts : Artifacts) (d : Disk),
      runOnSite generate ["m.py"] ⟨sampleDisk, ()⟩ = (.ok report, ⟨sampleDisk, ()⟩) ∧
      report.output = some artifacts ∧
      artifacts.exportTo (Path.ofString "out") sampleDisk = (.ok (), d) ∧
      runOnSite generate ["-d", "out", "m.py"] ⟨sampleDisk, ()⟩ =
        (.ok { report with output := none }, ⟨d, ()⟩) ∧
      (d.readFile "out/m.pyc".toList).toOption.map Prod.fst = some (file [7] 6 0) := by
  have hread : (readSource (Path.ofString "m.py") sampleDisk).1 =
      .ok (Text.Utf8.encodeString "x = 1\n", 0) := by decide +kernel
  have haccepted : Settings.ofArguments ["m.py"] =
      .ok ⟨Path.ofString "m.py", none, "", "m", -1, false, false⟩ := by decide +kernel
  obtain ⟨report, hrun, -, -, houtput⟩ := memory_is_exported_to_what_a_directory_holds
    (fun _ u => (⟨[], .ok [7]⟩, u)) haccepted rfl "out" (s := ⟨sampleDisk, ()⟩) hread hread
    (by decide) rfl (.inl ⟨[7], rfl⟩)
  have hnoErrors : ((runOnSite (fun _ u => (⟨[], .ok [7]⟩, u)) ["m.py"]
      ⟨sampleDisk, ()⟩).1.toOption.map Report.hasErrors) = some false := by decide +kernel
  rw [hrun] at hnoErrors
  obtain ⟨artifacts, code, seconds, hkept, hcode, hseconds, hfiles, hsame⟩ :=
    houtput (Option.some.inj hnoErrors)
  have hzero : wholeSeconds (secondsOf 0) = .ok 0 := by decide +kernel
  cases hcode
  cases hzero.symm.trans hseconds
  have hexport : Artifacts.exportFiles (Path.ofString "out")
      [(Points.ofString (modulePath "m"), file [7] 6 0)] sampleDisk =
        (.ok (), (Artifacts.exportFiles (Path.ofString "out")
          [(Points.ofString (modulePath "m"), file [7] 6 0)] sampleDisk).2) :=
    Prod.ext (by decide +kernel) rfl
  rw [← show artifacts.files = [(Points.ofString (modulePath "m"), file [7] 6 0)] from hfiles]
    at hexport
  refine ⟨_, report, artifacts, _, hrun, hkept, hexport, (hsame _).mp hexport, ?_⟩
  rw [hfiles]
  decide +kernel

end Bytecode

end Worksheet
