-- Faults that escape from a run of `javac`. A run is told, by a report or as a failure of the
-- invocation, unless the compiler has written what is no text or has too long a number in it, or
-- has left files that cannot be taken into memory or taken away.
import Worksheet.Proofs.EchoedLines
import Worksheet.Proofs.JavacRuns
import Worksheet.Proofs.KeptTrees
import Worksheet.Proofs.WholeTexts

namespace Worksheet

open Text (Bytes)
open Text.Utf8 (encodeChars encodeChars_inj decode_eq_ok_iff decode_encodeChars)

/-! ## Loads -/

namespace Artifacts

variable {a a' : Artifacts} {d : Disk} {root : Path} {base : Place} {n : Node} {name : String}

/-- Files that have been written have accepted paths. -/
theorem key?_of_writePlaces {files : List (Place × Bytes)} (h : a.writePlaces files = .ok a') :
    ∀ l ∈ files, (key? (placeText l.1)).isSome = true := by
  induction files generalizing a with
  | nil => exact fun l hl => nomatch hl
  | cons l rest ih =>
    unfold writePlaces at h ih
    rw [List.foldlM_cons] at h
    cases hkey : key? (placeText l.1) with
    | none =>
      rw [write_of_no_key hkey] at h
      cases h
    | some k =>
      rw [write_of_key hkey] at h
      rintro l' hl'
      rcases List.mem_cons.mp hl' with rfl | hl'
      · exact Option.isSome_of_eq_some hkey
      · exact ih h l' hl'

/-- A tree comes into memory exactly when it can be loaded and the paths of its files are
accepted. -/
theorem load_eq_ok_iff (horderly : n.Orderly) (hleads : d.LeadsTo root base)
    (hbase : d.node? base = some n) : (∃ a, load d root name = .ok a) ↔
      Loadable root n ∧
        ∀ below data, n.HasFile below data → (key? (placeText below)).isSome = true := by
  constructor
  · rintro ⟨a, hload⟩
    have hloadable := loadable_of_load horderly hleads hbase hload
    refine ⟨hloadable, fun below data hfile => ?_⟩
    rw [hloadable.load_eq hleads hbase] at hload
    have hlisted : (below, data) ∈ n.listedFiles :=
      (horderly.mem_listedFiles_iff hloadable.directory hloadable.span_lt).mpr hfile
    exact key?_of_writePlaces hload _ hlisted
  · rintro ⟨hloadable, hkeys⟩
    rw [hloadable.load_eq hleads hbase]
    refine ⟨_, writePlaces_eq (fun l hl => ?_) _⟩
    exact hkeys l.1 l.2
      ((horderly.mem_listedFiles_iff hloadable.directory hloadable.span_lt).mp hl)

end Artifacts

/-! ## Diagnostics -/

namespace JavacOutput

theorem value_of_readLine {p : Progress} {cs : List Char} {fault : Fault}
    (h : p.readLine cs = .error fault) : ∃ cause, fault = .value cause := by
  unfold Progress.readLine at h
  split at h
  · split at h
    · cases h
    · cases h
      exact ⟨_, rfl⟩
    · cases h
  · cases h
  · cases h
  · cases h
  · cases h

theorem value_of_readLines {lines : List (List Char)} {p : Progress} {fault : Fault}
    (h : Progress.readLines lines p = .error fault) : ∃ cause, fault = .value cause := by
  induction lines generalizing p with
  | nil => cases h
  | cons cs rest ih =>
    unfold Progress.readLines at h
    cases hline : p.readLine cs with
    | error e =>
      rw [hline] at h
      obtain rfl := Except.error.inj h
      exact value_of_readLine hline
    | ok p' =>
      rw [hline] at h
      exact ih h

/-- Diagnostics are told, or a value was wrong. -/
theorem value_of_diagnostics {output : List Char} {fault : Fault}
    (h : diagnostics output = .error fault) : ∃ cause, fault = .value cause := by
  unfold diagnostics at h
  cases hlines : Progress.readLines (Text.splitLines output) ⟨[], none⟩ with
  | ok p =>
    rw [hlines] at h
    cases h
  | error e =>
    rw [hlines] at h
    obtain rfl := Except.error.inj h
    exact value_of_readLines hlines

end JavacOutput

/-! ## What can be told -/

namespace Javac

/-- There is a report, or the invocation of the compiler has failed. -/
def Told (result : Except Fault Report) : Prop :=
  (∃ report, result = .ok report) ∨ ∃ cause, result = .error (.invocation cause)

/-- A compiler whose end can be told: it could not be started or was stopped; or what it has written
is UTF-8, and in what it tells of a source no line number is too long. -/
inductive Speaks : ToolEnd → Prop
  | timedOut : Speaks .timedOut
  | notStarted (fault : SystemFault) : Speaks (.failed (.system fault))
  | refused (cause : InvocationCause) : Speaks (.failed (.invocation cause))
  | finished {exitCode : Int} {stdout stderr : Bytes} {out err : List Char} :
    stdout = encodeChars out → stderr = encodeChars err →
      (exitCode = 0 ∨ exitCode = 1 → JavacOutput.isReadable (Text.unifyLineEnds err) = true) →
      Speaks (.finished exitCode stdout stderr)

/-- A compiler that has found no error, by its exit code and by what it tells. -/
def Clean (ended : ToolEnd) : Prop :=
  ∃ out err found, ended = .finished 0 (encodeChars out) (encodeChars err) ∧
    JavacOutput.diagnostics (Text.unifyLineEnds err) = .ok found ∧
    ∀ d ∈ found, d.severity ≠ .error

variable {exitCode : Int} {stdout stderr : Bytes} {out err : List Char} {ended : ToolEnd}
  {source : Path} {result : Except Fault Report}

theorem told_ok (report : Report) : Told (.ok report) := .inl ⟨report, rfl⟩

theorem told_error_iff {fault : Fault} :
    Told (.error fault) ↔ ∃ cause, fault = .invocation cause := by
  constructor
  · rintro (⟨report, h⟩ | ⟨cause, h⟩)
    · cases h
    · exact ⟨cause, Except.error.inj h⟩
  · rintro ⟨cause, rfl⟩
    exact .inr ⟨cause, rfl⟩

theorem decodeOutput_whole (cs : List Char) :
    decodeOutput (encodeChars cs) = .ok (Text.unifyLineEnds cs) := by
  unfold decodeOutput
  rw [decode_encodeChars]

/-- What is no text is a fault of its own. -/
theorem decodeOutput_cases (bytes : Bytes) :
    (∃ cs, bytes = encodeChars cs) ∨ ∃ bad, decodeOutput bytes = .error (.undecodable bad) ∧
      ∀ cs, bytes ≠ encodeChars cs := by
  cases hdecode : Text.Utf8.decode bytes with
  | ok cs => exact .inl ⟨cs, decode_eq_ok_iff.mp hdecode⟩
  | error bad =>
    refine .inr ⟨bad, ?_, fun cs hcs => ?_⟩
    · unfold decodeOutput
      rw [hdecode]
    · rw [decode_eq_ok_iff.mpr hcs] at hdecode
      cases hdecode

theorem reportOf_of_not_ordinary (source : Path) (out err : List Char)
    (hcode : ¬(exitCode = 0 ∨ exitCode = 1)) : reportOf source exitCode out err =
      .error (.invocation (.failed exitCode (detail out err))) := by
  have hordinary : isOrdinary exitCode = false := by
    unfold isOrdinary
    simpa using hcode
  unfold reportOf
  rw [hordinary]
  rfl

theorem told_reportOf_iff : Told (reportOf source exitCode out err) ↔
    (exitCode = 0 ∨ exitCode = 1 → JavacOutput.isReadable err = true) := by
  by_cases hcode : exitCode = 0 ∨ exitCode = 1
  · cases hread : JavacOutput.diagnostics err with
    | ok found =>
      rw [reportOf_of_ordinary hcode hread]
      exact iff_of_true (told_ok _) fun _ => JavacOutput.isReadable_of_diagnostics hread
    | error fault =>
      obtain ⟨cause, rfl⟩ := JavacOutput.value_of_diagnostics hread
      have hfault : reportOf source exitCode out err = .error (.value cause) := by
        have hordinary : isOrdinary exitCode = true := by
          unfold isOrdinary
          simpa using hcode
        unfold reportOf
        rw [hordinary, hread]
        rfl
      rw [hfault, told_error_iff]
      refine iff_of_false (fun ⟨_, h⟩ => nomatch h) fun hreadable => ?_
      rw [JavacOutput.diagnostics_eq_told (hreadable hcode)] at hread
      cases hread
  · rw [reportOf_of_not_ordinary source out err hcode]
    exact iff_of_true (told_error_iff.mpr ⟨_, rfl⟩) fun h => absurd h hcode

theorem conclude_whole (j : Javac) (source : Path) (exitCode : Int) (out err : List Char) :
    j.conclude source (.finished exitCode (encodeChars out) (encodeChars err)) =
      reportOf source exitCode (Text.unifyLineEnds out) (Text.unifyLineEnds err) :=
  conclude_of_finished j source exitCode (decodeOutput_whole out) (decodeOutput_whole err)

theorem conclude_of_bad_stdout (j : Javac) (source : Path) {fault : Fault}
    (hbad : decodeOutput stdout = .error fault) :
    j.conclude source (.finished exitCode stdout stderr) = .error fault := by
  unfold conclude
  simp only [hbad]

theorem conclude_of_bad_stderr (j : Javac) (source : Path) {fault : Fault}
    (hout : decodeOutput stdout = .ok out) (hbad : decodeOutput stderr = .error fault) :
    j.conclude source (.finished exitCode stdout stderr) = .error fault := by
  unfold conclude
  simp only [hout, hbad]

/-- The end of a compiler is told exactly when it can be. -/
theorem told_conclude_iff (j : Javac) (source : Path) (ended : ToolEnd) :
    Told (j.conclude source ended) ↔ Speaks ended := by
  cases ended with
  | timedOut => exact iff_of_true (told_error_iff.mpr ⟨_, rfl⟩) .timedOut
  | failed fault =>
    cases fault with
    | system fault =>
      refine iff_of_true ?_ (.notStarted fault)
      obtain ⟨cause, hcause⟩ := conclude_of_unfinished j source (.notStarted fault)
      exact .inr ⟨cause, hcause⟩
    | invocation cause => exact iff_of_true (.inr ⟨cause, rfl⟩) (.refused cause)
    | _ =>
      refine iff_of_false (fun h => ?_) nofun
      obtain ⟨cause, hcause⟩ := told_error_iff.mp h
      cases hcause
  | finished exitCode stdout stderr =>
    rcases decodeOutput_cases stdout with ⟨out, rfl⟩ | ⟨bad, hbad, hnone⟩
    · rcases decodeOutput_cases stderr with ⟨err, rfl⟩ | ⟨bad, hbad, hnone⟩
      · rw [conclude_whole, told_reportOf_iff]
        refine ⟨.finished rfl rfl, fun h => ?_⟩
        cases h with
        | finished _ herr hreadable =>
          rw [encodeChars_inj herr]
          exact hreadable
      · rw [conclude_of_bad_stderr j source (decodeOutput_whole out) hbad, told_error_iff]
        refine iff_of_false (fun ⟨_, h⟩ => nomatch h) fun h => ?_
        cases h with
        | finished _ herr _ => exact hnone _ herr
    · rw [conclude_of_bad_stdout j source hbad, told_error_iff]
      refine iff_of_false (fun ⟨_, h⟩ => nomatch h) fun h => ?_
      cases h with
      | finished hout _ _ => exact hnone _ hout

/-- A report comes from a compiler that has told of a source, and has no errors if it has told of
none. -/
theorem hasErrors_eq_false_iff {j : Javac} {report : Report}
    (h : j.conclude source ended = .ok report) : report.hasErrors = false ↔ Clean ended := by
  have hspeaks : Speaks ended := (told_conclude_iff j source ended).mp (.inl ⟨report, h⟩)
  cases hspeaks with
  | timedOut => cases h
  | refused cause => cases h
  | notStarted fault =>
    obtain ⟨cause, hcause⟩ := conclude_of_unfinished j source (.notStarted fault)
    cases hcause.symm.trans h
  | @finished exitCode _ _ out err hout herr hreadable =>
    subst hout herr
    rw [conclude_whole] at h
    by_cases hcode : exitCode = 0 ∨ exitCode = 1
    · have hfound := JavacOutput.diagnostics_eq_told (hreadable hcode)
      rw [reportOf_of_ordinary hcode hfound] at h
      obtain rfl := Except.ok.inj h
      obtain ⟨htells, -⟩ := tells_withFailure exitCode (Text.unifyLineEnds err)
        ⟨JavacOutput.told (Text.unifyLineEnds err), none, some source⟩ rfl
      rw [← Bool.not_eq_true, htells.errors]
      constructor
      · intro hnot
        obtain rfl := hcode.resolve_right fun hone => hnot (.inl hone)
        exact ⟨out, err, _, rfl, hfound, fun d hd herror => hnot (.inr ⟨d, hd, herror⟩)⟩
      · rintro ⟨out', err', found, hended, hfound', hclean⟩
        obtain ⟨rfl, -, herr⟩ := ToolEnd.finished.inj hended
        rw [encodeChars_inj herr, hfound'] at hfound
        rintro (hone | ⟨d, hd, herror⟩)
        · cases hone
        · rw [encodeChars_inj herr, ← Except.ok.inj hfound] at hd
          exact hclean d hd herror
    · rw [reportOf_of_not_ordinary source _ _ hcode] at h
      cases h

theorem exists_report_of_clean (j : Javac) (source : Path) (h : Clean ended) :
    ∃ report, j.conclude source ended = .ok report := by
  obtain ⟨out, err, found, rfl, hfound, -⟩ := h
  rw [conclude_whole, reportOf_of_ordinary (.inl rfl) hfound]
  exact ⟨_, rfl⟩

/-- With the files that a compiler without errors has left: these must come into memory, too. -/
theorem told_bind_collect_iff (j : Javac) (source : Path) (d : Disk) (scratch : Path) :
    Told ((j.conclude source ended).bind (collect d scratch)) ↔
      Speaks ended ∧ (Clean ended →
        ∃ a, Artifacts.load d scratch Artifacts.defaultName = .ok a) := by
  rw [← told_conclude_iff j source ended]
  cases hconclude : j.conclude source ended with
  | error fault =>
    refine ⟨fun h => ⟨h, fun hclean => ?_⟩, And.left⟩
    obtain ⟨report, hreport⟩ := exists_report_of_clean j source hclean
    rw [hconclude] at hreport
    cases hreport
  | ok report =>
    have hclean := hasErrors_eq_false_iff hconclude
    have htold : Told (.ok report) := told_ok report
    change Told (collect d scratch report) ↔ _
    unfold collect
    cases herrors : report.hasErrors with
    | true =>
      rw [if_pos rfl]
      have hnot : ¬Clean ended := fun h => by
        rw [hclean.mpr h] at herrors
        cases herrors
      exact iff_of_true htold ⟨htold, fun h => absurd h hnot⟩
    | false =>
      rw [if_neg Bool.false_ne_true]
      cases hload : Artifacts.load d scratch Artifacts.defaultName with
      | ok a => exact iff_of_true (told_ok _) ⟨htold, fun _ => ⟨a, rfl⟩⟩
      | error fault =>
        rw [told_error_iff]
        refine iff_of_false (fun ⟨_, h⟩ => nomatch h) fun ⟨_, h⟩ => ?_
        obtain ⟨a, ha⟩ := h (hclean.mp herrors)
        cases ha

/-! ## Runs -/

section Runs

variable {σ : Type}

/-- For any command line and whatever the compiler does. A run without a source is told. A run with
an output directory is told exactly when the end of the compiler can be. A run that has the compiler
write into a directory of its own is told exactly when, besides, this can be taken away, and what a
compiler without errors has left in it comes into memory. A tree of files does that exactly when
none of its paths is too long, no directory of it lies too deep, and the path of each file is
accepted as one to something below. -/
theorem a_run_is_told_unless_its_output_or_its_files_cannot_be_read (runTool : ToolRunner σ)
    (getDisk : σ → Disk) (setDisk : Disk → σ → σ) (j : Javac) (arguments : List String) (s : σ) :
    (NoSource arguments → Told (j.run runTool getDisk setDisk arguments s).1) ∧
    (¬NoSource arguments → "-d" ∈ arguments → ∀ ended s',
      runTool (j.command :: arguments) j.timeout s = (ended, s') →
        (Told (j.run runTool getDisk setDisk arguments s).1 ↔ Speaks ended)) ∧
    (¬NoSource arguments → "-d" ∉ arguments → ∀ scratch d ended s' n,
      Disk.openScratch label (getDisk s) = (.ok scratch, d) →
      runTool (j.command :: "-d" :: scratch.path.text :: arguments) j.timeout (setDisk d s) =
        (ended, s') →
      (getDisk s').node? scratch = some n → n.isDirectory = true →
        (Told (j.run runTool getDisk setDisk arguments s).1 ↔
          n.depth ≤ Disk.maxRemovedLevels ∧ Speaks ended ∧ (Clean ended →
            ∃ a, Artifacts.load (getDisk s') scratch.path Artifacts.defaultName = .ok a)) ∧
        ((getDisk s).Ready → (getDisk s').current = d.current → d.root.Grows (getDisk s').root →
          n.Orderly →
            ((∃ a, Artifacts.load (getDisk s') scratch.path Artifacts.defaultName = .ok a) ↔
              Artifacts.Loadable scratch.path n ∧ ∀ below data, n.HasFile below data →
                (Artifacts.key? (Artifacts.placeText below)).isSome = true))) := by
  refine ⟨fun h => ?_, fun h hd ended s' hrun => ?_,
    fun h hd scratch d ended s' n hopen hrun hstands hdir => ⟨?_, ?_⟩⟩
  · rw [run_of_noSource h]
    exact told_error_iff.mpr ⟨_, rfl⟩
  · obtain ⟨source, hsource⟩ := run_in_place h hd j hrun
    rw [hsource]
    exact told_conclude_iff j source ended
  · obtain ⟨source, hsource⟩ := run_in_scratch h hd j
    rw [hsource]
    by_cases hdepth : n.depth ≤ Disk.maxRemovedLevels
    · rw [compileInScratch_of_depth j source hopen hrun hstands hdir hdepth,
        told_bind_collect_iff]
      exact (and_iff_right hdepth).symm
    · rw [compileInScratch_of_deep j source hopen hrun hstands hdir (Nat.lt_of_not_le hdepth),
        told_error_iff]
      exact iff_of_false (fun ⟨_, h⟩ => nomatch h) fun h => hdepth h.1
  · intro hready hcurrent hgrows horderly
    have hleads := hready.leadsTo_openScratch isLabel_label hopen
    exact Artifacts.load_eq_ok_iff horderly (hleads.grows hgrows hcurrent) hstands

end Runs

/-- The class file of a compiler that warns of something comes into memory, and the run is told. -/
theorem a_warning_and_a_class_file_are_told :
    Told (javac.run warningTool id (fun d _ => d) ["A.java"] workDisk).1 := by
  obtain ⟨-, -, hscratch⟩ := a_run_is_told_unless_its_output_or_its_files_cannot_be_read
    warningTool id (fun d _ => d) javac ["A.java"] workDisk
  obtain ⟨htold, hload⟩ := hscratch not_noSource (by decide) workPlace _ _ _ classTree
    openScratch_workDisk rfl rfl rfl
  have hleaves := leaves_classTree
  have hkeys : ∀ below data, classTree.HasFile below data →
      (Artifacts.key? (Artifacts.placeText below)).isSome = true := by
    rintro below data ⟨mode, time, group, hat⟩
    rcases at?_classTree hat with ⟨-, hfile⟩ | ⟨rfl, -⟩
    · cases hfile
    · decide +kernel
  have hloads := (hload ready_workDisk hleaves.current hleaves.grows
    hleaves.loadable.orderly).mpr ⟨hleaves.loadable, hkeys⟩
  have hspeaks : Speaks (.finished 0 [] (Text.Utf8.encodeString "warning: w\n")) :=
    @Speaks.finished 0 _ _ [] "warning: w\n".toList rfl rfl fun _ => by decide +kernel
  exact htold.mpr ⟨by decide, hspeaks, fun _ => hloads⟩

/-- A compiler that has nothing to tell but a byte that is no text. -/
def garbledTool : ToolRunner Disk := fun _ _ d => (.finished 0 [] [0xFF], d)

/-- A byte that is no text and a file whose name begins with a backslash are faults of other
kinds. -/
theorem an_odd_byte_and_an_odd_name_escape :
    (javac.run garbledTool id (fun d _ => d) ["A.java"] workDisk).1 =
      .error (.undecodable ⟨0, 1, 0xFF, .start⟩) ∧
    (javac.run (toolLeaving 0 [] Artifacts.refusedTree) id (fun d _ => d) ["A.java"] workDisk).1 =
      .error (.artifact (.outside (.ofString "\\x"))) := by
  constructor
  · obtain ⟨source, hsource⟩ := run_in_scratch not_noSource (by decide) javac
    have hbad : decodeOutput [0xFF] = .error (.undecodable ⟨0, 1, 0xFF, .start⟩) := by
      decide +kernel
    have hstands : (id openedDisk).node? workPlace =
        some (.directory Disk.scratchMode workDisk.changeTime []) := rfl
    have hrun : javac.compileInScratch garbledTool id (fun d _ => d) ["A.java"] source workDisk =
        _ := compileInScratch_of_depth javac source openScratch_workDisk rfl hstands rfl (by decide)
    have hconclude : javac.conclude source (.finished 0 [] [0xFF]) = _ :=
      conclude_of_bad_stderr javac source (decodeOutput_whole []) hbad
    rw [hsource, hrun, hconclude]
    rfl
  · obtain ⟨source, hrun⟩ := run_toolLeaving 0 []
      (show Artifacts.refusedTree.isDirectory = true from rfl) (by decide)
    have hload : Artifacts.load (openedDisk.put workPlace Artifacts.refusedTree) workPlace.path
        Artifacts.defaultName = .error (.outside (.ofString "\\x")) := by
      decide +kernel
    have hconclude : javac.conclude source (.finished 0 [] (encodeChars [])) =
        .ok ⟨[], none, some source⟩ := by
      have hfound : JavacOutput.diagnostics (Text.unifyLineEnds []) = .ok [] := by decide +kernel
      exact (conclude_whole javac source 0 [] []).trans (reportOf_of_ordinary (.inl rfl) hfound)
    have hcollect : collect (openedDisk.put workPlace Artifacts.refusedTree) workPlace.path
        ⟨[], none, some source⟩ = .error (.artifact (.outside (.ofString "\\x"))) := by
      unfold collect
      rw [hload]
      rfl
    rw [hrun, hconclude]
    exact hcollect

end Javac

end Worksheet
