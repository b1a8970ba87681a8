-- Runs of `javac`. What is reported is what the compiler has told by its exit code and its output,
-- and the class files that it leaves in a directory of its own are taken into memory, after which
-- the directory is gone.
import Mathlib.Data.List.Nodup
import Worksheet.Compile.Javac
import Worksheet.Proofs.JavacBlocks
import Worksheet.Proofs.LoadedTrees
import Worksheet.Proofs.ScratchFiles

namespace Worksheet

open Text (Bytes Octets Points)

/-! ## Scratch directories -/

namespace Disk

variable {d d' : Disk} {scratch : Place} {label : String}

/-- The path of a new scratch directory leads there. -/
theorem Ready.leadsTo_openScratch (h : d.Ready) (hlabel : IsLabel label)
    (hopen : openScratch label d = (.ok scratch, d')) : d'.LeadsTo scratch.path scratch := by
  obtain ⟨hrespelled, -, -, hown, hedit⟩ := h.edit_openScratch hlabel hopen
  obtain ⟨hplace, found, hfree, -⟩ := openScratch_put hopen
  have hnamed : scratch.way.Named := hown.names.named
  -- The name was free under the octets of the place; its path spells them up to slashes at the end.
  have hlocate := locateWith_of_freePlace hfree
  rw [show Way.trimSlashes scratch.octets = Way.trimSlashes scratch.way.octets from rfl,
    locateWith_trimSlashes hnamed] at hlocate
  have hthere := locateWith_of_grows hedit.grows hlocate
  obtain rfl := hown.leads hown.names (Or.inl (List.prefix_refl _)) hthere
  refine ⟨?_, ?_, hown.stands⟩
  · rw [hplace]
    exact (isProper_scratchPlace h.proper hlabel _).1
  · rw [Place.way_path hrespelled, hedit.current]
    exact locateWith_followed hthere fun target time =>
      hown.noLink found target time (Or.inl (List.prefix_refl _))

end Disk

/-! ## What is told -/

namespace Javac

open JavacOutput

/-- The compiler has not done its work: it could not be started or was stopped, or its exit code
says neither that there are no errors nor that there are some. -/
inductive Unfinished : ToolEnd → Prop
  | notStarted (fault : SystemFault) : Unfinished (.failed (.system fault))
  | timedOut : Unfinished .timedOut
  | failed {exitCode : Int} {stdout stderr : Bytes} {out err : List Char} :
    exitCode ≠ 0 → exitCode ≠ 1 → decodeOutput stdout = .ok out → decodeOutput stderr = .ok err →
      Unfinished (.finished exitCode stdout stderr)

/-- The compiler says that there are errors, by its exit code or by what it tells. -/
def Failed (exitCode : Int) (found : List Diagnostic) : Prop :=
  exitCode = 1 ∨ ∃ d ∈ found, d.severity = .error

/-- A report tells what the compiler has told: its diagnostics in order, and an error of its own
when it has failed without telling one. -/
structure Tells (exitCode : Int) (found : List Diagnostic) (report : Report) : Prop where
  diagnostics : ∃ more, report.diagnostics = found ++ more ∧
    (exitCode = 1 ∧ (∀ d ∈ found, d.severity ≠ .error) →
      ∃ d, more = [d] ∧ d.severity = .error ∧ d.position = none) ∧
    (¬(exitCode = 1 ∧ ∀ d ∈ found, d.severity ≠ .error) → more = [])
  errors : report.hasErrors = true ↔ Failed exitCode found

/-- The end of a compilation, by how its program has ended. Of a program that has done its work the
output can be read. Without errors the report has the output in memory that it should, if that can
be collected at all. -/
structure Concludes (ended : ToolEnd) (collectable : Prop) (kept : Option Artifacts → Prop)
    (result : Except Fault Report) : Prop where
  unfinished : Unfinished ended → ∃ cause, result = .error (.invocation cause)
  finished : ∀ exitCode stdout stderr out err, ended = .finished exitCode stdout stderr →
    exitCode = 0 ∨ exitCode = 1 → decodeOutput stdout = .ok out → decodeOutput stderr = .ok err →
      isReadable err = true → ∃ found, JavacOutput.diagnostics err = .ok found ∧
        (Failed exitCode found ∨ collectable → ∃ report, result = .ok report ∧
          Tells exitCode found report ∧
          if report.hasErrors then report.output = none else kept report.output)

variable {exitCode : Int} {stdout stderr : Bytes} {out err : List Char} {found : List Diagnostic}
  {source : Path} {ended : ToolEnd}

theorem hasErrors_iff (r : Report) :
    r.hasErrors = true ↔ ∃ d ∈ r.diagnostics, d.severity = .error := by
  simp [Report.hasErrors]

/-- A failure that no diagnostic tells gets one. -/
theorem tells_withFailure (exitCode : Int) (err : List Char) (report : Report)
    (hnone : report.output = none) :
    Tells exitCode report.diagnostics (withFailure exitCode err report) ∧
      (withFailure exitCode err report).output = none := by
  have hsilent : report.hasErrors = false ↔ ∀ d ∈ report.diagnostics, d.severity ≠ .error := by
    rw [← Bool.not_eq_true, hasErrors_iff]
    simp
  unfold withFailure
  by_cases hfailure : exitCode = 1 ∧ report.hasErrors = false
  · obtain ⟨hcode, hquiet⟩ := hfailure
    rw [if_pos (by simp [hcode, hquiet])]
    refine ⟨⟨⟨_, rfl, fun _ => ⟨_, rfl, rfl, rfl⟩, fun hnot => ?_⟩, ?_⟩, hnone⟩
    · exact absurd ⟨hcode, hsilent.mp hquiet⟩ hnot
    · rw [hasErrors_iff]
      refine iff_of_true ?_ (Or.inl hcode)
      exact ⟨_, List.mem_append_right _ (List.mem_singleton_self _), rfl⟩
  · rw [if_neg (by simpa using hfailure)]
    refine ⟨⟨⟨[], (List.append_nil _).symm, fun hquiet => ?_, fun _ => rfl⟩, ?_⟩, hnone⟩
    · exact absurd ⟨hquiet.1, hsilent.mpr hquiet.2⟩ hfailure
    · unfold Failed
      rw [← hasErrors_iff]
      refine ⟨Or.inr, fun h => h.elim (fun hcode => ?_) id⟩
      exact Bool.not_eq_false _ ▸ fun hquiet => hfailure ⟨hcode, hquiet⟩

theorem reportOf_of_ordinary (hcode : exitCode = 0 ∨ exitCode = 1)
    (hread : JavacOutput.diagnostics err = .ok found) :
    reportOf source exitCode out err =
      .ok (withFailure exitCode err ⟨found, none, some source⟩) := by
  have hordinary : isOrdinary exitCode = true := by
    unfold isOrdinary
    simpa using hcode
  unfold reportOf
  rw [hordinary, hread]
  rfl

theorem conclude_of_finished (j : Javac) (source : Path) (exitCode : Int)
    (hout : decodeOutput stdout = .ok out) (herr : decodeOutput stderr = .ok err) :
    j.conclude source (.finished exitCode stdout stderr) = reportOf source exitCode out err := by
  unfold conclude
  simp only [hout, herr]

theorem conclude_of_unfinished (j : Javac) (source : Path) (h : Unfinished ended) :
    ∃ cause, j.conclude source ended = .error (.invocation cause) := by
  cases h with
  | notStarted fault =>
    unfold conclude
    dsimp only
    split <;> exact ⟨_, rfl⟩
  | timedOut => exact ⟨_, rfl⟩
  | @failed exitCode _ _ _ _ hzero hone hout herr =>
    have hordinary : isOrdinary exitCode = false := by simp [isOrdinary, hzero, hone]
    rw [conclude_of_finished j source exitCode hout herr]
    unfold reportOf
    rw [hordinary]
    exact ⟨_, rfl⟩

/-- A compilation concludes if what is done with a report without errors succeeds. -/
theorem concludes_bind (j : Javac) (source : Path) {collectable : Prop}
    {kept : Option Artifacts → Prop} {collect : Report → Except Fault Report}
    (hfailed : ∀ r, r.hasErrors = true → collect r = .ok r)
    (hkept : collectable → ∀ r, r.output = none → r.hasErrors = false →
      ∃ output, collect r = .ok { r with output := output } ∧ kept output) :
    Concludes ended collectable kept ((j.conclude source ended).bind collect) := by
  refine ⟨fun hunfinished => ?_, fun exitCode stdout stderr out err hended hcode hout herr hread =>
    ⟨told err, diagnostics_eq_told hread, fun hcollectable => ?_⟩⟩
  · obtain ⟨cause, hcause⟩ := conclude_of_unfinished j source hunfinished
    exact ⟨cause, by rw [hcause]; rfl⟩
  · subst hended
    obtain ⟨htells, hnone⟩ :=
      tells_withFailure exitCode err ⟨told err, none, some source⟩ rfl
    rw [conclude_of_finished j source exitCode hout herr,
      reportOf_of_ordinary hcode (diagnostics_eq_told hread)]
    generalize withFailure exitCode err ⟨told err, none, some source⟩ = r at htells hnone
    cases herrors : r.hasErrors with
    | true => exact ⟨r, hfailed r herrors, htells, by rwa [herrors]⟩
    | false =>
      have hclean : ¬Failed exitCode (told err) := fun h =>
        Bool.false_ne_true (herrors.symm.trans (htells.errors.mpr h))
      obtain ⟨output, hcollect, hgood⟩ :=
        hkept (hcollectable.resolve_left hclean) r hnone herrors
      refine ⟨_, hcollect, ⟨htells.diagnostics, htells.errors⟩, ?_⟩
      rw [if_neg (show ¬(Report.hasErrors _ = true) from Bool.not_eq_true _ ▸ herrors)]
      exact hgood

/-! ## Runs -/

/-- A command line names no source: it is empty, or its last word is an option. -/
def NoSource (arguments : List String) : Prop :=
  ∀ word ∈ arguments.getLast?, isOptionWord word = true

/-- A compiler leaves a tree of directories and class files at a place. All of it can be loaded, and
its names are texts that can be in keys. What has stood elsewhere still stands, and no link is
new. -/
structure Leaves (d d' : Disk) (place : Place) (n : Node) : Prop where
  current : d'.current = d.current
  grows : d.root.Grows d'.root
  stands : d'.node? place = some n
  loadable : Artifacts.Loadable place.path n
  ordinary : ∀ p, (n.at? p).isSome = true → ∀ c ∈ p, ∃ s, IsFileName s ∧ c = Octets.ofString s

section Runs

variable {σ : Type} {runTool : ToolRunner σ} {getDisk : σ → Disk} {setDisk : Disk → σ → σ}
  {arguments : List String} {s s' : σ} {d d' : Disk} {scratch : Place} {n : Node}

theorem isLabel_label : Disk.IsLabel label := ⟨⟨'w', by decide, by decide⟩, by decide⟩

theorem run_of_noSource (h : NoSource arguments) (j : Javac) (s : σ) :
    j.run runTool getDisk setDisk arguments s = (.error (.invocation .noSource), s) := by
  unfold run
  cases hlast : arguments.getLast? with
  | none => rfl
  | some word =>
    dsimp only
    rw [if_pos (h word hlast)]
    rfl

theorem exists_source (h : ¬NoSource arguments) :
    ∃ word, arguments.getLast? = some word ∧ isOptionWord word = false := by
  unfold NoSource at h
  push Not at h
  obtain ⟨word, hlast, hword⟩ := h
  exact ⟨word, hlast, Bool.not_eq_true _ ▸ hword⟩

theorem run_in_place (h : ¬NoSource arguments) (hd : "-d" ∈ arguments) (j : Javac)
    (hrun : runTool (j.command :: arguments) j.timeout s = (ended, s')) :
    ∃ source, j.run runTool getDisk setDisk arguments s = (j.conclude source ended, s') := by
  obtain ⟨word, hlast, hword⟩ := exists_source h
  refine ⟨.ofString word, ?_⟩
  unfold run
  simp only [hlast, hword, List.contains_iff_mem.mpr hd, Bool.false_eq_true, if_false, if_true]
  unfold compile
  rw [hrun]

theorem run_in_scratch (h : ¬NoSource arguments) (hd : "-d" ∉ arguments) (j : Javac) :
    ∃ source, j.run runTool getDisk setDisk arguments s =
      j.compileInScratch runTool getDisk setDisk arguments source s := by
  obtain ⟨word, hlast, hword⟩ := exists_source h
  refine ⟨.ofString word, ?_⟩
  unfold run
  simp only [hlast, hword, mt List.contains_iff_mem.mp hd, Bool.false_eq_true, if_false]

/-- What a compiler leaves is collected without a fault, if there are no errors. -/
theorem collect_of_leaves (hleads : d.LeadsTo scratch.path scratch) (h : Leaves d d' scratch n)
    {r : Report} (hr : r.hasErrors = false) :
    ∃ a, collect d' scratch.path r = .ok { r with output := some a } ∧ a.Mirrors n := by
  have hnames : ∀ p m, n.at? p = some m → m.isDirectory = false →
      ∀ c ∈ p, Artifacts.IsKeyName c := by
    intro p m hm _ c hc
    obtain ⟨s, hs, rfl⟩ := h.ordinary p (Option.isSome_of_eq_some hm) c hc
    exact Artifacts.isKeyName_ofString hs
  obtain ⟨a, hload, hmirrors⟩ := h.loadable.mirrors_load (hleads.grows h.grows h.current) h.stands
    hnames Artifacts.defaultName
  refine ⟨a, ?_, hmirrors⟩
  unfold collect
  rw [if_neg (Bool.not_eq_true _ ▸ hr), hload]

/-- A compilation in a directory of its own, which can be taken away. -/
theorem compileInScratch_of_depth (j : Javac) (source : Path)
    (hopen : Disk.openScratch label (getDisk s) = (.ok scratch, d))
    (hrun : runTool (j.command :: "-d" :: scratch.path.text :: arguments) j.timeout (setDisk d s) =
      (ended, s'))
    (hstands : (getDisk s').node? scratch = some n) (hdir : n.isDirectory = true)
    (hdepth : n.depth ≤ Disk.maxRemovedLevels) :
    j.compileInScratch runTool getDisk setDisk arguments source s =
      ((j.conclude source ended).bind (collect (getDisk s') scratch.path),
        setDisk ((getDisk s').erase scratch) s') := by
  unfold compileInScratch compile
  simp only [hopen, hrun, Disk.removeScratch_of_depth hstands hdir hdepth]
  rfl

/-- A directory of one's own that is too deep stays, and that is a fault. -/
theorem compileInScratch_of_deep (j : Javac) (source : Path)
    (hopen : Disk.openScratch label (getDisk s) = (.ok scratch, d))
    (hrun : runTool (j.command :: "-d" :: scratch.path.text :: arguments) j.timeout (setDisk d s) =
      (ended, s'))
    (hstands : (getDisk s').node? scratch = some n) (hdir : n.isDirectory = true)
    (hdeep : Disk.maxRemovedLevels < n.depth) :
    j.compileInScratch runTool getDisk setDisk arguments source s =
      (.error (.recursion "maximum recursion depth exceeded"), setDisk (getDisk s') s') := by
  unfold compileInScratch compile
  simp only [hopen, hrun, Disk.removeScratch_of_deep hstands hdir hdeep]
  rfl

/-- A run without a source is refused, and nothing is run. A run with an output directory runs the
compiler on the words as they are; any other one has it write into a new directory, which is gone
afterwards with all that is in it, however the compiler has ended. A compiler that has not done its
work is a fault of the invocation. One that has is reported as its exit code and its output say, and
without errors the report has the class files that it has left in the directory of its own. -/
theorem a_run_tells_what_the_compiler_has_done (runTool : ToolRunner σ) (getDisk : σ → Disk)
    (setDisk : Disk → σ → σ) (hdisk : ∀ d s, getDisk (setDisk d s) = d) (j : Javac)
    (arguments : List String) (s : σ) :
    (NoSource arguments →
      j.run runTool getDisk setDisk arguments s = (.error (.invocation .noSource), s)) ∧
    (¬NoSource arguments → "-d" ∈ arguments → ∀ ended s',
      runTool (j.command :: arguments) j.timeout s = (ended, s') →
        ∃ result, j.run runTool getDisk setDisk arguments s = (result, s') ∧
          Concludes ended True (· = none) result) ∧
    (¬NoSource arguments → "-d" ∉ arguments → (getDisk s).Ready → ∀ scratch d ended s' n,
      Disk.openScratch label (getDisk s) = (.ok scratch, d) →
      runTool (j.command :: "-d" :: scratch.path.text :: arguments) j.timeout (setDisk d s) =
        (ended, s') →
      (getDisk s').node? scratch = some n → n.isDirectory = true →
      n.depth ≤ Disk.maxRemovedLevels →
        ∃ result cleared, j.run runTool getDisk setDisk arguments s = (result, cleared) ∧
          Concludes ended (Leaves d (getDisk s') scratch n)
            (fun output => ∃ a, output = some a ∧ a.Mirrors n) result ∧
          getDisk cleared = (getDisk s').erase scratch ∧
          (getDisk s).node? scratch = none ∧ (getDisk cleared).node? scratch = none) := by
  refine ⟨fun h => run_of_noSource h j s, fun h hd ended s' hrun => ?_,
    fun h hd hready scratch d ended s' n hopen hrun hstands hdir hdepth => ?_⟩
  · obtain ⟨source, hsource⟩ := run_in_place h hd j hrun
    have hbind : (j.conclude source ended).bind .ok = j.conclude source ended := by
      cases j.conclude source ended <;> rfl
    exact ⟨_, hsource, hbind ▸ concludes_bind j source (fun _ _ => rfl)
      fun _ r hnone _ => ⟨r.output, rfl, hnone⟩⟩
  · obtain ⟨source, hsource⟩ := run_in_scratch h hd j
    obtain ⟨-, -, hnone, hown, -⟩ := hready.edit_openScratch isLabel_label hopen
    have hleads := hready.leadsTo_openScratch isLabel_label hopen
    refine ⟨_, _, hsource.trans (compileInScratch_of_depth j source hopen hrun hstands hdir hdepth),
      concludes_bind j source (fun r hr => if_pos hr) fun hleaves r _ hr => ?_, hdisk .., hnone, ?_⟩
    · obtain ⟨a, hcollect, hmirrors⟩ := collect_of_leaves hleads hleaves hr
      exact ⟨some a, hcollect, a, rfl, hmirrors⟩
    · rw [hdisk]
      exact Node.at?_erase_of_prefix hown.ne_nil (List.prefix_refl _)

end Runs

/-! ## Samples -/

/-- An empty disk, whose root has the scratch directories. -/
def workDisk : Disk where
  root := .directory 493 0 []
  current := []
  scratch := []
  scratchCount := 0
  groupCount := 0
  now := 0

def workPlace : Place := ["worksheet-javac-00000000".toList]

theorem ready_workDisk : workDisk.Ready := by
  have hnormal : Path.IsNormal (Place.path []) := nofun
  refine ⟨hnormal, ⟨hnormal, List.not_mem_nil⟩, rfl, fun above target time habove hlink => ?_⟩
  obtain rfl := List.prefix_nil.mp habove
  cases hlink

def javac : Javac := ⟨"javac", .nan⟩

/-- A compiler that warns of something, and leaves a class file. -/
def warningTool : ToolRunner Disk := fun _ _ d =>
  (.finished 0 [] (Text.Utf8.encodeString "warning: w\n"),
    d.put (workPlace ++ ["A.class".toList]) (.file [202] 420 0 0))

def classTree : Node := .directory 448 0 [("A.class".toList, .file [202] 420 0 0)]

theorem at?_classTree {p : Place} {m : Node} (h : classTree.at? p = some m) :
    p = [] ∧ m = classTree ∨ p = ["A.class".toList] ∧ m = .file [202] 420 0 0 := by
  refine (Node.cases_of_at?_single h).imp_right ?_
  rintro ⟨rest, rfl, hrest⟩
  obtain ⟨rfl, rfl⟩ := Node.eq_of_at?_file hrest
  exact ⟨rfl, rfl⟩

/-- The disk on which the compiler has its directory. -/
def openedDisk : Disk := (Disk.openScratch label workDisk).2

theorem openScratch_workDisk : Disk.openScratch label workDisk = (.ok workPlace, openedDisk) :=
  Prod.ext (by decide) rfl

theorem leaves_classTree :
    Leaves openedDisk (warningTool [] .nan openedDisk).2 workPlace classTree := by
  have hnone : openedDisk.node? (workPlace ++ ["A.class".toList]) = none := rfl
  have hplaces : ∀ p, (classTree.at? p).isSome = true → p = [] ∨ p = ["A.class".toList] := by
    intro p hp
    obtain ⟨m, hm⟩ := Option.isSome_iff_exists.mp hp
    exact (at?_classTree hm).imp And.left And.left
  have hnames : ∀ p, (classTree.at? p).isSome = true → ∀ c ∈ p, c = "A.class".toList := by
    intro p hp c hc
    rcases hplaces p hp with rfl | rfl
    · cases hc
    · exact List.mem_singleton.mp hc
  refine ⟨rfl, Disk.grows_put_new hnone rfl, rfl, ⟨rfl, ⟨fun p m hm => ?_, fun p m hm => ?_,
    fun p hp c hc => ?_⟩, fun p hp => ?_, fun p m hm _ => ?_⟩, fun p hp c hc => ?_⟩
  · rcases at?_classTree hm with ⟨-, rfl⟩ | ⟨-, rfl⟩ <;> decide
  · rcases at?_classTree hm with ⟨-, rfl⟩ | ⟨-, rfl⟩
    · exact ⟨rfl, rfl⟩
    · rfl
  · rw [hnames p hp c hc]
    exact ⟨⟨by decide, by decide, by decide⟩, ⟨by decide, by decide⟩, by decide⟩
  · rcases hplaces p hp with rfl | rfl <;> decide +kernel
  · rcases hplaces p (Option.isSome_of_eq_some hm) with rfl | rfl <;> decide
  · exact ⟨"A.class", ⟨⟨by decide, by decide, by decide⟩, by decide, by decide⟩, hnames p hp c hc⟩

/-- Artifacts that mirror the tree are its one file. -/
theorem files_of_mirrors {a : Artifacts} (h : a.Mirrors classTree) :
    a.files = [(.ofString "A.class", [202])] := by
  have htext : Artifacts.placeText ["A.class".toList] = .ofString "A.class" := by decide +kernel
  have hmem : ∀ f, f ∈ a.files ↔ f ∈ [(Points.ofString "A.class", ([202] : Bytes))] := by
    intro f
    rw [h.files, List.mem_singleton]
    constructor
    · rintro ⟨below, mode, time, group, hat, hkey⟩
      rcases at?_classTree hat with ⟨-, hdir⟩ | ⟨rfl, hfile⟩
      · cases hdir
      · exact Prod.ext (hkey.trans htext) (Node.file.inj hfile).1
    · rintro rfl
      exact ⟨["A.class".toList], 420, 0, 0, rfl, htext.symm⟩
  have honce : a.files.Nodup := List.Nodup.of_map _ h.single
  exact List.perm_singleton.mp ((List.perm_ext_iff_of_nodup honce (by decide)).mpr hmem)

theorem not_noSource : ¬NoSource ["A.java"] := fun h => absurd (h "A.java" rfl) (by decide)

/-- A class file is in memory, and a warning is told. -/
theorem a_class_file_is_taken_into_memory :
    ∃ report cleared, javac.run warningTool id (fun d _ => d) ["A.java"] workDisk =
        (.ok report, cleared) ∧
      (∃ a, report.output = some a ∧ a.files = [(.ofString "A.class", [202])]) ∧
      report.diagnostics = [⟨.warning, "w", none⟩] ∧ cleared.node? workPlace = none := by
  obtain ⟨-, -, hscratch⟩ := a_run_tells_what_the_compiler_has_done warningTool id
    (fun d _ => d) (fun _ _ => rfl) javac ["A.java"] workDisk
  obtain ⟨result, cleared, hrun, hconcludes, -, -, hgone⟩ := hscratch not_noSource (by decide)
    ready_workDisk workPlace _ _ _ classTree openScratch_workDisk rfl rfl rfl (by decide)
  obtain ⟨found, hfound, hreport⟩ :=
    hconcludes.finished 0 _ _ [] "warning: w\n".toList rfl (Or.inl rfl) (by decide +kernel)
      (by decide +kernel) (by decide +kernel)
  obtain ⟨report, rfl, ⟨⟨more, hdiagnostics, -, hmore⟩, herrors⟩, houtput⟩ :=
    hreport (Or.inr leaves_classTree)
  have hread : JavacOutput.diagnostics "warning: w\n".toList = .ok [⟨.warning, "w", none⟩] := by
    decide +kernel
  cases hread.symm.trans hfound
  have hclean : ¬Failed 0 [⟨.warning, "w", none⟩] := by
    rintro (hcode | ⟨d, hd, herror⟩)
    · cases hcode
    · rw [List.mem_singleton.mp hd] at herror
      cases herror
  rw [if_neg (mt herrors.mp hclean)] at houtput
  obtain ⟨a, ha, hmirrors⟩ := houtput
  refine ⟨report, cleared, hrun, ⟨a, ha, files_of_mirrors hmirrors⟩, ?_, hgone⟩
  rw [hdiagnostics, hmore fun h => absurd h.1 (by decide), List.append_nil]

/-! ### Limits -/

theorem decodeOutput_encodeChars {cs : List Char} (h : '\r' ∉ cs) :
    decodeOutput (Text.Utf8.encodeChars cs) = .ok cs := by
  unfold decodeOutput
  rw [Text.Utf8.decode_encodeChars]
  exact congrArg Except.ok (Text.unifyLineEnds_of_not_mem h)

theorem conclude_of_long_number (j : Javac) (source : Path) {digits : List Char}
    (hdigits : IsNumber digits) (hlong : Text.maxDigits < digits.length) :
    j.conclude source (.finished 1 [] (Text.Utf8.encodeChars
      ("A.java:".toList ++ digits ++ ": error: x".toList))) =
        .error (.value (.tooManyDigits digits.length)) := by
  have hreturn : '\r' ∉ "A.java:".toList ++ digits ++ ": error: x".toList := by
    rw [List.mem_append, List.mem_append]
    rintro ((hmem | hmem) | hmem)
    · exact absurd hmem (by decide)
    · exact absurd (hdigits.2 _ hmem) (by decide)
    · exact absurd hmem (by decide)
  have hnothing : decodeOutput [] = .ok [] := decodeOutput_encodeChars List.not_mem_nil
  rw [conclude_of_finished j source 1 hnothing (decodeOutput_encodeChars hreturn)]
  unfold reportOf
  rw [diagnostics_of_long_number hdigits hlong]
  rfl

/-- A compiler that ends in a way, and leaves a tree in the place of the directory that is its
own. -/
def toolLeaving (exitCode : Int) (err : List Char) (tree : Node) : ToolRunner Disk := fun _ _ d =>
  (.finished exitCode [] (Text.Utf8.encodeChars err), d.put workPlace tree)

theorem node?_put_workPlace {tree : Node} (hdir : tree.isDirectory = true) :
    (openedDisk.put workPlace tree).node? workPlace = some tree := by
  cases tree with
  | directory mode modified entries => rfl
  | _ => cases hdir

theorem run_toolLeaving (exitCode : Int) (err : List Char) {tree : Node}
    (hdir : tree.isDirectory = true) (hdepth : tree.depth ≤ Disk.maxRemovedLevels) :
    ∃ source, javac.run (toolLeaving exitCode err tree) id (fun d _ => d) ["A.java"] workDisk =
      ((javac.conclude source (.finished exitCode [] (Text.Utf8.encodeChars err))).bind
        (collect (openedDisk.put workPlace tree) workPlace.path),
        (openedDisk.put workPlace tree).erase workPlace) := by
  obtain ⟨source, hsource⟩ := run_in_scratch not_noSource (by decide) javac
  exact ⟨source, hsource.trans (compileInScratch_of_depth javac source openScratch_workDisk rfl
    (node?_put_workPlace hdir) hdir hdepth)⟩

/-- A class file below so many directories of one name. -/
def nested (name : Octets) : Nat → Node
  | 0 => classTree
  | k + 1 => .directory 448 0 [(name, nested name k)]

theorem isDirectory_nested (name : Octets) (k : Nat) : (nested name k).isDirectory = true := by
  cases k <;> rfl

theorem depth_nested (name : Octets) (k : Nat) : (nested name k).depth = k + 1 := by
  induction k with
  | zero => rfl
  | succ k ih =>
    unfold nested Node.depth Node.depthAmong
    rw [ih]
    exact Nat.max_eq_left (Nat.zero_le _)

/-- A line number can be too long to be read, a class file can lie too deep for the directory to be
taken away, and its path can be too long for it to be loaded. -/
theorem what_the_compiler_leaves_can_be_too_much :
    (javac.run (toolLeaving 1 ("A.java:".toList ++ List.replicate 4301 '1' ++ ": error: x".toList)
      classTree) id (fun d _ => d) ["A.java"] workDisk).1 =
        .error (.value (.tooManyDigits 4301)) ∧
    (∃ left, javac.run (toolLeaving 0 [] (nested ['a'] 990)) id (fun d _ => d) ["A.java"] workDisk =
        (.error (.recursion "maximum recursion depth exceeded"), left) ∧
      left.node? workPlace = some (nested ['a'] 990)) ∧
    ∃ fault, (javac.run (toolLeaving 0 [] (nested (List.replicate 255 'a') 17)) id (fun d _ => d)
      ["A.java"] workDisk).1 = .error fault := by
  refine ⟨?_, ?_, ?_⟩
  · generalize hdigits : List.replicate 4301 '1' = digits
    have hlength : digits.length = 4301 := hdigits ▸ List.length_replicate
    have hnumber : IsNumber digits := by
      refine ⟨List.ne_nil_of_length_pos (by rw [hlength]; decide), fun c hc => ?_⟩
      subst hdigits
      rw [List.eq_of_mem_replicate hc]
      decide
    have hlong : Text.maxDigits < digits.length := by
      rw [hlength]
      decide
    obtain ⟨source, hrun⟩ := run_toolLeaving 1 ("A.java:".toList ++ digits ++ ": error: x".toList)
      (show classTree.isDirectory = true from rfl) (by decide)
    rw [hrun, conclude_of_long_number javac source hnumber hlong, hlength]
    rfl
  · obtain ⟨source, hsource⟩ := run_in_scratch not_noSource (by decide) javac
    have hdeep : Disk.maxRemovedLevels < (nested ['a'] 990).depth := by
      rw [depth_nested]
      decide
    have hstands := node?_put_workPlace (isDirectory_nested ['a'] 990)
    exact ⟨_, hsource.trans (compileInScratch_of_deep javac source openScratch_workDisk rfl hstands
      (isDirectory_nested _ _) hdeep), hstands⟩
  · have hrefused : (javac.run (toolLeaving 0 [] (nested (List.replicate 255 'a') 17)) id
        (fun d _ => d) ["A.java"] workDisk).1.toOption.isSome = false := by decide +kernel
    generalize (javac.run _ id _ _ workDisk).1 = result at hrefused ⊢
    cases result with
    | error fault => exact ⟨fault, rfl⟩
    | ok report => cases hrefused

end Javac

end Worksheet
