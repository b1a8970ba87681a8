-- How an evaluation behaves, stage by stage. What the code generator is asked for is made of the
-- evaluation's own source, and a run finds the bytecode file that was made of it.
import Worksheet.Proofs.Conduct

namespace Worksheet

open Text (Bytes Octets Points)

open Steps

variable {τ : Type} {a : Assignment τ} {x : Scene} {own : Option Nat} {s : Site τ}

/-! ## Reading the source -/

theorem Disk.readFile_of_readSource {d : Disk} {path : Path} {found : Bytes} {modified : Int}
    (hread : (Bytecode.readSource path d).1 = .ok (found, modified)) :
    d.readFile path.way.octets = .ok (found, modified) := by
  unfold Bytecode.readSource readBytes at hread
  cases hguard : guardPath path.text with
  | error e =>
    simp only [hguard] at hread
    cases e <;> cases hread
  | ok =>
    cases hread' : d.readFile path.way.octets with
    | error e => simp [hguard, hread'] at hread
    | ok found' => simpa [hguard, hread'] using hread

/-- What is read from a place with the name of a source or of a bytecode file is the content of the
file there. -/
theorem Disk.hasFile_of_readSource {d : Disk} (h : d.root.Plain) {path : Path}
    (hpath : path.IsNormal) (hname : (path.way.destination d.current).IsGenerated)
    {found : Bytes} {modified : Int}
    (hread : (Bytecode.readSource path d).1 = .ok (found, modified)) :
    d.HasFile (path.way.destination d.current) found := by
  have hfile := readFile_of_readSource hread
  unfold readFile openToRead statFrom at hfile
  cases hstat : d.statWith true d.current path.way.octets with
  | error e => simp [hstat] at hfile
  | ok entry =>
    obtain ⟨place, n⟩ := entry
    obtain ⟨hlocate, hnode⟩ := node?_of_statWith hstat
    have hplace := locateWith_way h (Path.named_way hpath) hlocate
    subst hplace
    have hordinary : n.IsOrdinary := h.ordinary _ n hname hnode
    cases hallows : n.allows .read with
    | false => simp [hstat, hallows] at hfile
    | true =>
      simp only [hstat, hallows, ↓reduceIte] at hfile
      cases n with
      | file content mode time group =>
        cases hfile
        exact ⟨mode, modified, group, hnode⟩
      | directory mode time entries => cases hfile
      | _ => exact hordinary.elim

namespace Assignment

/-- What has been read at the path of the source is its content. -/
def ReadsOwn (a : Assignment τ) (x : Scene) (path : Path) (content : Bytes)
    (r : Except Fault (Bytes × Int)) : Prop :=
  ∀ found modified, r = .ok (found, modified) → path = a.source x.current → found = content

/-- Reading changes nothing. -/
theorem behaves_onRead {path : Path} {Q : Except Fault (Bytes × Int) → Option Nat → Site τ → Prop}
    (h : ∀ s', a.Relies x own s s' → s'.Settled x → Q (Bytecode.readSource path s'.disk).1 own s') :
    (a.conduct x).Behaves x.ground (onDisk (Bytecode.readSource path)) own s Q := by
  refine behaves_onDisk fun s' hrelies hsettled => ?_
  rw [readSource_snd]
  exact ⟨.refl _, h s' hrelies hsettled⟩

/-- The compiler reads the content that the source was given. -/
theorem behaves_readSource {path : Path} {content : Bytes}
    (hholds : s.disk.HoldsOnly (a.sourcePlace x.current) content) :
    (a.conduct x).Behaves x.ground (readSource path) own s fun r own' _ =>
      own' = own ∧ a.ReadsOwn x path content r := by
  have hfault : ∀ fault, a.ReadsOwn x path content (.error fault) := by
    intro fault found modified hok
    cases hok
  have hfirst : (a.conduct x).Behaves x.ground (onDisk (Bytecode.readSource path)) own s
      fun r own' _ => own' = own ∧ a.ReadsOwn x path content r := by
    refine behaves_onRead fun s' hrelies hsettled => ⟨rfl, fun found modified hread hpath => ?_⟩
    have hnormal : path.IsNormal := hpath ▸ isNormal_source x.isNormal
    have hplace : path.way.destination s'.disk.current = a.sourcePlace x.current := by
      rw [hpath, hsettled.current]
      rfl
    have hfile := Disk.hasFile_of_readSource hsettled.plain hnormal
      (by rw [hplace]; exact a.isGenerated_sourcePlace x.current) hread
    rw [hplace] at hfile
    obtain ⟨mode, time, group, hnode⟩ := hfile
    exact hrelies.source content hholds found mode time group hnode
  have hsecond : ∀ s', (a.conduct x).Behaves x.ground (onDisk (Bytecode.readSource path)) own s'
      fun _ own' _ => own' = own := fun s' => behaves_onRead fun _ _ _ => rfl
  unfold readSource
  refine hfirst.andThen (fun entry own' s' hown => ?_) fun fault own' s' hown =>
    ⟨hown.1, hfault fault⟩
  obtain ⟨rfl, hcontent⟩ := hown
  refine (hsecond s').andThen (fun entry' own'' s'' hown => ?_) fun fault own'' s'' hown =>
    ⟨hown, hfault fault⟩
  refine .done ⟨hown, fun found modified hok hpath => ?_⟩
  cases hok
  exact hcontent entry.1 entry.2 rfl hpath

/-! ## Writing the source -/

/-- The source has been written, in the encoding of its text. -/
def HasSource (a : Assignment τ) (x : Scene) (s : Site τ) : Prop :=
  ∃ content, Text.Utf8.encode a.request.source = .ok content ∧
    s.disk.HoldsOnly (a.sourcePlace x.current) content

theorem HasSource.after {s' : Site τ} (h : a.HasSource x s) (hrelies : a.Relies x own s s') :
    a.HasSource x s' := by
  obtain ⟨content, hencode, hholds⟩ := h
  exact ⟨content, hencode, hrelies.source content hholds⟩

theorem behaves_materialize :
    (a.conduct x).Behaves x.ground a.materialize own s fun r own' s' =>
      own' = own ∧ ∀ path, r = .ok path → path = a.source x.current ∧ a.HasSource x s' := by
  have hlook : (a.conduct x).Behaves x.ground (look fun s => a.sourcePath s.disk) own s
      fun r own' _ => own' = own ∧ ∀ path, r = .ok path → path = a.source x.current :=
    behaves_look fun s' _ hsettled => ⟨rfl, fun path hpath => by
      rw [eq_source_of_sourcePath hpath, hsettled.current]⟩
  unfold materialize
  refine hlook.andThen (fun path own' s' hpath => ?_) fun fault own' s' hown =>
    ⟨hown.1, fun path hok => by cases hok⟩
  obtain ⟨rfl, hpath⟩ := hpath
  have hsource := hpath path rfl
  have hplace : path.way.destination x.current = a.sourcePlace x.current := by
    rw [hsource, sourcePlace]
  have hnormal : path.IsNormal := hsource ▸ isNormal_source x.isNormal
  have hne : path.parts ≠ [] := by
    obtain ⟨init, last, hparts⟩ := a.exists_parts_source x.current
    rw [hsource, hparts]
    simp
  cases hencode : Text.Utf8.encode a.request.source with
  | error run => exact .done ⟨rfl, fun path hok => by cases hok⟩
  | ok content =>
    refine (behaves_writeBytes hnormal hne (Or.inl hplace)).bind fun r own'' s'' hwritten => ?_
    obtain ⟨rfl, hwritten⟩ := hwritten
    split
    · exact .done ⟨rfl, fun path hok => by cases hok⟩
    · exact .done ⟨rfl, fun path hok => by cases hok⟩
    · refine .done ⟨rfl, fun found hok => ?_⟩
      rw [← Except.ok.inj hok]
      exact ⟨hsource, content, hencode, hplace ▸ (hwritten rfl).holdsOnly⟩

/-! ## Settings -/

/-- What is known of the settings that the compiler takes from the command line of an evaluation. -/
structure Understands (a : Assignment τ) (x : Scene) (st : Settings) : Prop where
  source : awaitsValue (a.config.compilerArguments ++
    Backend.moduleArguments a.request.entryPoint) = false → st.source = a.source x.current
  isModuleName : Settings.isModuleName st.module = true
  isNormal : ∀ directory, st.outputDirectory = some directory → directory.IsNormal
  own : x.together → st.module = a.request.entryPoint ∧
    st.outputDirectory = Settings.directoryOf a.config

theorem understands_of_arguments
    (htogether : x.together → awaitsValue a.config.compilerArguments = false) {path : Path}
    (hpath : path = a.source x.current) {st : Settings}
    (h : Settings.ofArguments (a.arguments path) = .ok st) : a.Understands x st := by
  have htext : ['.', 'p', 'y'] <:+ path.text.toList := hpath ▸ a.text_source x.current
  have hnormal : path.IsNormal := hpath ▸ isNormal_source x.isNormal
  unfold arguments at h
  refine ⟨fun hcut => ?_, ?_, ?_, ?_⟩
  · rw [Settings.source_of_arguments htext hcut h, Path.ofString_text hnormal, hpath]
  · obtain ⟨items, word, -, -, -, -, hname, -⟩ := Settings.ofArguments_spec h
    exact hname
  · intro directory hdirectory
    obtain ⟨items, word, -, -, -, -, -, houtput⟩ := Settings.ofArguments_spec h
    rw [houtput, Option.map_eq_some_iff] at hdirectory
    obtain ⟨value, -, rfl⟩ := hdirectory
    exact Path.isNormal_ofString value
  · intro hall
    exact (Settings.module_of_arguments htext (htogether hall) h).2

/-! ## Emitting -/

theorem mayEmit_below {directory : Path} {module : String}
    (hmodule : Settings.isModuleName module = true)
    (hown : x.together → module = a.request.entryPoint ∧
      Settings.directoryOf a.config = some directory) :
    a.MayEmit x own (Bytecode.modulePlace directory module x.current) := by
  refine ⟨Bytecode.isBytecodePlace_modulePlace hmodule directory x.current, fun htogether => ?_⟩
  obtain ⟨hentry, hdirectory⟩ := hown htogether
  rw [hdirectory, ← hentry]
  exact ⟨hmodule, rfl⟩

/-- What the report of a compilation without errors says about the emitted file: it is below the
configured directory, or kept in memory. -/
structure Reported (a : Assignment τ) (x : Scene) (report : Report) (emission : Option Emission)
    (s : Site τ) : Prop where
  below : report.output = none → x.together → ∃ directory data,
    Settings.isModuleName a.request.entryPoint = true ∧
      Settings.directoryOf a.config = some directory ∧
      emission = some ⟨some directory, data⟩ ∧ a.IsCompiled data ∧
      s.disk.HasFile (Bytecode.modulePlace directory a.request.entryPoint x.current) data
  inMemory : ∀ artifacts, report.output = some artifacts → ∃ module data,
    Settings.isModuleName module = true ∧ Bytecode.emitInMemory module data = .ok artifacts ∧
      (x.together → module = a.request.entryPoint ∧ Settings.directoryOf a.config = none ∧
        emission = some ⟨none, data⟩ ∧ a.IsCompiled data)

theorem Reported.after {report : Report} {emission : Option Emission} {s' : Site τ}
    (h : a.Reported x report emission s) (hrelies : a.Relies x own s s') :
    a.Reported x report emission s' := by
  refine ⟨fun hnone htogether => ?_, h.inMemory⟩
  obtain ⟨directory, data, hname, hdirectory, hemission, hcompiled, hfile⟩ :=
    h.below hnone htogether
  exact ⟨directory, data, hname, hdirectory, hemission, hcompiled,
    hrelies.emitted htogether _ _ (mayEmit_below hname fun _ => ⟨rfl, hdirectory⟩) hfile⟩

theorem isNormal_moduleFile {module : String} (hmodule : Settings.isModuleName module = true)
    {directory : Path} (h : directory.IsNormal) :
    (Bytecode.moduleFile directory module).IsNormal ∧
      (Bytecode.moduleFile directory module).parts ≠ [] := by
  obtain ⟨init, hparts, hnames⟩ := Bytecode.moduleParts_eq hmodule
  rw [Bytecode.moduleFile_eq hmodule]
  refine ⟨fun part hpart => ?_, by simp [hparts]⟩
  rcases List.mem_append.mp hpart with hmem | hmem
  · exact h part hmem
  · exact (hnames part hmem).1

theorem eq_ok_of_toldOf {target : Path} {r : Except Fault Unit}
    (h : Bytecode.toldOf target r = .ok ()) : r = .ok () := by
  cases r with
  | error fault => cases fault <;> cases h
  | ok => rfl

theorem behaves_emitBelow {directory : Path} {module : String} {data : Bytes}
    (hmodule : Settings.isModuleName module = true) (hnormal : directory.IsNormal)
    (hown : x.together → module = a.request.entryPoint ∧
      Settings.directoryOf a.config = some directory) :
    (a.conduct x).Behaves x.ground (emitBelow directory module data) own s fun r own' s' =>
      own' = own ∧ (r = .ok () → x.together →
        s'.disk.HasFile (Bytecode.modulePlace directory module x.current) data) := by
  have hplace : (Bytecode.moduleFile directory module).way.destination x.current =
      Bytecode.modulePlace directory module x.current := by
    rw [Bytecode.modulePlace]
  have hemit : ∀ own', a.MayEmit x own' (Bytecode.modulePlace directory module x.current) :=
    fun _ => mayEmit_below hmodule hown
  have hfile := (isNormal_moduleFile hmodule hnormal).1
  have hne := (isNormal_moduleFile hmodule hnormal).2
  unfold emitBelow
  dsimp only
  generalize Bytecode.moduleFile directory module = target at hplace hfile hne
  have hdirectories : (a.conduct x).Behaves x.ground
      ((ensurePath target.parent).map (Bytecode.toldOf target)) own s fun _ own' _ => own' = own :=
    (behaves_ensurePath _).map fun _ _ _ hown' => hown'
  refine hdirectories.andThen (fun _ own' s' hown' => ?_) fun fault own' s' hown' =>
    ⟨hown', fun hok => by cases hok⟩
  subst hown'
  refine (behaves_writeBytes hfile hne (Or.inr (hplace ▸ hemit own'))).map
    fun r own'' s'' hwritten => ?_
  obtain ⟨rfl, hwritten⟩ := hwritten
  rw [hplace] at hwritten
  refine ⟨rfl, fun hok htogether => ?_⟩
  exact (hwritten (eq_ok_of_toldOf hok)).hasFile htogether (hemit own'')

/-- A compiled file is reported as emitted. -/
theorem behaves_emit {st : Settings} {report : Report} {data : Bytes} (hst : a.Understands x st)
    (hdata : x.together → a.IsCompiled data) (houtput : report.output = none) :
    (a.conduct x).Behaves x.ground (emit st report data) own s fun r own' s' =>
      own' = own ∧ ∀ report' emission, r = .ok (report', emission) →
        a.Reported x report' emission s' := by
  unfold emit
  cases hdirectory : st.outputDirectory with
  | none =>
    refine .done ⟨rfl, fun report' emission hok => ?_⟩
    obtain ⟨artifacts, hartifacts, heq⟩ := exists_of_map_ok hok
    cases heq
    refine ⟨fun hnone => (by cases hnone), fun artifacts' hsome => ?_⟩
    cases hsome
    refine ⟨st.module, data, hst.isModuleName, hartifacts, fun htogether => ?_⟩
    obtain ⟨hentry, hown⟩ := hst.own htogether
    exact ⟨hentry, hown.symm.trans hdirectory, rfl, hdata htogether⟩
  | some directory =>
    have hown : x.together → st.module = a.request.entryPoint ∧
        Settings.directoryOf a.config = some directory := fun htogether =>
      ⟨(hst.own htogether).1, (hst.own htogether).2.symm.trans hdirectory⟩
    refine (behaves_emitBelow hst.isModuleName (hst.isNormal _ hdirectory) hown).andThen
      (fun _ own' s' hfile => ?_) fun fault own' s' hfile =>
        ⟨hfile.1, fun report' emission hok => by cases hok⟩
    refine .done ⟨hfile.1, fun report' emission hok => ?_⟩
    cases hok
    refine ⟨fun _ htogether => ?_, fun artifacts hsome => ?_⟩
    · obtain ⟨hentry, hconfigured⟩ := hown htogether
      rw [← hentry]
      exact ⟨directory, data, hst.isModuleName, hconfigured, rfl, hdata htogether,
        hfile.2 rfl htogether⟩
    · rw [houtput] at hsome
      cases hsome

/-! ## Compiling -/

/-- Without code there is an error, and code is what the code generator has made. -/
theorem code_of_conclude {st : Settings} {p : CodeProduct} {diagnostics : List Diagnostic}
    {code : Option Bytes} (h : Bytecode.conclude st p = .ok (diagnostics, code)) :
    match code with
    | none => (diagnostics.any fun d => d.severity = .error) = true
    | some code => p.result = .ok code := by
  unfold Bytecode.conclude at h
  dsimp only at h
  split at h
  · rename_i hresult
    cases h
    exact hresult
  · cases h
    simp [Bytecode.sourceDiagnostic]
  · split at h <;> cases h

/-- What is known of a compilation that has ended without errors. -/
def Compiled (a : Assignment τ) (x : Scene) (r : Except Fault (Report × Option Emission))
    (s : Site τ) : Prop :=
  ∀ report emission, r = .ok (report, emission) → report.hasErrors = false →
    a.Reported x report emission s

theorem behaves_finish {st : Settings} {source : Bytes} {modified : Int} {p : CodeProduct}
    (hst : a.Understands x st)
    (hproduct : x.together → ∃ filename optimize site,
      Text.Utf8.encode a.request.source = .ok source ∧
        (a.generate ⟨source, filename, optimize⟩ site).1 = p) :
    (a.conduct x).Behaves x.ground (finish st source modified p) own s fun r own' s' =>
      own' = own ∧ a.Compiled x r s' := by
  unfold finish
  cases hconclude : Bytecode.conclude st p with
  | error fault => exact .done ⟨rfl, fun report emission hok => by cases hok⟩
  | ok concluded =>
    obtain ⟨diagnostics, code⟩ := concluded
    have hcode := code_of_conclude hconclude
    dsimp only
    cases code with
    | none =>
      refine .done ⟨rfl, fun report emission hok hclean => ?_⟩
      cases hok
      exact absurd hcode (Bool.eq_false_iff.mp hclean)
    | some code =>
      dsimp only at hcode ⊢
      split
      · rename_i herrors
        refine .done ⟨rfl, fun report emission hok hclean => ?_⟩
        cases hok
        exact absurd herrors (Bool.eq_false_iff.mp hclean)
      · cases hfile : Bytecode.fileAt code source.length (Bytecode.secondsOf modified) with
        | error fault => exact .done ⟨rfl, fun report emission hok => by cases hok⟩
        | ok data =>
          have hdata : x.together → a.IsCompiled data := by
            intro htogether
            obtain ⟨filename, optimize, site, hencode, hgenerate⟩ := hproduct htogether
            obtain ⟨seconds, -, hseconds⟩ := exists_of_map_ok hfile
            exact ⟨source, filename, optimize, site, code, seconds, hencode,
              hgenerate ▸ hcode, hseconds⟩
          exact (behaves_emit hst hdata rfl).mono fun r own' s' hemit =>
            ⟨hemit.1, fun report emission hok _ => hemit.2 report emission hok⟩

theorem awaitsValue_entry (h : awaitsValue a.config.compilerArguments = false) :
    awaitsValue (a.config.compilerArguments ++ Backend.moduleArguments a.request.entryPoint) =
      false := by
  rw [awaitsValue_append h]
  exact awaitsValue_option "-module" rfl rfl _ _

/-- The compiler asks for the code of the assignment's own source. -/
theorem behaves_compile (htogether : x.together → awaitsValue a.config.compilerArguments = false)
    {path : Path} (hpath : path = a.source x.current) (hsource : a.HasSource x s) :
    (a.conduct x).Behaves x.ground (a.compile path) own s fun r own' s' =>
      own' = own ∧ a.Compiled x r s' := by
  unfold compile
  cases harguments : Settings.ofArguments (a.arguments path) with
  | error e => exact .done ⟨rfl, fun report emission hok => by cases hok⟩
  | ok st =>
    have hst := understands_of_arguments htogether hpath harguments
    obtain ⟨content, hencode, hholds⟩ := hsource
    dsimp only
    refine (behaves_readSource hholds).andThen (fun entry own' s' hread => ?_)
      fun fault own' s' hread => ⟨hread.1, fun report emission hok => by cases hok⟩
    obtain ⟨found, modified⟩ := entry
    obtain ⟨rfl, hread⟩ := hread
    have hown : awaitsValue (a.config.compilerArguments ++
        Backend.moduleArguments a.request.entryPoint) = false →
          Text.Utf8.encode a.request.source = .ok found := by
      intro hcut
      rw [hencode, hread found modified rfl (hst.source hcut)]
    have hgenerate : (a.conduct x).Behaves x.ground
        (a.generateCode ⟨found, st.source.text, st.optimize⟩) own' s' fun p own'' _ =>
          own'' = own' ∧ ∃ site, (a.generate ⟨found, st.source.text, st.optimize⟩ site).1 = p :=
      .ask fun s'' _ _ => ⟨hown, .refl _, rfl, s''.other, rfl⟩
    refine hgenerate.bind fun p own'' s'' hp => ?_
    obtain ⟨rfl, site, hp⟩ := hp
    refine behaves_finish hst fun hall => ?_
    exact ⟨_, _, site, hown (awaitsValue_entry (htogether hall)), hp⟩

/-! ## Running -/

theorem behaves_runProgram {classpath : List String} {emission : Option Emission}
    (hasks : ∀ s', a.Relies x own s s' → s'.Settled x →
      a.Asks x (.run (a.evaluator.runRequest a.request classpath) emission) s') :
    (a.conduct x).Behaves x.ground (a.runProgram classpath emission) own s
      fun _ own' _ => own' = own :=
  .ask fun s' hrelies hsettled => ⟨hasks s' hrelies hsettled, .refl _, rfl⟩

theorem resolvePlace_moduleFile (hsettled : s.Settled x) {module : String}
    (hmodule : Settings.isModuleName module = true) {directory : Path}
    (hdirectory : directory.IsNormal) :
    s.disk.resolvePlace (Bytecode.moduleFile directory module).way.octets =
      Bytecode.modulePlace directory module x.current := by
  have hnamed := Path.named_way (isNormal_moduleFile hmodule hdirectory).1
  rw [Disk.resolvePlace_way hsettled.plain hnamed, hsettled.current, Bytecode.modulePlace]

theorem isNormal_directoryOf {c : Config} {directory : Path}
    (h : Settings.directoryOf c = some directory) : directory.IsNormal := by
  unfold Settings.directoryOf at h
  split at h
  · obtain ⟨value, -, rfl⟩ := Option.map_eq_some_iff.mp h
    exact Path.isNormal_ofString value
  · cases h

/-- A run without a scratch directory finds its file below the configured directory. -/
theorem behaves_runBelow {report : Report} {emission : Option Emission}
    (hreport : a.Reported x report emission s) (hnone : report.output = none)
    (classpath : List String) :
    (a.conduct x).Behaves x.ground (a.runProgram classpath emission) own s
      fun _ own' _ => own' = own := by
  refine behaves_runProgram fun s' hrelies hsettled hall => ?_
  obtain ⟨directory, data, hname, hdirectory, hemission, hcompiled, hfile⟩ :=
    (hreport.after hrelies).below hnone hall
  refine ⟨directory, data, hemission, hcompiled, Or.inl hdirectory, ?_⟩
  rw [resolvePlace_moduleFile hsettled hname (isNormal_directoryOf hdirectory)]
  exact hfile

/-! ## Running on a scratch directory -/

theorem mayEmit_scratch {n : Nat} {module : String}
    (hmodule : Settings.isModuleName module = true)
    (hown : x.together → module = a.request.entryPoint ∧ Settings.directoryOf a.config = none) :
    a.MayEmit x (some n) (Bytecode.modulePlace (x.scratchAt n).path module x.current) := by
  refine ⟨Bytecode.isBytecodePlace_modulePlace hmodule _ _, fun htogether => ?_⟩
  obtain ⟨hentry, hnone⟩ := hown htogether
  rw [hnone, ← hentry]
  refine ⟨hmodule, n, rfl, ?_⟩
  rw [Bytecode.modulePlace, Bytecode.destination_moduleFile hmodule, x.destination_scratchAt]
  exact List.prefix_append _ _

theorem behaves_exportFile {w : Way} (hw : w.Named) (hne : w.parts ≠ [])
    (hwrites : a.Writes x own (w.destination x.current)) {content : Bytes} :
    (a.conduct x).Behaves x.ground (exportFile w content) own s fun r own' s' =>
      own' = own ∧ (r = .ok () → a.Written x own (w.destination x.current) content s') := by
  unfold exportFile
  split
  · exact .done ⟨rfl, fun hok => by cases hok⟩
  · refine (behaves_makeDirectories _ _ _).bind fun r own' s' hown => ?_
    subst hown
    split
    · exact .done ⟨rfl, fun hok => by cases hok⟩
    · exact .done ⟨rfl, fun hok => by cases hok⟩
    · exact behaves_exportInto hw hne hwrites

/-- The artifacts of a compilation are exported to the file of their module. -/
theorem behaves_exportModule {n : Nat} {module : String} {data : Bytes} {artifacts : Artifacts}
    (hmodule : Settings.isModuleName module = true)
    (hemit : Bytecode.emitInMemory module data = .ok artifacts)
    (hown : x.together → module = a.request.entryPoint ∧ Settings.directoryOf a.config = none) :
    (a.conduct x).Behaves x.ground (exportFiles (x.scratchAt n).path artifacts.files) (some n) s
      fun r own' s' => own' = some n ∧ (r = .ok () → x.together →
        s'.disk.HasFile (Bytecode.modulePlace (x.scratchAt n).path module x.current) data) := by
  obtain ⟨k, hfiles, htarget⟩ := Artifacts.target_of_emitInMemory hmodule hemit
  have hfile := isNormal_moduleFile hmodule (x.isNormal_scratchAt n)
  have hnamed : (Artifacts.target (x.scratchAt n).path k).Named := by
    rw [htarget]
    exact Path.named_way hfile.1
  have hne : (Artifacts.target (x.scratchAt n).path k).parts ≠ [] := by
    rw [htarget]
    simpa [Path.way] using hfile.2
  have hplace : (Artifacts.target (x.scratchAt n).path k).destination x.current =
      Bytecode.modulePlace (x.scratchAt n).path module x.current := by
    rw [htarget, Bytecode.modulePlace]
  have hmay := mayEmit_scratch (a := a) (n := n) hmodule hown
  rw [hfiles]
  unfold exportFiles
  refine (behaves_exportFile hnamed hne (Or.inr (hplace ▸ hmay))).bind fun r own' s' hwritten => ?_
  obtain ⟨rfl, hwritten⟩ := hwritten
  rw [hplace] at hwritten
  split
  · exact .done ⟨rfl, fun _ hall => (hwritten rfl).hasFile hall hmay⟩
  · exact .done ⟨rfl, fun hok => by cases hok⟩

/-- A run on a scratch directory finds its file there. -/
theorem behaves_runExported {report : Report} {emission : Option Emission} {artifacts : Artifacts}
    {s₀ : Site τ} (hreport : a.Reported x report emission s₀)
    (hsome : report.output = some artifacts) (classpath : List String) (n : Nat) :
    (a.conduct x).Behaves x.ground (a.runExported classpath artifacts emission (x.scratchAt n))
      (some n) s fun _ own' _ => own' = some n := by
  obtain ⟨module, data, hmodule, hemit, hown⟩ := hreport.inMemory artifacts hsome
  have hentry : x.together →
      module = a.request.entryPoint ∧ Settings.directoryOf a.config = none :=
    fun hall => ⟨(hown hall).1, (hown hall).2.1⟩
  unfold runExported
  refine (behaves_exportModule hmodule hemit hentry).bind fun r own' s' hfile => ?_
  obtain ⟨rfl, hfile⟩ := hfile
  split
  · exact .done rfl
  · refine behaves_runProgram fun s'' hrelies hsettled hall => ?_
    obtain ⟨rfl, hnone, hemission, hcompiled⟩ := hown hall
    refine ⟨(x.scratchAt n).path, data, ?_, hcompiled, Or.inr ⟨hnone, rfl⟩, ?_⟩
    · rw [hemission]
      rfl
    · rw [resolvePlace_moduleFile hsettled hmodule (x.isNormal_scratchAt n)]
      exact hrelies.emitted hall _ _ (mayEmit_scratch hmodule hentry) (hfile rfl hall)

theorem behaves_runInScratch {report : Report} {emission : Option Emission}
    {artifacts : Artifacts} (hreport : a.Reported x report emission s)
    (hsome : report.output = some artifacts) (classpath : List String) :
    (a.conduct x).Behaves x.ground (a.runInScratch classpath artifacts emission) own s
      fun _ _ _ => True := by
  obtain ⟨module, data, -, -, hown⟩ := hreport.inMemory artifacts hsome
  unfold runInScratch
  refine behaves_openScratch.andThen (fun place own' s' hplace => ?_) fun _ _ _ _ => trivial
  obtain ⟨n, rfl, rfl⟩ := hplace place rfl
  refine (behaves_runExported hreport hsome classpath n).bind fun result own' s' hown' => ?_
  subst hown'
  refine (behaves_removeScratch fun hall => (hown hall).2.1).bind fun removed own' s' _ => ?_
  exact .done trivial

/-! ## The whole evaluation -/

theorem behaves_execute {report : Report} {emission : Option Emission}
    (hreport : a.Reported x report emission s) :
    (a.conduct x).Behaves x.ground (a.execute report emission) own s fun _ _ _ => True := by
  have hlook : (a.conduct x).Behaves x.ground
      (look fun s => Evaluator.runClasspath a.config s.disk a.request.classpath) own s
      fun _ own' s' => own' = own ∧ a.Reported x report emission s' :=
    behaves_look fun s' hrelies _ => ⟨rfl, hreport.after hrelies⟩
  unfold execute
  refine hlook.andThen (fun classpath own' s' hown => ?_) fun _ _ _ _ => trivial
  obtain ⟨rfl, hreport'⟩ := hown
  cases houtput : report.output with
  | none => exact (behaves_runBelow hreport' houtput classpath).mono fun _ _ _ _ => trivial
  | some artifacts => exact behaves_runInScratch hreport' houtput classpath

theorem behaves_runReport {report : Report} {emission : Option Emission}
    (hreport : report.hasErrors = false → a.Reported x report emission s) :
    (a.conduct x).Behaves x.ground (a.runReport report emission) own s fun _ _ _ => True := by
  unfold runReport
  split
  · exact .done trivial
  · rename_i hclean
    have hreport := hreport (Bool.eq_false_iff.mpr hclean)
    have hlook : (a.conduct x).Behaves x.ground (look fun s => a.cancelled s.other) own s
        fun _ own' s' => own' = own ∧ a.Reported x report emission s' :=
      behaves_look fun s' hrelies _ => ⟨rfl, hreport.after hrelies⟩
    refine hlook.bind fun cancelled own' s' hown => ?_
    obtain ⟨rfl, hreport'⟩ := hown
    split
    · exact .done trivial
    · refine (behaves_execute hreport').bind fun r own'' s'' _ => ?_
      split <;> exact .done trivial

theorem behaves_compileSource
    (htogether : x.together → awaitsValue a.config.compilerArguments = false) {path : Path}
    (hpath : path = a.source x.current) (hsource : a.HasSource x s) :
    (a.conduct x).Behaves x.ground (a.compileSource path) own s fun _ _ _ => True := by
  have hlook : (a.conduct x).Behaves x.ground (look fun s => a.cancelled s.other) own s
      fun _ own' s' => own' = own ∧ a.HasSource x s' :=
    behaves_look fun s' hrelies _ => ⟨rfl, hsource.after hrelies⟩
  unfold compileSource
  refine hlook.bind fun cancelled own' s' hown => ?_
  obtain ⟨rfl, hsource'⟩ := hown
  split
  · exact .done trivial
  · refine (behaves_compile htogether hpath hsource').bind fun r own'' s'' hcompiled => ?_
    split
    · exact behaves_runReport (hcompiled.2 _ _ rfl)
    · exact .done trivial

/-- All that an evaluation does keeps to its conduct. -/
theorem behaves_work (htogether : x.together → awaitsValue a.config.compilerArguments = false) :
    (a.conduct x).Behaves x.ground a.work own s fun _ _ _ => True := by
  unfold work
  refine behaves_materialize.andThen (fun path own' s' hpath => ?_) fun _ _ _ _ => trivial
  obtain ⟨rfl, hpath⟩ := hpath
  obtain ⟨hsource, hwritten⟩ := hpath path rfl
  exact behaves_compileSource htogether hsource hwritten

end Assignment

end Worksheet
