-- Where a run finds what has been compiled. The compiler writes the module below a directory, or an
-- evaluation exports it to a scratch directory, and the class path of the run has an entry that
-- leads to the same directory, through whatever links.
import Worksheet.Proofs.ConfiguredOptions
import Worksheet.Proofs.FileEdits
import Worksheet.Proofs.OwnModule
import Worksheet.Proofs.RealPaths

namespace Worksheet

open Text (Bytes Octets Points)

/-! ## Modules in directories -/

namespace Disk

variable {d : Disk} {directory place : Place} {module : String} {data : Bytes}

/-- An entry of a class path leads to a directory, and the path of the module leads on from there to
something with this content. Only what is no regular file may have another content. -/
def HoldsModule (d : Disk) (entry module : String) (data : Bytes) : Prop :=
  ∃ directory n place, d.stat (Octets.ofString entry) = .ok (directory, n) ∧
    n.isDirectory = true ∧
    d.Holds directory (Octets.ofString (Bytecode.modulePath module)) place data

theorem HoldsModule.of_root {d' : Disk} {entry : String} (h : d.HoldsModule entry module data)
    (hroot : d'.root = d.root) (hcurrent : d'.current = d.current) :
    d'.HoldsModule entry module data := by
  obtain ⟨directory, n, place, hstat, hdir, hholds⟩ := h
  refine ⟨directory, n, place, ?_, hdir, hholds.of_root hroot⟩
  rw [← hstat]
  unfold stat statFrom statWith node?
  rw [hcurrent, locateWith_of_root hroot, hroot]

theorem octets_modulePath (hmodule : Settings.isModuleName module = true) :
    Octets.ofString (Bytecode.modulePath module) =
      Way.octets ⟨.current, (Bytecode.moduleParts module).map Octets.ofString⟩ := by
  obtain ⟨init, hparts, -⟩ := Bytecode.moduleParts_eq hmodule
  have htext : (⟨.current, Bytecode.moduleParts module⟩ : Path).text =
      Bytecode.modulePath module := by
    rw [Path.text_of_parts (by simp [hparts])]
    exact String.empty_append
  rw [← htext, ← Path.octets_way]
  rfl

theorem named_of_isFileName {parts : List String} (h : ∀ part ∈ parts, IsFileName part) :
    Named (parts.map Octets.ofString) :=
  Path.named_way (p := ⟨.current, parts⟩) fun part hpart => (h part hpart).1

/-- The directory that a module has been written below can be reached, and the module from there. -/
theorem Holds.exists_directory {path : Path} (hpath : path.IsNormal)
    (hmodule : Settings.isModuleName module = true)
    (h : d.Holds directory (Bytecode.moduleFile path module).way.octets place data) :
    ∃ r n, d.locateWith true directory path.way.octets = .ok r ∧ d.node? r = some n ∧
      n.isDirectory = true ∧ (Open d.root directory → Open d.root r) ∧
      d.Holds r (Octets.ofString (Bytecode.modulePath module)) place data := by
  obtain ⟨init, hparts, hfiles⟩ := Bytecode.moduleParts_eq hmodule
  have hfurther : Named ((Bytecode.moduleParts module).map Octets.ofString) :=
    named_of_isFileName hfiles
  have hne : (Bytecode.moduleParts module).map Octets.ofString ≠ [] := by
    rw [hparts, Ne, List.map_eq_nil_iff]
    exact List.append_ne_nil_of_right_ne_nil init (List.cons_ne_nil _ _)
  have hway : (Bytecode.moduleFile path module).way =
      ⟨path.anchor, path.parts.map Octets.ofString ++
        (Bytecode.moduleParts module).map Octets.ofString⟩ := by
    rw [Bytecode.moduleFile_eq hmodule]
    unfold Path.way
    rw [List.map_append]
  have hleads := h.leads
  rw [hway] at hleads
  obtain ⟨r, hr, ⟨n, hn, hdir, -⟩, hopen, hrest⟩ :=
    Disk.exists_directory (Path.named_way hpath) hfurther hne hleads
  exact ⟨r, n, hr, hn, hdir, hopen, octets_modulePath hmodule ▸ ⟨hrest, h.stands⟩⟩

/-- The text of a path leads from the current directory to the module that has been written below
the path. -/
theorem Holds.holdsModule {path : Path} (hpath : path.IsNormal)
    (hmodule : Settings.isModuleName module = true)
    (h : d.Holds d.current (Bytecode.moduleFile path module).way.octets place data) :
    d.HoldsModule path.text module data := by
  obtain ⟨r, n, hr, hn, hdir, -, hholds⟩ := h.exists_directory hpath hmodule
  refine ⟨r, n, place, ?_, hdir, hholds⟩
  rw [← Path.octets_way]
  unfold stat statFrom statWith
  simp only [hr, hn]

/-- So does the text of its absolute form. -/
theorem Holds.holdsModule_resolve {path found : Path} (hpath : path.IsNormal)
    (hmodule : Settings.isModuleName module = true) (haddress : d.Addressable)
    (hcurrent : Open d.root d.current) (hresolve : d.resolve path = .ok found)
    (h : d.Holds d.current (Bytecode.moduleFile path module).way.octets place data) :
    d.HoldsModule found.text module data := by
  obtain ⟨r, n, hr, hn, hdir, hopen, hholds⟩ := h.exists_directory hpath hmodule
  have hfound : found = r.path := by
    unfold resolve at hresolve
    split at hresolve
    · cases hresolve
    · dsimp only at hresolve
      split at hresolve
      · cases hresolve
      · rw [resolvePlace_of_locateWith haddress hcurrent hr] at hresolve
        exact (Except.ok.inj hresolve).symm
  have htext : Octets.ofString found.text = r.octets := by
    rw [hfound, ← Path.octets_way, Place.way_path (haddress.spelled r n hn)]
    rfl
  refine ⟨r, n, place, ?_, hdir, hholds⟩
  rw [htext]
  exact stat_place (hopen hcurrent) (haddress.short r n hn) hn hdir

end Disk

namespace Assignment

open Steps

variable {τ : Type} {a : Assignment τ} {x : Scene} {own : Option Nat} {s : Site τ}
  {runs : Disk → RunRequest → Option Emission → Prop}

/-! ## Writing below a directory -/

theorem lone_ensurePath (path : Path) :
    (lone runs).Behaves x.still (ensurePath path) own s fun _ _ _ => True := by
  unfold ensurePath
  split
  · exact .done trivial
  · refine (lone_makeDirectories (I := fun _ => True) (fun _ _ => trivial)
      (fun _ _ => trivial) trivial _ _ _).bind fun r own' s' _ => ?_
    split <;> exact .done trivial

/-- What is written is what the path leads to. -/
theorem lone_writeBytes {path : Path} (hpath : path.IsNormal) (hne : path.parts ≠ [])
    {content : Bytes} :
    (lone runs).Behaves x.still (writeBytes path content) own s fun r _ s' =>
      r = .ok () → ∃ place, s'.disk.Holds x.current path.way.octets place content := by
  have htrim : Way.trimSlashes path.way.octets = path.way.octets :=
    Way.trimSlashes_octets (Path.named_way hpath) (by simpa [Path.way] using hne)
  unfold writeBytes
  split
  · exact .done fun hok => by cases hok
  refine (lone_openToWrite (Q := fun place d => d.Holds x.current path.way.octets place [])
    fun d place d' _ hopen => Disk.holds_of_openToWrite htrim hopen).bind fun r own' s' hr => ?_
  cases r with
  | error e => exact .done fun hok => by cases hok
  | ok place =>
    have hholds := hr place rfl
    have hfill : (lone runs).Behaves x.still (fill place content) own' s' fun r _ s'' =>
        r = .ok () → s''.disk.Holds x.current path.way.octets place content := by
      refine lone_onDisk fun s'' hroot _ => ?_
      cases hfill : s''.disk.fill place content with
      | error e => exact ⟨⟨rfl, rfl⟩, fun hok => by cases hok⟩
      | ok d => exact ⟨Disk.same_of_fill hfill, fun _ => (hholds.of_root hroot).fill hfill⟩
    refine hfill.map fun r own'' s'' hholds hok => ⟨place, hholds ?_⟩
    cases r with
    | error e => cases hok
    | ok => rfl

theorem lone_emitBelow {directory : Path} (hdirectory : directory.IsNormal) {module : String}
    (hmodule : Settings.isModuleName module = true) (data : Bytes) :
    (lone runs).Behaves x.still (emitBelow directory module data) own s fun r _ s' =>
      r = .ok () → ∃ place,
        s'.disk.Holds x.current (Bytecode.moduleFile directory module).way.octets place data := by
  obtain ⟨hnormal, hne⟩ := isNormal_moduleFile hmodule hdirectory
  unfold emitBelow
  refine ((lone_ensurePath _).map (R := fun _ _ _ => True) fun _ _ _ _ => trivial).andThen
    (fun _ own' s' _ => ?_) fun _ _ _ _ => nofun
  refine (lone_writeBytes hnormal hne).map fun r own'' s'' hholds hok => ?_
  exact hholds (eq_ok_of_toldOf hok)

/-! ## Compiling -/

/-- A report without errors comes with the module in memory, or the module is below the configured
directory. -/
def LeavesModule (a : Assignment τ) (x : Scene) (r : Except Fault (Report × Option Emission))
    (d : Disk) : Prop :=
  ∀ report emission, r = .ok (report, emission) → report.hasErrors = false →
    Settings.isModuleName a.request.entryPoint = true ∧ ∃ data,
      (Settings.directoryOf a.config = none ∧
        report.output = some (inMemory a.request.entryPoint data) ∧
          emission = some ⟨none, data⟩) ∨
      ∃ directory place, Settings.directoryOf a.config = some directory ∧
        report.output = none ∧ emission = some ⟨some directory, data⟩ ∧
          d.Holds x.current (Bytecode.moduleFile directory a.request.entryPoint).way.octets place
            data

theorem LeavesModule.of_root {r : Except Fault (Report × Option Emission)} {d d' : Disk}
    (hroot : d'.root = d.root) (h : a.LeavesModule x r d) : a.LeavesModule x r d' := by
  intro report emission hok hclean
  obtain ⟨hmodule, data, hkept | ⟨directory, place, hdirectory, hreport, hemission, hholds⟩⟩ :=
    h report emission hok hclean
  · exact ⟨hmodule, data, Or.inl hkept⟩
  · exact ⟨hmodule, data, Or.inr ⟨directory, place, hdirectory, hreport, hemission,
      hholds.of_root hroot⟩⟩

theorem lone_finish {st : Settings}
    (hmodule : Settings.isModuleName a.request.entryPoint = true)
    (hsame : st.module = a.request.entryPoint)
    (hdirectory : st.outputDirectory = Settings.directoryOf a.config) (source : Bytes)
    (modified : Int) (p : CodeProduct) :
    (lone runs).Behaves x.still (finish st source modified p) own s
      fun r _ s' => a.LeavesModule x r s'.disk := by
  rcases finish_cases st source modified p with
    ⟨r, hfinish, herrors⟩ | ⟨report, code, seconds, -, -, hreport, hfinish⟩
  · rw [hfinish]
    refine .done fun report emission hok hclean => ?_
    rw [herrors report emission hok] at hclean
    cases hclean
  rw [hfinish, emit]
  cases hconfigured : st.outputDirectory with
  | none =>
    dsimp only
    rw [hsame, Bytecode.emitInMemory_eq hmodule]
    refine .done fun report' emission hok _ => ?_
    cases hok
    exact ⟨hmodule, _, Or.inl ⟨hdirectory.symm.trans hconfigured, rfl, rfl⟩⟩
  | some directory =>
    have hthis := hdirectory.symm.trans hconfigured
    refine (lone_emitBelow (isNormal_directoryOf hthis) (hsame ▸ hmodule) _).andThen
      (fun _ own' s' hholds => ?_) fun _ _ _ _ _ _ hok => by cases hok
    obtain ⟨place, hholds⟩ := hholds rfl
    refine .done fun report' emission hok _ => ?_
    cases hok
    exact ⟨hmodule, _, Or.inr ⟨directory, place, hthis, hreport, rfl, hsame ▸ hholds⟩⟩

/-! ## Running -/

/-- An entry of the class path leads to what has been emitted. -/
def FindsOutput (a : Assignment τ) (d : Disk) (request : RunRequest) (emission : Option Emission) :
    Prop :=
  ∃ directory data, emission = some ⟨some directory, data⟩ ∧
    ∃ entry ∈ request.classpath, d.HoldsModule entry a.request.entryPoint data

/-- If the current directory can be walked to and paths can be handed on, a run finds its output. -/
def Finds (a : Assignment τ) (d : Disk) (request : RunRequest) (emission : Option Emission) :
    Prop :=
  Disk.Open d.root d.current → d.Addressable → a.FindsOutput d request emission

/-- The class path of a run has the directory that is configured. -/
theorem mem_runClasspath {c : Config} {name : String}
    (hnamed : Settings.namedDirectory c = some name) {d : Disk} {entries classpath : List String}
    (h : Evaluator.runClasspath c d entries = .ok classpath) :
    ∃ found, d.resolve (Path.ofString name) = .ok found ∧ found.text ∈ classpath := by
  obtain ⟨hdirectory, hname⟩ := Option.filter_eq_some_iff.mp hnamed
  have hname : name.isEmpty = false := by simpa using hname
  unfold Evaluator.runClasspath at h
  simp only [hdirectory, hname, Bool.false_eq_true, if_false] at h
  obtain ⟨found, hfound, rfl⟩ := exists_of_map_ok h
  refine ⟨found, hfound, ?_⟩
  split
  · next hmem => simpa using hmem
  · simp

/-- A module below the configured directory is found through the absolute form of its path. -/
theorem lone_execute_below (hmodule : Settings.isModuleName a.request.entryPoint = true)
    {name : String} (hnamed : Settings.namedDirectory a.config = some name) {report : Report}
    (hreport : report.output = none) {place : Place} {data : Bytes}
    (hholds : s.disk.Holds x.current
      (Bytecode.moduleFile (Path.ofString name) a.request.entryPoint).way.octets place data) :
    (lone a.Finds).Behaves x.still
      (a.execute report (some ⟨some (Path.ofString name), data⟩)) own s fun _ _ _ => True := by
  have hlook : (lone a.Finds).Behaves x.still
      (look fun s => Evaluator.runClasspath a.config s.disk a.request.classpath) own s
      fun r _ s' => ∀ classpath, r = .ok classpath → s'.disk.current = x.current ∧
        ∃ entry ∈ classpath, Disk.Open s'.disk.root s'.disk.current → s'.disk.Addressable →
          s'.disk.HoldsModule entry a.request.entryPoint data := by
    refine lone_look fun s' hroot hsane classpath hclasspath => ⟨hsane.1, ?_⟩
    obtain ⟨found, hfound, hmem⟩ := mem_runClasspath hnamed hclasspath
    have hthere := hholds.of_root hroot
    rw [← hsane.1] at hthere
    exact ⟨found.text, hmem, fun hopen haddress =>
      hthere.holdsModule_resolve (Path.isNormal_ofString name) hmodule haddress hopen hfound⟩
  unfold execute
  refine hlook.andThen (fun classpath own' s' hclasspath => ?_) fun _ _ _ _ => trivial
  obtain ⟨hcurrent, entry, hentry, hthere⟩ := hclasspath classpath rfl
  rw [hreport]
  refine .ask fun s'' hroot hsane => ⟨fun hopen haddress => ?_, ⟨rfl, rfl⟩, trivial⟩
  have hsame : s''.disk.current = s'.disk.current := hsane.1.trans hcurrent.symm
  refine ⟨_, data, rfl, entry, hentry, ?_⟩
  refine (hthere ?_ (haddress.of_root hroot.symm)).of_root hroot hsame
  rw [← hroot, ← hsame]
  exact hopen

/-- A module that was kept in memory is found in the scratch directory. -/
theorem Launches.finds {keeps : Prop} {d : Disk} {request : RunRequest}
    {emission : Option Emission} (hmodule : Settings.isModuleName a.request.entryPoint = true)
    (h : a.Launches x keeps d request emission) : a.FindsOutput d request emission := by
  obtain ⟨n, others, place, data, mode, rfl, rfl, -, -, hshows⟩ := h
  have hnormal := x.isNormal_scratchAt n
  have habsolute : Disk.isAbsolute
      (Bytecode.moduleFile (x.scratchAt n).path a.request.entryPoint).way.octets = true := by
    have hnamed := Path.named_way (isNormal_moduleFile hmodule hnormal).1
    rw [Way.isAbsolute_octets _ hnamed, Bytecode.moduleFile_eq hmodule]
    exact nofun
  exact ⟨_, data, rfl, _, List.mem_cons_self .., 
    (hshows.of_absolute habsolute d.current).holds.holdsModule hnormal hmodule⟩

/-! ## The whole evaluation -/

theorem finds_work (htext : x.scratch.respelled = x.scratch)
    (hentry : Settings.isModuleName a.request.entryPoint = true ∨
      awaitsValue a.config.compilerArguments = false)
    (hnamed : Settings.directoryOf a.config =
      (Settings.namedDirectory a.config).map Path.ofString) :
    (lone a.Finds).Behaves x.still a.work own s fun _ _ _ => True := by
  -- Nothing is asked of the source, so it may be any kind of file.
  have hsource : False → a.SourceIsFile x s.disk := False.elim
  refine lone_work hsource (K := a.LeavesModule x) LeavesModule.of_root
    (fun path own s hshows => ?_) fun report emission own s hleaves hclean => ?_
  · refine lone_compile hentry hshows (fun _ _ => nofun)
      fun st found modified p own s hmodule hsame hdirectory _ _ => ?_
    exact lone_finish hmodule hsame hdirectory found modified p
  · obtain ⟨hmodule, data, hkept | ⟨directory, place, hdirectory, hreport, rfl, hholds⟩⟩ :=
      hleaves report emission rfl hclean
    · obtain ⟨-, hreport, rfl⟩ := hkept
      have hcompiled : False → a.IsCompiled data := False.elim
      exact lone_execute htext hmodule hcompiled hreport
        fun d request emission hlaunches _ _ => hlaunches.finds hmodule
    · rw [hnamed] at hdirectory
      obtain ⟨name, hname, rfl⟩ := Option.map_eq_some_iff.mp hdirectory
      exact lone_execute_below hmodule hname hreport hholds

/-- Whenever an evaluation by itself comes to the run of a program, an entry of the class path is a
directory from which the path of the module leads to what has been compiled: no option may name
another directory for the output than the configured one, an option may lack its value only when
the entry point is a module, and paths must be texts that are no longer than the system allows. -/
theorem compiled_output_is_on_the_classpath (a : Assignment τ) {site : Site τ}
    (hcurrent : site.disk.current.path.IsNormal) (hscratch : site.disk.scratch.IsProper)
    (htext : site.disk.scratch.respelled = site.disk.scratch)
    (hentry : Settings.isModuleName a.request.entryPoint = true ∨
      awaitsValue a.config.compilerArguments = false)
    (hnamed : Settings.directoryOf a.config =
      (Settings.namedDirectory a.config).map Path.ofString)
    {request : RunRequest} {emission : Option Emission} {s : Site τ}
    (hrun : a.work.Meets Site.Drifts site (.run request emission) s)
    (hopen : Disk.Open s.disk.root s.disk.current) (haddress : s.disk.Addressable) :
    ∃ directory data, emission = some ⟨some directory, data⟩ ∧
      ∃ entry ∈ request.classpath, s.disk.HoldsModule entry a.request.entryPoint data := by
  let x : Scene := ⟨site.disk.current, site.disk.scratch, hcurrent, hscratch, True⟩
  have hfinds : a.Finds s.disk request emission := by
    refine Conduct.Behaves.asks_of_meets (c := lone a.Finds) (g := x.still)
      (fun own s s' hdrift hsane => ?_) (fun own s s' hdoes hsane => ?_) hrun none
      (finds_work htext hentry hnamed) ⟨rfl, rfl⟩
    · exact ⟨hdrift.root, hdrift.current.trans hsane.1, hdrift.scratch.trans hsane.2⟩
    · exact ⟨hdoes.1.trans hsane.1, hdoes.2.trans hsane.2⟩
  exact hfinds hopen haddress

/-! ## Single sites -/

/-- An evaluation with a directory for its output, and with further options for the compiler. -/
def sampleInto (directory : Option String) (options : List String) (entryPoint : String) :
    Assignment Unit :=
  { sample options entryPoint "x = 1\n" with
    config := { Config.defaults with outputDirectory := directory, compilerArguments := options } }

/-- The directory for the output is a link. -/
def linkedStore : List (Octets × Node) :=
  [(Octets.ofString "store", .directory 493 0 []),
    (Octets.ofString "out", .link (Octets.ofString "store") 0)]

/-- The module is written through a link, and the class path has the directory itself. -/
theorem output_is_found_behind_a_link :
    ∃ request emission s data,
      (sampleInto (some "out") [] "p.m").work.Meets Site.Drifts (sampleSite linkedStore)
        (.run request emission) s ∧
      request.classpath = ["/store"] ∧ emission = some ⟨some ⟨.current, ["out"]⟩, data⟩ ∧
      s.disk.HoldsModule "/store" "p.m" data := by
  have hdrift : ∀ s : Site Unit, s.Drifts s := fun _ => ⟨rfl, rfl, rfl, Nat.le_refl _⟩
  have hlabel : ((sampleInto (some "out") [] "p.m").work.action? 12 (sampleSite linkedStore)).map
      (fun (label, s) => (label, s.disk.current, s.disk.root.allTo Disk.isAddressable 5 [])) =
        some (.run ⟨["python3", "launcher"], ["/store"], "p.m", ⟨.root, []⟩, none⟩
          (some ⟨some ⟨.current, ["out"]⟩,
            Bytecode.file (Text.Utf8.encodeString "x = 1\n") 6 0⟩), [], true) := by
    decide +kernel
  obtain ⟨⟨label, s⟩, haction, hfound⟩ := Option.map_eq_some_iff.mp hlabel
  obtain ⟨rfl, hhere⟩ := Prod.mk.inj hfound
  obtain ⟨hcurrent, haddress⟩ := Prod.mk.inj hhere
  have hroot : (sampleSite linkedStore).disk.current.path.IsNormal := nofun
  have hmeets := Script.meets_of_action hdrift haction
  have hopen : Disk.Open s.disk.root s.disk.current := by
    rw [show s.disk.current = [] from hcurrent]
    exact .nil
  obtain ⟨directory, data, hemission, entry, hentry, hholds⟩ :=
    compiled_output_is_on_the_classpath (sampleInto (some "out") [] "p.m") hroot ⟨hroot, nofun⟩
      rfl (Or.inr rfl) rfl hmeets hopen (Disk.addressable_of_allTo haddress)
  obtain rfl : entry = "/store" := List.mem_singleton.mp hentry
  cases hemission
  exact ⟨_, _, s, _, hmeets, rfl, rfl, hholds⟩

/-- A program is run, and no file on its class path has what has been emitted. -/
def missesOutput (a : Assignment Unit) (d : Disk) : Event → Bool
  | .run request (some emission) => request.classpath.all fun entry =>
    match d.readFile (Octets.ofString
        (entry ++ "/" ++ Bytecode.modulePath a.request.entryPoint)) with
    | .ok (content, _) => content ≠ emission.data
    | .error _ => true
  | _ => false

/-- Such an action is the one after so many others. -/
def Misses (a : Assignment Unit) (site : Site Unit) : Prop :=
  ∃ label s, a.work.Meets Site.Drifts site label s ∧ missesOutput a s.disk label = true

theorem misses_of_action {a : Assignment Unit} {site : Site Unit} (n : Nat)
    (h : (a.work.action? n site).any (fun (label, s) => missesOutput a s.disk label) = true) :
    Misses a site := by
  have hdrift : ∀ s : Site Unit, s.Drifts s := fun _ => ⟨rfl, rfl, rfl, Nat.le_refl _⟩
  cases haction : a.work.action? n site with
  | none =>
    rw [haction] at h
    cases h
  | some found =>
    rw [haction] at h
    exact ⟨found.1, found.2, Script.meets_of_action hdrift haction, h⟩

/-- What is asked of the options is needed, and that the file keeps its content: an option can name
another directory, an option can take the word before the entry point so that another module is
compiled, and what stands at the path of the module can be a device. -/
theorem output_can_be_missed :
    Misses (sampleInto none ["-d", "out"] "p.m") (sampleSite []) ∧
    Misses (sampleInto (some "out") ["-module", "x", "-cp"] "-nowarn") (sampleSite []) ∧
    Misses (sampleInto (some "out") [] "m")
      (sampleSite [(Octets.ofString "out", .directory 493 0
        [(Octets.ofString "m.pyc", .device .null)])]) := by
  refine ⟨misses_of_action 14 ?_, misses_of_action 12 ?_, misses_of_action 13 ?_⟩
  · decide +kernel
  · decide +kernel
  · decide +kernel

end Assignment

end Worksheet
