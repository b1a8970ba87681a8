-- An evaluation by itself, on any tree of files. What it writes it finds again where it has written
-- it, and the directory that it exports its module to is new, so nothing is in the way there.
import Worksheet.Proofs.LaunchedFiles
import Worksheet.Proofs.StageConduct
import Worksheet.Proofs.WrittenFiles

namespace Worksheet

open Text (Bytes Octets Points)

/-! ## Work without others -/

namespace Conduct

variable {ε σ α : Type} {c : Conduct ε σ} {g : Ground σ} {drift : σ → σ → Prop}

/-- Work that keeps to its conduct finds at each action what it asks for, as long as it relies on
nothing that a drift changes. -/
theorem Behaves.asks_of_meets
    (hdrift : ∀ own s s', drift s s' → g.sane s → c.relies own s s' ∧ g.sane s')
    (hdoes : ∀ own s s', c.does own s s' → g.sane s → g.sane s') {work : Script ε σ α} {s t : σ}
    {label : ε} (hmeets : work.Meets drift s label t) (own : Option Nat)
    {Q : α → Option Nat → σ → Prop} (h : c.Behaves g work own s Q) (hs : g.sane s) :
    c.asks label t := by
  induction hmeets generalizing own with
  | here hdrifts =>
    obtain ⟨hrelies, hsane⟩ := hdrift own _ _ hdrifts hs
    exact (act_iff.mp h _ hrelies hsane).1
  | later hdrifts _ ih =>
    obtain ⟨hrelies, hsane⟩ := hdrift own _ _ hdrifts hs
    obtain ⟨-, own', -, hdoes', hrest⟩ := act_iff.mp h _ hrelies hsane
    exact ih own' hrest (hdoes _ _ _ hdoes' hsane)

end Conduct

/-! ## The command line of the compiler -/

/-- An option that still awaits its value takes the next word for it. -/
theorem readItems_of_awaitsValue {before : List String} (hopen : awaitsValue before = true)
    {value : String} {rest : List String} {items : List SettingsItem}
    (h : readItems (before ++ value :: rest) = .ok items) :
    ∃ a b, readItems rest = .ok b ∧ items = a ++ b := by
  induction before using awaitsValue.induct generalizing items with
  | case1 => cases hopen
  | case2 word hword =>
    obtain ⟨hflag, o, ho⟩ := option_of_word hword
    rw [List.singleton_append, readItems_option _ hflag ho] at h
    obtain ⟨b, hb, rfl⟩ := exists_of_map_ok h
    exact ⟨[_], b, hb, rfl⟩
  | case3 word hword other before ih =>
    obtain ⟨hflag, o, ho⟩ := option_of_word hword
    rw [awaitsValue_option _ hflag ho] at hopen
    rw [List.cons_append, List.cons_append, readItems_option _ hflag ho] at h
    obtain ⟨items', hitems', rfl⟩ := exists_of_map_ok h
    obtain ⟨a, b, hb, rfl⟩ := ih hopen hitems'
    exact ⟨_ :: a, b, hb, rfl⟩
  | case4 word before hword ih =>
    rw [awaitsValue_item hword] at hopen
    obtain ⟨item, hitem⟩ := exists_item hword h
    rw [List.cons_append, hitem] at h
    obtain ⟨items', hitems', rfl⟩ := exists_of_map_ok h
    obtain ⟨a, b, hb, rfl⟩ := ih hopen hitems'
    exact ⟨_ :: a, b, hb, rfl⟩

theorem readItems_module {module : String} (h : Settings.isModuleName module = true)
    (rest : List String) :
    readItems (module :: rest) = (readItems rest).map (.source module :: ·) := by
  have hdash := Settings.head?_of_isModuleName h
  have hne : ∀ other : String, other.toList.head? = some '-' → module ≠ other := by
    rintro other hother rfl
    exact hdash hother
  have hflag : SettingsFlag.ofWord? module = none := by
    unfold SettingsFlag.ofWord?
    rw [if_neg (hne _ rfl), if_neg (hne _ rfl)]
  have hoption : SettingsOption.ofWord? module = none := by
    unfold SettingsOption.ofWord?
    rw [if_neg (hne _ rfl), if_neg (hne _ rfl), if_neg (hne _ rfl), if_neg (hne _ rfl),
      if_neg (hne _ rfl)]
  rw [readItems_word hflag hoption, if_neg]
  simpa [isOptionWord] using hdash

/-- The compiler accepts no command line in which an option takes the word before the module for its
value: the module is one source too many then. -/
theorem Settings.awaitsValue_of_ofArguments {c : Config} {source : Path} {module : String}
    {classpath : List String} {s : Settings} (hmodule : Settings.isModuleName module = true)
    (hsource : ['.', 'p', 'y'] <:+ source.text.toList)
    (h : ofArguments (Backend.arguments c source (Backend.moduleArguments module) classpath) =
      .ok s) : awaitsValue c.compilerArguments = false := by
  obtain ⟨before, hbefore, -, heq⟩ := arguments_eq c source module classpath
  obtain ⟨items, word, hitems, hsources, -⟩ := ofArguments_spec h
  have hsame := hbefore []
  rw [List.append_nil, List.append_nil] at hsame
  cases hopen : awaitsValue c.compilerArguments with
  | false => rfl
  | true =>
    rw [heq] at hitems
    obtain ⟨a, b, hb, rfl⟩ := readItems_of_awaitsValue (hsame.trans hopen) hitems
    rw [readItems_module hmodule] at hb
    obtain ⟨b', hb', rfl⟩ := exists_of_map_ok hb
    rw [readItems_source hsource hb', sources_append] at hsources
    have hlength := congrArg List.length hsources
    rw [List.length_append] at hlength
    exact absurd hlength (by simp [sources])

/-! ## An evaluation by itself -/

variable {τ : Type}

/-- The directories that an evaluation works from stay the same. -/
def Scene.still (x : Scene) : Ground (Site τ) where
  sane s := s.disk.current = x.current ∧ s.disk.scratch = x.scratch
  count _ := 0

namespace Assignment

/-- A run is asked for the module of the evaluation, on a class path that begins with a scratch
directory, and what has been emitted can be read there as the module. If sources keep what is
written, it was made of the evaluation's own source. -/
def Launches (a : Assignment τ) (x : Scene) (keeps : Prop) (d : Disk) (request : RunRequest)
    (emission : Option Emission) : Prop :=
  ∃ number others place data mode,
    request = a.evaluator.runRequest a.request ((x.scratchAt number).path.text :: others) ∧
      emission = some ⟨some (x.scratchAt number).path, data⟩ ∧ (keeps → a.IsCompiled data) ∧
      Mode.allows mode .read = true ∧ d.Shows x.current
        (Bytecode.moduleFile (x.scratchAt number).path a.request.entryPoint).way.octets
        place data mode

/-- An evaluation on files that nobody else changes, and what holds when it runs its program. -/
def lone (runs : Disk → RunRequest → Option Emission → Prop) : Conduct Event (Site τ) where
  relies _ s s' := s'.disk.root = s.disk.root
  does _ s s' := s'.disk.current = s.disk.current ∧ s'.disk.scratch = s.disk.scratch
  asks label s :=
    match label with
    | .run request emission => runs s.disk request emission
    | _ => True

/-- An evaluation whose runs start its own module. -/
def alone (a : Assignment τ) (x : Scene) (keeps : Prop) : Conduct Event (Site τ) :=
  lone (a.Launches x keeps)

open Steps

variable {a : Assignment τ} {x : Scene} {keeps : Prop} {own : Option Nat} {s : Site τ}
  {runs : Disk → RunRequest → Option Emission → Prop}

/-! ## Single actions -/

theorem lone_look {α : Type} {f : Site τ → α} {Q : α → Site τ → Prop}
    (h : ∀ s', s'.disk.root = s.disk.root → x.still.sane s' → Q (f s') s') :
    (lone runs).Behaves x.still (look f) own s fun r _ s' => Q r s' :=
  .ask fun s' hroot hsane => ⟨trivial, ⟨rfl, rfl⟩, h s' hroot hsane⟩

theorem lone_onDisk {α : Type} {action : Disk → α × Disk} {Q : α → Site τ → Prop}
    (h : ∀ s', s'.disk.root = s.disk.root → x.still.sane s' →
      ((action s'.disk).2.current = s'.disk.current ∧
        (action s'.disk).2.scratch = s'.disk.scratch) ∧
        Q (action s'.disk).1 { s' with disk := (action s'.disk).2 }) :
    (lone runs).Behaves x.still (onDisk action) own s fun r _ s' => Q r s' :=
  .ask fun s' hroot hsane => ⟨trivial, h s' hroot hsane⟩

theorem lone_openToWrite {raw : Octets} {Q : Place → Disk → Prop}
    (hopens : ∀ d place d', d.root = s.disk.root →
      Disk.openToWrite d x.current Mode.usualMask true raw = .ok (place, d') → Q place d') :
    (lone runs).Behaves x.still (openToWrite raw) own s fun r _ s' =>
      ∀ place, r = .ok place → Q place s'.disk := by
  refine lone_onDisk fun s' hroot hsane => ?_
  cases hopen : s'.disk.openToWrite s'.disk.current Mode.usualMask true raw with
  | error e => exact ⟨⟨rfl, rfl⟩, nofun⟩
  | ok opened =>
    obtain ⟨found, d⟩ := opened
    refine ⟨Disk.same_of_openToWrite hopen, fun place hplace => ?_⟩
    cases hplace
    exact hopens _ _ _ hroot (hsane.1 ▸ hopen)

theorem lone_fill {raw : Octets} {place : Place} {content : Bytes} {given : Prop}
    {Readable : Mode → Prop}
    (hopen : given → ∃ mode, Readable mode ∧ s.disk.Shows x.current raw place [] mode)
    {ε : Type} (tell : Errno → ε) :
    (lone runs).Behaves x.still ((fill place content).map fun r => r.mapError tell) own s
      fun r _ s' => r = .ok () → given →
        ∃ mode, Readable mode ∧ s'.disk.Shows x.current raw place content mode := by
  have hfill : (lone runs).Behaves x.still (fill place content) own s fun r _ s' =>
      r = .ok () → given →
        ∃ mode, Readable mode ∧ s'.disk.Shows x.current raw place content mode := by
    refine lone_onDisk fun s' hroot _ => ?_
    cases hfill : s'.disk.fill place content with
    | error e => exact ⟨⟨rfl, rfl⟩, nofun⟩
    | ok d =>
      refine ⟨Disk.same_of_fill hfill, fun _ hgiven => ?_⟩
      obtain ⟨mode, hmode, hshows⟩ := hopen hgiven
      exact ⟨mode, hmode, (hshows.of_root hroot).fill hfill⟩
  refine hfill.map fun r own' s' hshows hok => hshows ?_
  cases r with
  | error e => cases hok
  | ok => rfl

/-! ## The source -/

/-- Nothing but a file, if anything, is at the path of the source. -/
def SourceIsFile (a : Assignment τ) (x : Scene) (d : Disk) : Prop :=
  ∀ place n, d.statFrom x.current (a.source x.current).way.octets = .ok (place, n) →
    Disk.isRegular n = true

theorem lone_writeSource {path : Path} (hpath : path = a.source x.current)
    (hsource : keeps → a.SourceIsFile x s.disk) {content : Bytes} :
    (lone runs).Behaves x.still (writeBytes path content) own s
      fun r _ s' => r = .ok () → keeps →
        ∃ place mode, s'.disk.Shows x.current path.way.octets place content mode := by
  have hnamed : path.way.Named := Path.named_way (hpath ▸ isNormal_source x.isNormal)
  have hne : path.way.parts ≠ [] := by
    obtain ⟨init, last, hparts⟩ := a.exists_parts_source x.current
    unfold Path.way
    rw [hpath, hparts, Ne, List.map_eq_nil_iff]
    exact List.append_ne_nil_of_right_ne_nil init (List.cons_ne_nil _ _)
  have htrim := Way.trimSlashes_octets hnamed hne
  unfold writeBytes
  split
  · exact .done nofun
  · refine (lone_openToWrite (Q := fun place d => keeps →
      ∃ mode, True ∧ d.Shows x.current path.way.octets place [] mode) ?_).bind
        fun r own' s' hr => ?_
    · intro d place d' hroot hopen hkeeps
      have hlocate := Disk.locateWith_of_openToWrite hopen
      rw [htrim, Disk.locateWith_of_root hroot] at hlocate
      have hregular : ∀ n, d.node? place = some n → Disk.isRegular n = true := by
        intro n hn
        refine hsource hkeeps place n ?_
        unfold Disk.node? at hn
        rw [hroot] at hn
        unfold Disk.statFrom Disk.statWith Disk.node?
        rw [← hpath, hlocate]
        simp only [hn]
      obtain ⟨mode, hshows, -⟩ := Disk.shows_of_openToWrite htrim hopen hregular
      exact ⟨mode, trivial, hshows⟩
    · cases r with
      | error e => exact .done nofun
      | ok place =>
        refine (lone_fill (hr place rfl) _).mono fun r own'' s'' hshows hok hkeeps => ?_
        obtain ⟨mode, -, hshows⟩ := hshows hok hkeeps
        exact ⟨place, mode, hshows⟩

theorem SourceIsFile.of_root {d d' : Disk} (h : a.SourceIsFile x d) (hroot : d'.root = d.root) :
    a.SourceIsFile x d' := by
  intro place n hstat
  refine h place n ?_
  rw [← hstat]
  unfold Disk.statFrom Disk.statWith Disk.node?
  rw [Disk.locateWith_of_root hroot, hroot]

/-- At its path, the source shows the encoding of its text, if sources keep what is written. -/
def ShowsSource (a : Assignment τ) (x : Scene) (keeps : Prop) (path : Path) (d : Disk) : Prop :=
  path = a.source x.current ∧ (keeps → ∃ content place mode,
    Text.Utf8.encode a.request.source = .ok content ∧
      d.Shows x.current path.way.octets place content mode)

theorem ShowsSource.of_root {path : Path} {d d' : Disk} (h : a.ShowsSource x keeps path d)
    (hroot : d'.root = d.root) : a.ShowsSource x keeps path d' := by
  refine ⟨h.1, fun hkeeps => ?_⟩
  obtain ⟨content, place, mode, hencode, hshows⟩ := h.2 hkeeps
  exact ⟨content, place, mode, hencode, hshows.of_root hroot⟩

theorem lone_materialize (hsource : keeps → a.SourceIsFile x s.disk) :
    (lone runs).Behaves x.still a.materialize own s fun r _ s' =>
      ∀ path, r = .ok path → a.ShowsSource x keeps path s'.disk := by
  have hlook : (lone runs).Behaves x.still (look fun s => a.sourcePath s.disk) own s
      fun r _ s' => ∀ path, r = .ok path →
        path = a.source x.current ∧ (keeps → a.SourceIsFile x s'.disk) :=
    lone_look fun s' hroot hsane path hpath =>
      ⟨by rw [eq_source_of_sourcePath hpath, hsane.1], fun hkeeps => (hsource hkeeps).of_root hroot⟩
  unfold materialize
  refine hlook.andThen (fun path own' s' hpath => ?_) fun _ _ _ _ => nofun
  obtain ⟨hpath, hsource'⟩ := hpath path rfl
  split
  · exact .done nofun
  · next content hencode =>
    refine (lone_writeSource hpath hsource').bind fun r own'' s'' hshows => ?_
    split
    · exact .done nofun
    · exact .done nofun
    · refine .done fun found hfound => ?_
      cases hfound
      refine ⟨hpath, fun hkeeps => ?_⟩
      obtain ⟨place, mode, hshows⟩ := hshows rfl hkeeps
      exact ⟨content, place, mode, hencode, hshows⟩

/-- The compiler reads the encoding of the source. -/
theorem lone_readSource {path : Path} (hsource : a.ShowsSource x keeps path s.disk) :
    (lone runs).Behaves x.still (readSource path) own s fun r _ _ =>
      ∀ found modified, r = .ok (found, modified) → keeps →
        Text.Utf8.encode a.request.source = .ok found := by
  have hfirst : (lone runs).Behaves x.still (onDisk (Bytecode.readSource path)) own s
      fun r _ _ => ∀ found modified, r = .ok (found, modified) → keeps →
        Text.Utf8.encode a.request.source = .ok found := by
    refine lone_onDisk fun s' hroot hsane => ⟨?_, fun found modified hread hkeeps => ?_⟩
    · rw [readSource_snd]
      exact ⟨rfl, rfl⟩
    obtain ⟨content, place, mode, hencode, hshows⟩ := (hsource.of_root hroot).2 hkeeps
    rw [← hsane.1] at hshows
    obtain ⟨time, hfile⟩ := hshows.readFile
    rw [Disk.readFile_of_readSource hread] at hfile
    split at hfile
    · cases hfile
      exact hencode
    · cases hfile
  have hsecond : ∀ own' (s' : Site τ), (lone runs).Behaves x.still
      (onDisk (Bytecode.readSource path)) own' s' fun _ _ _ => True := fun own' s' => by
    refine lone_onDisk fun s'' _ _ => ⟨?_, trivial⟩
    rw [readSource_snd]
    exact ⟨rfl, rfl⟩
  unfold readSource
  refine hfirst.andThen (fun entry own' s' hread => ?_) fun _ _ _ _ => nofun
  refine (hsecond own' s').andThen (fun entry' own'' s'' _ => ?_) fun _ _ _ _ => nofun
  refine .done fun found modified hok => ?_
  cases hok
  exact hread _ _ rfl

/-! ## The compiler -/

/-- The file of a module, as it is kept in memory. -/
def inMemory (module : String) (data : Bytes) : Artifacts :=
  ⟨Artifacts.defaultName, [(Points.ofString (Bytecode.modulePath module), data)]⟩

/-- What is left to do ends at once, in a fault or with errors, or a file that was made of the code is
emitted. -/
theorem finish_cases (st : Settings) (source : Bytes) (modified : Int) (p : CodeProduct) :
    (∃ r, (finish st source modified p : Steps τ _) = .done r ∧
      ∀ report emission, r = .ok (report, emission) → report.hasErrors = true) ∨
    ∃ report code seconds, p.result = .ok code ∧ report.hasErrors = false ∧
      report.output = none ∧ (finish st source modified p : Steps τ _) =
        emit st report (Bytecode.file code source.length seconds) := by
  unfold finish
  cases hconclude : Bytecode.conclude st p with
  | error fault => exact Or.inl ⟨_, rfl, nofun⟩
  | ok concluded =>
    obtain ⟨diagnostics, code⟩ := concluded
    have hcode := code_of_conclude hconclude
    dsimp only
    cases code with
    | none =>
      refine Or.inl ⟨_, rfl, fun report emission hok => ?_⟩
      cases hok
      exact hcode
    | some code =>
      dsimp only at hcode ⊢
      split
      · next herrors =>
        refine Or.inl ⟨_, rfl, fun report emission hok => ?_⟩
        cases hok
        exact herrors
      · next hclean =>
        cases hfile : Bytecode.fileAt code source.length (Bytecode.secondsOf modified) with
        | error fault => exact Or.inl ⟨_, rfl, nofun⟩
        | ok data =>
          obtain ⟨seconds, -, rfl⟩ := exists_of_map_ok hfile
          exact Or.inr ⟨_, code, seconds, hcode, Bool.eq_false_iff.mpr hclean, rfl, rfl⟩

/-- The compiler comes to what is left to do with the source of the evaluation. Its module is that of
the evaluation and its directory the configured one, since options that take other words for their
values are not accepted. -/
theorem lone_compile (hentry : Settings.isModuleName a.request.entryPoint = true ∨
      awaitsValue a.config.compilerArguments = false)
    {path : Path} (hsource : a.ShowsSource x keeps path s.disk)
    {K : Except Fault (Report × Option Emission) → Disk → Prop}
    (hfault : ∀ fault d, K (.error fault) d)
    (hfinish : ∀ (st : Settings) found modified p own (s : Site τ),
      Settings.isModuleName a.request.entryPoint = true → st.module = a.request.entryPoint →
      st.outputDirectory = Settings.directoryOf a.config →
      (keeps → Text.Utf8.encode a.request.source = .ok found) →
      (∃ optimize site, (a.generate ⟨found, path.text, optimize⟩ site).1 = p) →
        (lone runs).Behaves x.still (finish st found modified p) own s
          fun r _ s' => K r s'.disk) :
    (lone runs).Behaves x.still (a.compile path) own s fun r _ s' => K r s'.disk := by
  unfold compile
  cases harguments : Settings.ofArguments (a.arguments path) with
  | error e => exact .done (hfault _ _)
  | ok st =>
    have htext : ['.', 'p', 'y'] <:+ path.text.toList := hsource.1 ▸ a.text_source x.current
    have hnormal : path.IsNormal := hsource.1 ▸ isNormal_source x.isNormal
    have hcut : awaitsValue a.config.compilerArguments = false := by
      rcases hentry with hmodule | hcut
      · exact Settings.awaitsValue_of_ofArguments hmodule htext harguments
      · exact hcut
    obtain ⟨hmodule, hsame, hdirectory⟩ := Settings.module_of_arguments htext hcut harguments
    have hst : st.source = path :=
      (Settings.source_of_arguments htext (awaitsValue_entry hcut) harguments).trans
        (Path.ofString_text hnormal)
    dsimp only
    rw [hst]
    refine (lone_readSource hsource).andThen (fun entry own' s' hread => ?_)
      fun fault _ s' _ => hfault fault s'.disk
    obtain ⟨found, modified⟩ := entry
    have hgenerate : (lone runs).Behaves x.still
        (a.generateCode ⟨found, path.text, st.optimize⟩) own' s' fun p _ _ =>
          ∃ site, (a.generate ⟨found, path.text, st.optimize⟩ site).1 = p :=
      .ask fun s'' _ _ => ⟨trivial, ⟨rfl, rfl⟩, s''.other, rfl⟩
    refine hgenerate.bind fun p own'' s'' hp => ?_
    exact hfinish st found modified p own'' s'' hmodule hsame hdirectory
      (hread found modified rfl) ⟨st.optimize, hp⟩

section Directories

variable {I : Disk → Prop} (hsame : ∀ {d d' : Disk}, d'.root = d.root → I d → I d')
  (hmakes : ∀ {d d' : Disk} {directory : Place} {mask : Mode} {raw : Octets},
    d.makeDirectory directory mask raw = .ok d' → I d → I d')

include hsame

include hmakes in
theorem lone_makeDirectory (hI : I s.disk) (way : Way) :
    (lone runs).Behaves x.still (makeDirectory way) own s fun _ _ s' => I s'.disk := by
  refine lone_onDisk fun s' hroot _ => ?_
  have hI' := hsame hroot hI
  cases hmake : s'.disk.makeDirectory s'.disk.current Mode.usualMask way.octets with
  | error e => exact ⟨⟨rfl, rfl⟩, hI'⟩
  | ok d =>
    have hchange := Disk.change_makeDirectory hmake
    exact ⟨⟨hchange.current, hchange.scratch⟩, hmakes hmake hI'⟩

theorem lone_acceptDirectory (hI : I s.disk) (way : Way) (e : Errno) :
    (lone runs).Behaves x.still (acceptDirectory way e) own s fun _ _ s' => I s'.disk :=
  lone_look fun _ hroot _ => hsame hroot hI

include hmakes in
theorem lone_ensureDirectory (hI : I s.disk) (way : Way) :
    (lone runs).Behaves x.still (ensureDirectory way) own s fun _ _ s' => I s'.disk := by
  refine (lone_makeDirectory hsame hmakes hI way).bind fun r own' s' hI' => ?_
  cases r with
  | ok => exact .done hI'
  | error e => exact lone_acceptDirectory hsame hI' way e

include hmakes in
/-- What no new directory changes holds after directories have been made on a way. -/
theorem lone_makeDirectories (hI : I s.disk) (anchor : Anchor) (room : Nat)
    (parts : List Octets) :
    (lone runs).Behaves x.still (makeDirectories anchor room parts) own s
      fun _ _ s' => I s'.disk := by
  induction room generalizing parts own s with
  | zero => exact .done hI
  | succ room ih =>
    cases parts with
    | nil => exact lone_ensureDirectory hsame hmakes hI _
    | cons c above =>
      refine (lone_makeDirectory hsame hmakes hI _).bind fun r own' s' hI' => ?_
      split
      · exact .done hI'
      · refine (ih hI' above).bind fun r own'' s'' hI'' => ?_
        split
        · exact lone_ensureDirectory hsame hmakes hI'' _
        · exact .done hI''
      · exact lone_acceptDirectory hsame hI' _ _

end Directories

/-! ## The scratch directory -/

section Scratch

variable {path base : Place}

/-- A file that is exported below a new directory can be read at its path. -/
theorem lone_exportFile (hfresh : s.disk.Fresh path base) {names : List Octets}
    (hne : names ≠ []) (hnames : ∀ c ∈ names, Disk.IsName c)
    (hnamed : (Place.way (path ++ names)).Named) (data : Bytes) :
    (lone runs).Behaves x.still (exportFile (Place.way (path ++ names)) data) own s
      fun r _ s' => r = .ok () → ∃ place mode, Mode.allows mode .read = true ∧
        s'.disk.Shows x.current (Place.octets (path ++ names)) place data mode := by
  have htrim : Way.trimSlashes (Place.octets (path ++ names)) = Place.octets (path ++ names) :=
    Way.trimSlashes_octets hnamed (List.append_ne_nil_of_right_ne_nil path hne)
  have hreadable : Mode.allows (Mode.ofFile.without Mode.usualMask) .read = true := by decide
  unfold exportFile
  split
  · exact .done nofun
  refine (lone_makeDirectories (I := fun d => d.Fresh path base) (fun hroot h => h.of_root hroot)
    (fun hmake h => h.makeDirectory hmake) hfresh _ _ _).bind fun r own' s' hfresh' => ?_
  split
  · exact .done nofun
  · exact .done nofun
  unfold exportInto
  split
  · exact .done nofun
  refine (lone_openToWrite (Q := fun place d => True → ∃ mode, Mode.allows mode .read = true ∧
    d.Shows x.current (Place.octets (path ++ names)) place [] mode) ?_).bind
      fun r own'' s'' hr => ?_
  · intro d place d' hroot hopen _
    obtain ⟨-, hnone⟩ := (hfresh'.of_root hroot).openToWrite hne hnames hnamed hopen
    obtain ⟨mode, hshows, hnew⟩ := Disk.shows_of_openToWrite htrim hopen fun n hn => by
      cases hnone.symm.trans hn
    exact ⟨mode, hnew hnone ▸ hreadable, hshows⟩
  · cases r with
    | error e => exact .done nofun
    | ok place =>
      exact (lone_fill (hr place rfl) _).mono fun r _ _ hshows hok => ⟨place, hshows hok trivial⟩

end Scratch

theorem way_scratchAt (htext : x.scratch.respelled = x.scratch) (n : Nat) :
    (x.scratchAt n).path.way = (x.scratchAt n).way := by
  refine Place.way_path ?_
  unfold Scene.scratchAt
  rw [Disk.respelled_scratchPlace, htext]

theorem lone_openScratch (htext : x.scratch.respelled = x.scratch) :
    (lone runs).Behaves x.still (onDisk (Disk.openScratch Evaluator.label)) own s
      fun r _ s' => ∀ place, r = .ok place →
        ∃ n base, place = x.scratchAt n ∧ s'.disk.Fresh (x.scratchAt n) base := by
  refine lone_onDisk fun s' _ hsane => ?_
  cases hopen : Disk.openScratch Evaluator.label s'.disk with
  | mk r d =>
    cases r with
    | error fault =>
      cases Disk.openScratch_error hopen
      exact ⟨⟨rfl, rfl⟩, nofun⟩
    | ok found =>
      obtain ⟨hplace, -, hchange⟩ := Disk.openScratch_spec hopen
      rw [hsane.2] at hplace
      refine ⟨⟨hchange.current, hchange.scratch⟩, fun place hfound => ?_⟩
      cases hfound
      cases hplace
      have hnamed := Path.named_way (x.isNormal_scratchAt s'.disk.scratchCount)
      rw [way_scratchAt htext] at hnamed
      obtain ⟨base, hfresh⟩ := Disk.fresh_of_openScratch hnamed hopen
      exact ⟨_, base, rfl, hfresh⟩

/-! ## Running -/

theorem way_moduleFile (htext : x.scratch.respelled = x.scratch) {module : String}
    (hmodule : Settings.isModuleName module = true) (n : Nat) :
    (Bytecode.moduleFile (x.scratchAt n).path module).way =
      Place.way (x.scratchAt n ++ (Bytecode.moduleParts module).map Octets.ofString) := by
  have hway := congrArg Way.parts (way_scratchAt htext n)
  rw [Bytecode.moduleFile_eq hmodule]
  unfold Path.way Place.way at hway ⊢
  rw [List.map_append,
    show (x.scratchAt n).path.parts.map Octets.ofString = x.scratchAt n from hway]
  rfl

theorem isName_ofString {part : String} (h : IsFileName part) :
    Disk.IsName (Octets.ofString part) := by
  obtain ⟨⟨-, hpoint, -⟩, hpoints, -⟩ := h
  have hone : Octets.ofString "." = ['.'] := by decide
  have htwo : Octets.ofString ".." = ['.', '.'] := by decide
  exact ⟨fun heq => hpoint (Octets.ofString_inj.mp (heq.trans hone.symm)),
    fun heq => hpoints (Octets.ofString_inj.mp (heq.trans htwo.symm))⟩

/-- The program is run when the module that was kept in memory is in the scratch directory. -/
theorem lone_runExported (htext : x.scratch.respelled = x.scratch)
    (hmodule : Settings.isModuleName a.request.entryPoint = true) {data : Bytes}
    (hdata : keeps → a.IsCompiled data) {n : Nat} {base : Place}
    (hfresh : s.disk.Fresh (x.scratchAt n) base) (classpath : List String)
    (hruns : ∀ d request emission, a.Launches x keeps d request emission →
      runs d request emission) :
    (lone runs).Behaves x.still
      (a.runExported classpath (inMemory a.request.entryPoint data) (some ⟨none, data⟩)
        (x.scratchAt n)) own s fun _ _ _ => True := by
  obtain ⟨init, hparts, hfiles⟩ := Bytecode.moduleParts_eq hmodule
  have hnames : ∀ c ∈ (Bytecode.moduleParts a.request.entryPoint).map Octets.ofString,
      Disk.IsName c := by
    intro c hc
    obtain ⟨part, hpart, rfl⟩ := List.mem_map.mp hc
    exact isName_ofString (hfiles part hpart)
  have hway := way_moduleFile htext hmodule n
  have hnamed := Path.named_way (isNormal_moduleFile hmodule (x.isNormal_scratchAt n)).1
  rw [hway] at hnamed
  have hne : (Bytecode.moduleParts a.request.entryPoint).map Octets.ofString ≠ [] := by
    rw [hparts, Ne, List.map_eq_nil_iff]
    exact List.append_ne_nil_of_right_ne_nil init (List.cons_ne_nil _ _)
  unfold runExported inMemory exportFiles
  rw [Artifacts.target_modulePath hmodule, hway]
  refine ((lone_exportFile hfresh hne hnames hnamed data).bind
    (R := fun r _ s' => r = .ok () → ∃ place mode, Mode.allows mode .read = true ∧
      s'.disk.Shows x.current (Place.octets (x.scratchAt n ++
        (Bytecode.moduleParts a.request.entryPoint).map Octets.ofString)) place data mode)
    fun r own' s' hshows => ?_).bind fun r own' s' hshows => ?_
  · cases r with
    | error e => exact .done fun hok => by cases hok
    | ok => exact .done hshows
  · cases r with
    | error e => exact .done trivial
    | ok =>
      obtain ⟨place, mode, hmode, hshows⟩ := hshows rfl
      refine .ask fun s'' hroot _ => ⟨hruns _ _ _ ?_, ⟨rfl, rfl⟩, trivial⟩
      refine ⟨n, classpath, place, data, mode, rfl, rfl, hdata, hmode, ?_⟩
      rw [hway]
      exact hshows.of_root hroot

theorem lone_execute (htext : x.scratch.respelled = x.scratch)
    (hmodule : Settings.isModuleName a.request.entryPoint = true) {data : Bytes}
    (hdata : keeps → a.IsCompiled data) {report : Report}
    (hreport : report.output = some (inMemory a.request.entryPoint data))
    (hruns : ∀ d request emission, a.Launches x keeps d request emission →
      runs d request emission) :
    (lone runs).Behaves x.still (a.execute report (some ⟨none, data⟩)) own s
      fun _ _ _ => True := by
  have hlook : (lone runs).Behaves x.still
      (look fun s => Evaluator.runClasspath a.config s.disk a.request.classpath) own s
      fun _ _ _ => True := lone_look fun _ _ _ => trivial
  unfold execute
  refine hlook.andThen (fun classpath own' s' _ => ?_) fun _ _ _ _ => trivial
  rw [hreport]
  unfold runInScratch
  refine (lone_openScratch htext).andThen (fun place own'' s'' hplace => ?_) fun _ _ _ _ => trivial
  obtain ⟨n, base, rfl, hfresh⟩ := hplace place rfl
  refine (lone_runExported htext hmodule hdata hfresh classpath hruns).bind
    fun result own₁ s₁ _ => ?_
  have hremove : (lone runs).Behaves x.still
      (onDisk (Disk.removeScratch (x.scratchAt n))) own₁ s₁ fun _ _ _ => True := by
    refine lone_onDisk fun s' _ _ => ⟨?_, trivial⟩
    have hchange := Disk.change_removeScratch s'.disk (x.scratchAt n)
    exact ⟨hchange.current, hchange.scratch⟩
  exact hremove.bind fun _ _ _ _ => .done trivial

/-! ## The whole evaluation -/

/-- What is known of the compilation is known when the program is run, if it depends on the tree of
files only. -/
theorem lone_work (hsource : keeps → a.SourceIsFile x s.disk)
    {K : Except Fault (Report × Option Emission) → Disk → Prop}
    (hsame : ∀ {r d d'}, d'.root = d.root → K r d → K r d')
    (hcompile : ∀ path own (s : Site τ), a.ShowsSource x keeps path s.disk →
      (lone runs).Behaves x.still (a.compile path) own s fun r _ s' => K r s'.disk)
    (hexecute : ∀ report emission own (s : Site τ), K (.ok (report, emission)) s.disk →
      report.hasErrors = false →
        (lone runs).Behaves x.still (a.execute report emission) own s fun _ _ _ => True) :
    (lone runs).Behaves x.still a.work own s fun _ _ _ => True := by
  have hcancelled : ∀ {own s}, (lone runs).Behaves x.still (look fun s => a.cancelled s.other)
      own s fun _ _ s' => s'.disk.root = s.disk.root := lone_look fun _ hroot _ => hroot
  unfold work compileSource
  refine (lone_materialize hsource).andThen (fun path own' s' hpath => ?_) fun _ _ _ _ => trivial
  have hshows := hpath path rfl
  refine hcancelled.bind fun cancelled own' s'' hroot => ?_
  split
  · exact .done trivial
  refine (hcompile path own' s'' (hshows.of_root hroot)).bind fun r own' s' hknown => ?_
  split
  · next report emission =>
    unfold runReport
    split
    · exact .done trivial
    next hclean =>
    refine hcancelled.bind fun cancelled own' s'' hroot => ?_
    split
    · exact .done trivial
    refine (hexecute report emission own' s'' (hsame hroot hknown)
      (Bool.eq_false_iff.mpr hclean)).bind fun r own' s' _ => ?_
    split <;> exact .done trivial
  · exact .done trivial

end Assignment

end Worksheet
