-- Which files belong to an evaluation: its source, the bytecode file that it emits, and the scratch
-- directory that it has taken. Evaluations with different locks have no file in common.
import Worksheet.Evaluate.Stepwise
import Worksheet.Proofs.CommandLine
import Worksheet.Proofs.DiskActions
import Worksheet.Proofs.Interference
import Worksheet.Proofs.ModuleFiles

namespace Worksheet

open Text (Bytes Octets)

/-! ## Scratch places -/

namespace Place

/-- Every component, as a path spells it, is the name of a file. -/
def IsProper (place : Place) : Prop := place.path.IsNormal ∧ ".." ∉ place.path.parts

/-- The place that the path of a place leads to: what is not UTF-8 is spelled in another way. -/
def respelled (place : Place) : Place := place.map fun c => Octets.ofString (Octets.spelled c)

variable {place : Place}

/-- The path of a place goes the way to the place, if it can be spelled. -/
theorem way_path (h : place.respelled = place) : place.path.way = place.way := by
  conv => rhs; rw [← h]
  unfold path Path.way way respelled
  rw [List.map_map]
  rfl

theorem IsProper.destination (h : place.IsProper) (current : Place) :
    place.path.way.destination current = place.respelled := by
  have hnames : ∀ part ∈ place.map Octets.spelled, part ≠ "" ∧ part ≠ "." ∧ part ≠ ".." := by
    intro part hpart
    obtain ⟨hne, hpoint, -⟩ := h.1 part hpart
    exact ⟨hne, hpoint, fun hpoints => h.2 (hpoints ▸ hpart)⟩
  unfold path Path.way Way.destination
  rw [settle_names hnames, List.map_map]
  rfl

end Place

namespace Disk

theorem isDigit_of_mem_scratchSuffix {number : Nat} {c : Char} (hc : c ∈ scratchSuffix number) :
    c.isDigit = true := by
  unfold scratchSuffix at hc
  rcases List.mem_append.mp hc with hzero | hdigit
  · rw [List.eq_of_mem_replicate hzero]
    rfl
  · exact Nat.isDigit_of_mem_toDigits (by decide) (by decide) hdigit

/-- The number is ASCII, so the name of a scratch directory is spelled as it is. -/
theorem ofString_scratchName (label : String) (number : Nat) :
    Octets.ofString (label ++ String.ofList (scratchSuffix number)) =
      Octets.ofString label ++ scratchSuffix number := by
  have hascii : ∀ c ∈ scratchSuffix number, c.toNat < 128 := fun c hc =>
    Nat.lt_of_le_of_lt (Char.isDigit_iff_toNat.mp (isDigit_of_mem_scratchSuffix hc)).2 (by decide)
  rw [Octets.ofString_append, Octets.ofString_of_ascii hascii]

theorem spelled_scratchName (label : String) (number : Nat) :
    Octets.spelled (Octets.ofString label ++ scratchSuffix number) =
      label ++ String.ofList (scratchSuffix number) := by
  rw [← ofString_scratchName, Octets.spelled_ofString]

theorem respelled_scratchPlace (scratch : Place) (label : String) (number : Nat) :
    (scratchPlace scratch label number).respelled =
      scratchPlace scratch.respelled label number := by
  unfold scratchPlace Place.respelled
  rw [List.map_append, List.map_singleton, spelled_scratchName, ofString_scratchName]

/-- The names of scratch directories can begin so. -/
structure IsLabel (label : String) : Prop where
  begins : ∃ c, label.toList.head? = some c ∧ c ≠ '.'
  noSlash : '/' ∉ label.toList

theorem isProper_scratchPlace {scratch : Place} (h : scratch.IsProper) {label : String}
    (hlabel : IsLabel label) (number : Nat) : (scratchPlace scratch label number).IsProper := by
  obtain ⟨⟨c, hc, hpoint⟩, hnoSlash⟩ := hlabel
  have hname : ∀ other : String, other.toList.head? = none ∨ other.toList.head? = some '.' →
      label ++ String.ofList (scratchSuffix number) ≠ other := by
    rintro other hother rfl
    rw [String.toList_append, List.head?_append, hc] at hother
    exact hother.elim nofun fun heq => hpoint (Option.some.inj heq)
  have hparts : (scratchPlace scratch label number).path.parts =
      scratch.path.parts ++ [label ++ String.ofList (scratchSuffix number)] := by
    unfold scratchPlace Place.path
    rw [List.map_append, List.map_singleton, spelled_scratchName]
  refine ⟨fun part hpart => ?_, fun hpart => ?_⟩
  · rw [hparts] at hpart
    rcases List.mem_append.mp hpart with hmem | hlast
    · exact h.1 part hmem
    · rw [List.mem_singleton.mp hlast]
      refine ⟨hname _ (.inl rfl), hname _ (.inr rfl), ?_⟩
      rw [String.toList_append, String.toList_ofList]
      refine List.not_mem_append hnoSlash fun hslash => ?_
      exact absurd (isDigit_of_mem_scratchSuffix hslash) (by decide)
  · rw [hparts] at hpart
    rcases List.mem_append.mp hpart with hmem | hlast
    · exact h.2 hmem
    · exact hname _ (.inr rfl) (List.mem_singleton.mp hlast).symm

theorem isLabel_evaluator : IsLabel Evaluator.label := ⟨⟨'w', by decide, by decide⟩, by decide⟩

theorem scratchSuffix_inj {m n : Nat} (h : scratchSuffix m = scratchSuffix n) : m = n := by
  have hvalue : ∀ k, Nat.ofDigitChars 10 (scratchSuffix k) 0 = k := by
    intro k
    unfold scratchSuffix
    rw [Nat.ofDigitChars_append, Nat.ofDigitChars_replicate_zero, Nat.mul_zero,
      Nat.ofDigitChars_ten_toDigits]
  rw [← hvalue m, h, hvalue n]

/-- Nothing stands below scratch places with different numbers, in spaces of the same depth. -/
theorem scratchPlace_unique {scratch scratch' place : Place} {label : String} {m n : Nat}
    (hdepth : scratch.length = scratch'.length) (hm : scratchPlace scratch label m <+: place)
    (hn : scratchPlace scratch' label n <+: place) : m = n := by
  have hlength : (scratchPlace scratch label m).length =
      (scratchPlace scratch' label n).length := by
    simp [scratchPlace, hdepth]
  have hsame :=
    (List.prefix_of_prefix_length_le hm hn (Nat.le_of_eq hlength)).eq_of_length hlength
  unfold scratchPlace at hsame
  obtain ⟨-, hlast⟩ := List.append_inj hsame hdepth
  exact scratchSuffix_inj (List.append_cancel_left (List.singleton_inj.mp hlast))

end Disk

/-! ## Sources -/

namespace Assignment

variable {τ : Type} (a b : Assignment τ)

/-- The path of the source, seen from a current directory. -/
def source (current : Place) : Path :=
  ((a.config.sourceDirectory.map Path.ofString).getD current.path).joinString
    (simpleName a.request.entryPoint ++ (instrumentedSuffix ++ ".py"))

/-- Where the source lies. -/
def sourcePlace (current : Place) : Place := (a.source current).way.destination current

/-- The key of the source. -/
def lock (current : Place) : LockKey :=
  ⟨((a.source current).parent.way.destination current).path.text, (a.source current).name⟩

variable {a b}

theorem eq_source_of_sourcePath {d : Disk} {path : Path} (h : a.sourcePath d = .ok path) :
    path = a.source d.current := by
  unfold sourcePath Materializer.sourcePath at h
  dsimp only at h
  split at h
  · cases h
  · rw [← Except.ok.inj h]
    have hname : a.evaluator.materializer.fileName (simpleName a.request.entryPoint) =
        simpleName a.request.entryPoint ++ (instrumentedSuffix ++ ".py") := by
      have hpoints : String.ofList ("py".toList.dropWhile (· = '.')) = "py" := by decide
      have hextension : a.evaluator.materializer.extension = "py" := hpoints
      have hending : "." ++ "py" = ".py" := by decide
      unfold Materializer.fileName
      rw [hextension, String.append_assoc, String.append_assoc, hending]
    rw [hname]
    rfl

theorem exists_parts_source (a : Assignment τ) (current : Place) :
    ∃ init last, (a.source current).parts = init ++ [last ++ (instrumentedSuffix ++ ".py")] :=
  Path.exists_parts_joinString _ _ (by decide) (by decide)

theorem isNormal_source {current : Place} (h : current.path.IsNormal) :
    (a.source current).IsNormal := by
  unfold source Path.joinString
  refine Path.isNormal_join ?_ (Path.isNormal_ofString _)
  cases a.config.sourceDirectory with
  | none => exact h
  | some directory => exact Path.isNormal_ofString directory

/-- The command line can tell the source from an option. -/
theorem text_source (a : Assignment τ) (current : Place) :
    ['.', 'p', 'y'] <:+ (a.source current).text.toList := by
  obtain ⟨init, last, hparts⟩ := a.exists_parts_source current
  have hending : ['.', 'p', 'y'] <:+ (instrumentedSuffix ++ ".py").toList := by decide
  exact hending.trans (Path.text_of_name hparts)

/-- The name of a source has its ending, and the source lies in the place of its directory. -/
theorem sourcePlace_eq (a : Assignment τ) (current : Place) :
    a.sourcePlace current = (a.source current).parent.way.destination current ++
        [Octets.ofString (a.source current).name] ∧
      sourceEnding <:+ Octets.ofString (a.source current).name := by
  obtain ⟨init, last, hparts⟩ := a.exists_parts_source current
  have hne : ∀ other : String, other.toList.length < 3 →
      last ++ (instrumentedSuffix ++ ".py") ≠ other := by
    rintro other hother rfl
    rw [String.toList_append, List.length_append] at hother
    have hlong : 3 ≤ (instrumentedSuffix ++ ".py").toList.length := by decide
    omega
  obtain ⟨hname, hplace⟩ := Path.destination_of_name hparts
    ⟨hne _ (by decide), hne _ (by decide), hne _ (by decide)⟩ current
  rw [hname]
  refine ⟨hplace, ?_⟩
  rw [Octets.ofString_append]
  exact List.suffix_append _ _

theorem isGenerated_sourcePlace (a : Assignment τ) (current : Place) :
    (a.sourcePlace current).IsGenerated := by
  obtain ⟨hplace, hending⟩ := a.sourcePlace_eq current
  exact ⟨_, _, hplace, Or.inl hending⟩

/-- Evaluations of one file have one lock. -/
theorem lock_of_sourcePlace {current : Place} (h : a.sourcePlace current = b.sourcePlace current) :
    a.lock current = b.lock current := by
  rw [(a.sourcePlace_eq current).1, (b.sourcePlace_eq current).1] at h
  obtain ⟨hdirectory, hname⟩ := List.append_inj' h (by simp)
  have hname := Octets.ofString_inj.mp (List.singleton_inj.mp hname)
  unfold lock
  rw [hdirectory, hname]

/-- The key that is found is the lock of the source. -/
theorem lock_of_key {s : Site τ} (htree : s.disk.root.Plain)
    (hcurrent : s.disk.current.path.IsNormal) {key : LockKey} (h : a.key s = .ok key) :
    key = a.lock s.disk.current := by
  unfold Assignment.key Evaluator.lockKey at h
  cases hpath : a.evaluator.materializer.sourcePath s.disk.currentPath a.request.entryPoint with
  | error fault => simp [hpath, Except.bind] at h
  | ok path =>
    have hsource := eq_source_of_sourcePath (d := s.disk) hpath
    rw [hpath, hsource] at h
    unfold Except.bind at h
    exact Disk.key_of_plain htree (isNormal_source hcurrent) h

end Assignment

/-! ## What belongs to an evaluation -/

/-- Where evaluations work: the current directory and the one for scratch space. When they work
together, they are evaluations with one configuration, and every option in it has its value. -/
structure Scene where
  current : Place
  scratch : Place
  isNormal : current.path.IsNormal
  isProper : scratch.IsProper
  together : Prop

namespace Scene

/-- The scratch directory with a number. -/
def scratchAt (x : Scene) (n : Nat) : Place := Disk.scratchPlace x.scratch Evaluator.label n

/-- Where the path of a scratch directory leads, so that artifacts are exported to there. -/
def exportAt (x : Scene) (n : Nat) : Place :=
  Disk.scratchPlace x.scratch.respelled Evaluator.label n

theorem isNormal_scratchAt (x : Scene) (n : Nat) : (x.scratchAt n).path.IsNormal :=
  (Disk.isProper_scratchPlace x.isProper Disk.isLabel_evaluator n).1

theorem destination_scratchAt (x : Scene) (n : Nat) (current : Place) :
    (x.scratchAt n).path.way.destination current = x.exportAt n :=
  ((Disk.isProper_scratchPlace x.isProper Disk.isLabel_evaluator n).destination current).trans
    (Disk.respelled_scratchPlace ..)

/-- What is below the place that one evaluation exports to is neither below that of another one nor
goes with its scratch directory. -/
theorem exportAt_unique {x : Scene} {m n : Nat} {p : Place} (hm : x.exportAt m <+: p)
    (hn : x.exportAt n <+: p ∨ x.scratchAt n <+: p) : m = n := by
  rcases hn with hexport | hscratch
  · exact Disk.scratchPlace_unique rfl hm hexport
  · exact Disk.scratchPlace_unique (List.length_map _) hm hscratch

end Scene

/-- A place with the name of a bytecode file. -/
def IsBytecodePlace (place : Place) : Prop :=
  ∃ above name, place = above ++ [name] ∧ bytecodeEnding <:+ name

theorem IsBytecodePlace.isGenerated {place : Place} (h : IsBytecodePlace place) :
    place.IsGenerated := by
  obtain ⟨above, name, hplace, hname⟩ := h
  exact ⟨above, name, hplace, Or.inr hname⟩

/-- The file of a module below a directory, as a place. -/
def Bytecode.modulePlace (directory : Path) (module : String) (current : Place) : Place :=
  (moduleFile directory module).way.destination current

theorem Bytecode.modulePlace_eq {module : String} (h : Settings.isModuleName module = true)
    (directory : Path) (current : Place) :
    ∃ above, modulePlace directory module current =
      above ++ [Octets.ofString (simpleName module ++ ".pyc")] := by
  obtain ⟨init, hparts, -⟩ := moduleParts_eq h
  refine ⟨directory.way.destination current ++ init.map Octets.ofString, ?_⟩
  unfold modulePlace
  rw [destination_moduleFile h, hparts, List.map_append, List.append_assoc]
  rfl

theorem Bytecode.isBytecodePlace_modulePlace {module : String}
    (h : Settings.isModuleName module = true) (directory : Path) (current : Place) :
    IsBytecodePlace (modulePlace directory module current) := by
  obtain ⟨above, hplace⟩ := modulePlace_eq h directory current
  refine ⟨above, _, hplace, ?_⟩
  rw [Octets.ofString_append]
  exact List.suffix_append _ _

namespace Assignment

variable {τ : Type} (a b : Assignment τ) (x : Scene) (own : Option Nat)

/-- A place for a bytecode file. Evaluations that work together have one file each, below the
configured directory or where they export to with the number that they have taken. -/
def MayEmit (p : Place) : Prop :=
  IsBytecodePlace p ∧ (x.together →
    Settings.isModuleName a.request.entryPoint = true ∧
      match Settings.directoryOf a.config with
      | some directory => p = Bytecode.modulePlace directory a.request.entryPoint x.current
      | none => ∃ n, own = some n ∧ x.exportAt n <+: p)

def Writes (p : Place) : Prop := p = a.sourcePlace x.current ∨ a.MayEmit x own p

/-- What goes with the scratch directory. When evaluations work together, there is none if
another directory is configured. -/
def Removes (p : Place) : Prop :=
  (x.together → Settings.directoryOf a.config = none) ∧
    ∃ n, own = some n ∧ x.scratchAt n <+: p

variable {a b x own}

theorem Writes.isGenerated {p : Place} (h : a.Writes x own p) : p.IsGenerated := by
  rcases h with hsource | hemit
  · rw [hsource]
    exact a.isGenerated_sourcePlace x.current
  · exact hemit.1.isGenerated

/-- No source is a bytecode file. -/
theorem sourcePlace_ne (a : Assignment τ) (current : Place) {p : Place} (h : IsBytecodePlace p) :
    p ≠ a.sourcePlace current := by
  intro heq
  obtain ⟨above, name, hplace, hname⟩ := h
  obtain ⟨hsource, hending⟩ := a.sourcePlace_eq current
  rw [heq, hsource] at hplace
  obtain ⟨-, hlast⟩ := List.append_inj' hplace (by simp)
  rw [List.singleton_inj.mp hlast] at hending
  have hshort : bytecodeEnding <:+ sourceEnding :=
    List.suffix_of_suffix_length_le hname hending (by decide)
  exact absurd hshort (by decide)

/-- Evaluations with one configuration and one bytecode file have one source. -/
theorem lock_of_modulePlace (hconfig : a.config = b.config) {directory : Path} {current : Place}
    (ha : Settings.isModuleName a.request.entryPoint = true)
    (hb : Settings.isModuleName b.request.entryPoint = true)
    (h : Bytecode.modulePlace directory a.request.entryPoint current =
      Bytecode.modulePlace directory b.request.entryPoint current) :
    a.lock current = b.lock current := by
  obtain ⟨above, hplace⟩ := Bytecode.modulePlace_eq ha directory current
  obtain ⟨above', hplace'⟩ := Bytecode.modulePlace_eq hb directory current
  rw [hplace, hplace'] at h
  obtain ⟨-, hlast⟩ := List.append_inj' h (by simp)
  have hnames := Octets.ofString_inj.mp (List.singleton_inj.mp hlast)
  have hsimple : simpleName a.request.entryPoint = simpleName b.request.entryPoint := by
    have hchars := congrArg String.toList hnames
    rw [String.toList_append, String.toList_append] at hchars
    exact String.toList_inj.mp (List.append_cancel_right hchars)
  refine lock_of_sourcePlace ?_
  unfold sourcePlace source
  rw [hconfig, hsimple]

/-- Evaluations with different locks write to different places. -/
theorem not_writes_source (hlock : a.lock x.current ≠ b.lock x.current) :
    ¬b.Writes x own (a.sourcePlace x.current) := by
  rintro (hsource | ⟨hbytecode, -⟩)
  · exact hlock (lock_of_sourcePlace hsource)
  · exact a.sourcePlace_ne x.current hbytecode rfl

variable {own' : Option Nat} {p : Place}

/-- When they work together, none writes or removes the bytecode file of another. -/
theorem not_writes_emitted (hlock : a.lock x.current ≠ b.lock x.current)
    (hown : ∀ n, own = some n → own' ≠ some n) (htogether : x.together)
    (hconfig : a.config = b.config) (h : a.MayEmit x own p) :
    ¬b.Writes x own' p ∧ ¬b.Removes x own' p := by
  obtain ⟨hbytecode, hexact⟩ := h
  obtain ⟨hname, hplace⟩ := hexact htogether
  have hscratch : ∀ {m n : Nat}, own = some m → own' = some n → x.exportAt m <+: p →
      ¬(x.exportAt n <+: p ∨ x.scratchAt n <+: p) := by
    intro m n hm hn hbelow hbelow'
    exact hown m hm (Scene.exportAt_unique hbelow hbelow' ▸ hn)
  refine ⟨?_, ?_⟩
  · rintro (hsource | ⟨-, hexact'⟩)
    · exact b.sourcePlace_ne x.current hbytecode hsource
    · obtain ⟨hname', hplace'⟩ := hexact' htogether
      rw [← hconfig] at hplace'
      cases hdirectory : Settings.directoryOf a.config with
      | some directory =>
        simp only [hdirectory] at hplace hplace'
        exact hlock (lock_of_modulePlace hconfig hname hname' (hplace.symm.trans hplace'))
      | none =>
        simp only [hdirectory] at hplace hplace'
        obtain ⟨m, hm, hbelow⟩ := hplace
        obtain ⟨n, hn, hbelow'⟩ := hplace'
        exact hscratch hm hn hbelow (Or.inl hbelow')
  · rintro ⟨hnone, n, hn, hbelow'⟩
    rw [hconfig, hnone htogether] at hplace
    obtain ⟨m, hm, hbelow⟩ := hplace
    exact hscratch hm hn hbelow (Or.inr hbelow')

end Assignment

end Worksheet
