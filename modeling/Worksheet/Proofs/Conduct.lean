-- How an evaluation behaves, action by action. It writes its source and its bytecode file and takes
-- its scratch directory away; what it has written is there until it acts on it, as long as others
-- leave it alone.
import Worksheet.Proofs.StepwiseRuns
import Worksheet.Proofs.Territory

namespace Worksheet

open Text (Bytes Octets Points)

variable {τ : Type}

/-! ## Conduct -/

/-- A site of the scene, on which no link is. -/
structure Site.Settled (x : Scene) (s : Site τ) : Prop where
  current : s.disk.current = x.current
  scratch : s.disk.scratch = x.scratch
  plain : s.disk.root.Plain

/-- The numbers given out are those of the scratch directories. -/
def Scene.ground (x : Scene) : Ground (Site τ) where
  sane s := s.Settled x
  count s := s.disk.scratchCount

namespace Assignment

/-- The content of a bytecode file that has been made of the assignment's own source. -/
def IsCompiled (a : Assignment τ) (data : Bytes) : Prop :=
  ∃ source filename optimize site code seconds,
    Text.Utf8.encode a.request.source = .ok source ∧
      (a.generate ⟨source, filename, optimize⟩ site).1.result = .ok code ∧
      data = Bytecode.file code source.length seconds

/-- What has been emitted was made of the assignment's own source, and is in the file of the entry
point, below the configured directory or below the one that comes first in the class path. -/
def FindsOwn (a : Assignment τ) (d : Disk) (request : RunRequest) (emission : Option Emission) :
    Prop :=
  ∃ directory data, emission = some ⟨some directory, data⟩ ∧ a.IsCompiled data ∧
    (Settings.directoryOf a.config = some directory ∨
      Settings.directoryOf a.config = none ∧ request.classpath.head? = some directory.text) ∧
    d.HasFile (d.resolvePlace (Bytecode.moduleFile directory a.request.entryPoint).way.octets) data

/-- Others leave the source alone, and the bytecode file too when all work together. -/
structure Relies (a : Assignment τ) (x : Scene) (own : Option Nat) (s s' : Site τ) : Prop where
  source : ∀ content, s.disk.HoldsOnly (a.sourcePlace x.current) content →
    s'.disk.HoldsOnly (a.sourcePlace x.current) content
  emitted : x.together → ∀ p content, a.MayEmit x own p → s.disk.HasFile p content →
    s'.disk.HasFile p content

/-- The code generator is asked with the assignment's own source, unless an option awaits its value
when the source is read. A program is run with what was emitted for its own assignment. -/
def Asks (a : Assignment τ) (x : Scene) : Event → Site τ → Prop
  | .other, _ => True
  | .generate request, _ =>
    awaitsValue (a.config.compilerArguments ++ Backend.moduleArguments a.request.entryPoint) =
      false → Text.Utf8.encode a.request.source = .ok request.source
  | .run request emission, s => x.together → a.FindsOwn s.disk request emission

def conduct (a : Assignment τ) (x : Scene) : Conduct Event (Site τ) where
  relies := a.Relies x
  does own s s' := Disk.Change (a.Writes x own) (a.Removes x own) s.disk s'.disk
  asks := a.Asks x

end Assignment

/-! ## Single actions -/

open Steps

variable {a : Assignment τ} {x : Scene} {own : Option Nat} {s : Site τ}

theorem behaves_look {α : Type} {f : Site τ → α} {Q : α → Option Nat → Site τ → Prop}
    (h : ∀ s', a.Relies x own s s' → s'.Settled x → Q (f s') own s') :
    (a.conduct x).Behaves x.ground (look f) own s Q :=
  .ask fun s' hrelies hsettled => ⟨trivial, .refl _, h s' hrelies hsettled⟩

theorem behaves_onDisk {α : Type} {action : Disk → α × Disk}
    {Q : α → Option Nat → Site τ → Prop}
    (h : ∀ s', a.Relies x own s s' → s'.Settled x →
      Disk.Change (a.Writes x own) (a.Removes x own) s'.disk (action s'.disk).2 ∧
        Q (action s'.disk).1 own { s' with disk := (action s'.disk).2 }) :
    (a.conduct x).Behaves x.ground (onDisk action) own s Q :=
  .ask fun s' hrelies hsettled => ⟨trivial, h s' hrelies hsettled⟩

/-! ## Files -/

/-- A place has been given its content: no file with another content is there, and when all work
together, a bytecode file is. -/
structure Assignment.Written (a : Assignment τ) (x : Scene) (own : Option Nat) (place : Place)
    (content : Bytes) (s : Site τ) : Prop where
  holdsOnly : s.disk.HoldsOnly place content
  hasFile : x.together → a.MayEmit x own place → s.disk.HasFile place content

theorem behaves_openToWrite {w : Way} (hw : w.Named) (hne : w.parts ≠ [])
    (hwrites : a.Writes x own (w.destination x.current)) :
    (a.conduct x).Behaves x.ground (openToWrite w.octets) own s fun r own' s' =>
      own' = own ∧ ∀ place, r = .ok place →
        place = w.destination x.current ∧ a.Written x own place [] s' := by
  refine behaves_onDisk fun s' _ hsettled => ?_
  cases hopen : s'.disk.openToWrite s'.disk.current Mode.usualMask true w.octets with
  | error e => exact ⟨.refl _, rfl, fun place hplace => by cases hplace⟩
  | ok opened =>
    obtain ⟨found, d⟩ := opened
    have hname : (w.destination s'.disk.current).IsGenerated := by
      rw [hsettled.current]
      exact hwrites.isGenerated
    obtain ⟨hplace, hchange, hfile⟩ :=
      Disk.openToWrite_of_plain hsettled.plain hw hne hname hopen
    rw [hsettled.current] at hplace
    refine ⟨hchange.mono (fun p hp => ?_) (fun p hp => hp.elim), rfl, fun place hfound => ?_⟩
    · rw [hp, hplace]
      exact hwrites
    · cases hfound
      exact ⟨hplace, hfile.holdsOnly, fun _ _ => hfile⟩

/-- The way in which a failure is told does not matter. -/
theorem behaves_fill {place : Place} {content : Bytes} (hwrites : a.Writes x own place)
    (hopen : a.Written x own place [] s) {ε : Type} (tell : Errno → ε) :
    (a.conduct x).Behaves x.ground ((fill place content).map fun r => r.mapError tell) own s
      fun r own' s' => own' = own ∧ (r = .ok () → a.Written x own place content s') := by
  refine (behaves_onDisk fun s' hrelies hsettled => ?_).map fun r own' s' hfill => hfill
  cases hfill : s'.disk.fill place content with
  | error e => exact ⟨.refl _, rfl, fun hok => by cases hok⟩
  | ok d =>
    obtain ⟨hchange, hholds, hfile⟩ := Disk.fill_of_plain hsettled.plain hwrites.isGenerated hfill
    refine ⟨hchange.mono (fun p hp => ?_) (fun p hp => hp.elim), rfl, fun _ => ⟨hholds, ?_⟩⟩
    · rw [hp]
      exact hwrites
    · intro htogether hemit
      exact hfile [] (hrelies.emitted htogether place [] hemit (hopen.hasFile htogether hemit))

theorem behaves_writeBytes {path : Path} (hpath : path.IsNormal) (hne : path.parts ≠ [])
    (hwrites : a.Writes x own (path.way.destination x.current)) {content : Bytes} :
    (a.conduct x).Behaves x.ground (writeBytes path content) own s fun r own' s' =>
      own' = own ∧ (r = .ok () → a.Written x own (path.way.destination x.current) content s') := by
  unfold writeBytes
  split
  · exact .done ⟨rfl, fun hok => by cases hok⟩
  · refine (behaves_openToWrite (Path.named_way hpath) (by simpa [Path.way] using hne) hwrites).bind
      fun r own' s' hr => ?_
    obtain ⟨rfl, hplace⟩ := hr
    cases r with
    | error e => exact .done ⟨rfl, fun hok => by cases hok⟩
    | ok place =>
      obtain ⟨rfl, hopen⟩ := hplace place rfl
      exact behaves_fill hwrites hopen _

theorem behaves_exportInto {w : Way} (hw : w.Named) (hne : w.parts ≠ [])
    (hwrites : a.Writes x own (w.destination x.current)) {content : Bytes} :
    (a.conduct x).Behaves x.ground (exportInto w content) own s fun r own' s' =>
      own' = own ∧ (r = .ok () → a.Written x own (w.destination x.current) content s') := by
  unfold exportInto
  split
  · exact .done ⟨rfl, fun hok => by cases hok⟩
  · refine (behaves_openToWrite hw hne hwrites).bind fun r own' s' hr => ?_
    obtain ⟨rfl, hplace⟩ := hr
    cases r with
    | error e => exact .done ⟨rfl, fun hok => by cases hok⟩
    | ok place =>
      obtain ⟨rfl, hopen⟩ := hplace place rfl
      exact behaves_fill hwrites hopen _

/-! ## Directories -/

/-- Directories come where nothing is, and belong to nobody. -/
theorem behaves_makeDirectory (way : Way) :
    (a.conduct x).Behaves x.ground (makeDirectory way) own s fun _ own' _ => own' = own := by
  refine behaves_onDisk fun s' _ _ => ?_
  cases hmake : s'.disk.makeDirectory s'.disk.current Mode.usualMask way.octets with
  | error e => exact ⟨.refl _, rfl⟩
  | ok d =>
    exact ⟨(Disk.change_makeDirectory hmake).mono (fun p hp => hp.elim) (fun p hp => hp.elim), rfl⟩

theorem behaves_acceptDirectory (way : Way) (e : Errno) :
    (a.conduct x).Behaves x.ground (acceptDirectory way e) own s fun _ own' _ => own' = own :=
  behaves_look fun _ _ _ => rfl

theorem behaves_ensureDirectory (way : Way) :
    (a.conduct x).Behaves x.ground (ensureDirectory way) own s fun _ own' _ => own' = own := by
  refine (behaves_makeDirectory way).bind fun r own' s' hown => ?_
  subst hown
  cases r with
  | ok => exact .done rfl
  | error e => exact behaves_acceptDirectory way e

theorem behaves_makeDirectories (anchor : Anchor) (room : Nat) (parts : List Octets) :
    (a.conduct x).Behaves x.ground (makeDirectories anchor room parts) own s
      fun _ own' _ => own' = own := by
  induction room generalizing parts own s with
  | zero => exact .done rfl
  | succ room ih =>
    cases parts with
    | nil => exact behaves_ensureDirectory _
    | cons c above =>
      refine (behaves_makeDirectory _).bind fun r own' s' hown => ?_
      subst hown
      split
      · exact .done rfl
      · refine (ih above).bind fun r own'' s'' hown => ?_
        subst hown
        split
        · exact behaves_ensureDirectory _
        · exact .done rfl
      · exact behaves_acceptDirectory _ _

theorem behaves_ensurePath (path : Path) :
    (a.conduct x).Behaves x.ground (ensurePath path) own s fun _ own' _ => own' = own := by
  unfold ensurePath
  split
  · exact .done rfl
  · refine (behaves_makeDirectories _ _ _).bind fun r own' s' hown => ?_
    subst hown
    split <;> exact .done rfl

/-! ## Scratch directories -/

theorem behaves_openScratch :
    (a.conduct x).Behaves x.ground (onDisk (Disk.openScratch Evaluator.label)) own s
      fun r own' _ => ∀ place, r = .ok place →
        ∃ n, own' = some n ∧ place = x.scratchAt n := by
  refine Conduct.Behaves.act_iff.mpr fun s' _ hsettled => ⟨trivial, ?_⟩
  cases hopen : Disk.openScratch Evaluator.label s'.disk with
  | mk r d =>
    cases r with
    | error fault =>
      have hsame := Disk.openScratch_error hopen
      refine ⟨own, Or.inl rfl, ?_, .done fun place hplace => ?_⟩
      · simp only [hopen, hsame]
        exact .refl _
      · simp only [hopen] at hplace
        cases hplace
    | ok found =>
      obtain ⟨hplace, hcount, hchange⟩ := Disk.openScratch_spec hopen
      refine ⟨some s'.disk.scratchCount, Or.inr ⟨rfl, ?_⟩, ?_, .done fun place hfound => ?_⟩
      · simp only [hopen, Scene.ground]
        omega
      · simp only [hopen]
        exact hchange.mono (fun p hp => hp.elim) (fun p hp => hp.elim)
      · simp only [hopen] at hfound
        cases hfound
        exact ⟨_, rfl, by rw [hplace, hsettled.scratch, Scene.scratchAt]⟩

theorem behaves_removeScratch {n : Nat}
    (hremoves : x.together → Settings.directoryOf a.config = none) :
    (a.conduct x).Behaves x.ground
      (onDisk (Disk.removeScratch (x.scratchAt n))) (some n) s
      fun _ _ _ => True := by
  refine behaves_onDisk fun s' _ _ => ⟨?_, trivial⟩
  exact (Disk.change_removeScratch _ _).mono (fun p hp => hp.elim)
    fun p hp => ⟨hremoves, n, rfl, hp⟩

end Worksheet
