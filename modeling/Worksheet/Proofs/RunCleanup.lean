-- What is done with a program when the wait for it is over, and what is told. Everything that it
-- has started is killed if the wait has failed or if somebody still holds its output, the streams
-- that have ended are closed, and of several failures the first one in a fixed order is told.
import Worksheet.Proofs.OutputOrder

namespace Worksheet

open Text (Bytes)

/-- What is done with a program. -/
inductive Deed
  | killed
  | reaped
  | joined (stream : OutputStream) (patience : Rat)
  | closed (stream : OutputStream)
  deriving DecidableEq

namespace ChildOps

variable {σ : Type}

/-- The same, and a note is made of all that is done. -/
def noting (ops : ChildOps σ) : ChildOps (σ × List Deed) where
  killGroup s := (ops.killGroup s.1, s.2 ++ [.killed])
  reap s := (ops.reap s.1, s.2 ++ [.reaped])
  join stream patience s := (ops.join stream patience s.1, s.2 ++ [.joined stream patience])
  close stream s := (ops.close stream s.1, s.2 ++ [.closed stream])
  drain s := ops.drain s.1

variable (ops : ChildOps σ) (s : σ) (log : List Deed) (stream : OutputStream)

@[simp]
theorem killGroup_noting :
    ops.noting.killGroup (s, log) = (ops.killGroup s, log ++ [.killed]) := rfl

@[simp]
theorem reap_noting : ops.noting.reap (s, log) = (ops.reap s, log ++ [.reaped]) := rfl

@[simp]
theorem join_noting (patience : Rat) : ops.noting.join stream patience (s, log) =
    (ops.join stream patience s, log ++ [.joined stream patience]) := rfl

@[simp]
theorem close_noting :
    ops.noting.close stream (s, log) = (ops.close stream s, log ++ [.closed stream]) := rfl

@[simp]
theorem drain_noting : ops.noting.drain (s, log) = ops.drain s := rfl

/-- A program is reaped by a reaping, and by a wait that comes to its exit. From then on it is. -/
structure Reaps (ops : ChildOps σ) (wait : σ → Except Fault Int × σ) (reaped : σ → Prop) :
    Prop where
  wait : ∀ s code, (wait s).1 = .ok code → reaped (wait s).2
  reap : ∀ s, reaped (ops.reap s)
  killGroup : ∀ s, reaped s → reaped (ops.killGroup s)
  join : ∀ stream patience s, reaped s → reaped (ops.join stream patience s)
  close : ∀ stream s, reaped s → reaped (ops.close stream s)

end ChildOps

namespace Session

variable {σ : Type}

/-! ## Moments -/

section Moments

variable (ops : ChildOps σ) (p : Patience)

/-- The end of a wait. One that has failed kills the program. -/
def waitOver (waited : Except Fault Int × σ) : σ :=
  match waited.1 with
  | .error _ => kill ops waited.2
  | .ok _ => waited.2

/-- The streams have had their time of grace. -/
def graceOver (s : σ) : σ := ops.join .stderr p.grace (ops.join .stdout p.grace s)

/-- A stream is still read after the time of grace. -/
def lingers (s : σ) : Bool := (ops.drain (graceOver ops p s)).isOpen

/-- Nobody is left who should not write any more. -/
def swept (s : σ) : σ :=
  if lingers ops p s then kill ops (graceOver ops p s) else graceOver ops p s

/-- A stream has been waited for for the last time. -/
def lastJoin (s : σ) : OutputStream → σ
  | .stdout => ops.join .stdout p.rest (swept ops p s)
  | .stderr => ops.join .stderr p.rest (finishStream ops p.rest .stdout (swept ops p s))

/-- The reader of a stream is done by then. -/
def hasFinished (s : σ) (stream : OutputStream) : Bool :=
  !((ops.drain (lastJoin ops p s stream)).reader stream).isReading

end Moments

/-! ## Deeds -/

/-- A program is killed, and then reaped. -/
def killing (really : Bool) : List Deed := if really then [.killed, .reaped] else []

/-- A stream is waited for, and closed if its reader is done by then. -/
def finishing (patience : Rat) (finished : Bool) (stream : OutputStream) : List Deed :=
  .joined stream patience :: if finished then [.closed stream] else []

/-- All that is done after a wait. -/
def deeds (p : Patience) (raised lingers : Bool) (finished : OutputStream → Bool) : List Deed :=
  killing raised ++ [.joined .stdout p.grace, .joined .stderr p.grace] ++ killing lingers ++
    finishing p.rest (finished .stdout) .stdout ++ finishing p.rest (finished .stderr) .stderr

/-- The wait has failed. -/
def hasRaised : Except Fault Int → Bool
  | .error _ => true
  | .ok _ => false

/-- Notes go on through a wait. -/
def noted (wait : σ → Except Fault Int × σ) (s : σ × List Deed) :
    Except Fault Int × (σ × List Deed) :=
  ((wait s.1).1, (wait s.1).2, s.2)

section Counts

variable {raised lingers : Bool} {finished : OutputStream → Bool} {stream : OutputStream}

theorem killed_mem_killing {really : Bool} : .killed ∈ killing really ↔ really = true := by
  cases really <;> decide

theorem killed_mem_deeds :
    .killed ∈ deeds p raised lingers finished ↔ raised = true ∨ lingers = true := by
  have hfinishing : ∀ patience finished stream, .killed ∉ finishing patience finished stream := by
    intro patience finished stream
    cases finished <;> simp [finishing]
  simp [deeds, killed_mem_killing, hfinishing]

theorem joined_mem_deeds : .joined stream p.rest ∈ deeds p raised lingers finished := by
  cases stream <;> simp [deeds, finishing]

theorem count_closed_killing {really : Bool} : (killing really).count (.closed stream) = 0 := by
  cases really <;> rfl

theorem count_closed_finishing (patience : Rat) (finished : Bool) (s : OutputStream) :
    (finishing patience finished s).count (.closed stream) =
      if finished = true ∧ s = stream then 1 else 0 := by
  cases finished <;> simp [finishing, List.count_cons]

theorem count_closed_deeds : (deeds p raised lingers finished).count (.closed stream) =
    if finished stream then 1 else 0 := by
  simp only [deeds, List.count_append, count_closed_killing, count_closed_finishing]
  cases stream <;> simp

end Counts

section Noting

variable {ops : ChildOps σ} {command encoding : String} {wait : σ → Except Fault Int × σ} {s : σ}
  {log : List Deed}

theorem kill_noting : kill ops.noting (s, log) = (kill ops s, log ++ killing true) := by
  simp [kill, killing]

theorem finishStream_noting (patience : Rat) (stream : OutputStream) :
    finishStream ops.noting patience stream (s, log) =
      (finishStream ops patience stream s, log ++ finishing patience
        (!((ops.drain (ops.join stream patience s)).reader stream).isReading) stream) := by
  by_cases h : ((ops.drain (ops.join stream patience s)).reader stream).isReading = true
  · simp [finishStream, finishing, h]
  · simp [finishStream, finishing, h]

theorem swept_noting : swept ops.noting p (s, log) =
    (swept ops p s, log ++ [.joined .stdout p.grace, .joined .stderr p.grace] ++
      killing (lingers ops p s)) := by
  have hgrace : graceOver ops.noting p (s, log) = (graceOver ops p s,
      log ++ [.joined .stdout p.grace, .joined .stderr p.grace]) := by
    simp [graceOver]
  have hlingers : lingers ops.noting p (s, log) = lingers ops p s := by
    unfold lingers
    rw [hgrace]
    rfl
  unfold swept
  rw [hlingers, hgrace]
  split
  · next h => rw [kill_noting, h]
  · next h => simp [killing, h]

theorem finishStreams_eq (ops : ChildOps σ) (p : Patience) (s : σ) :
    finishStreams ops p s = finishStream ops p.rest .stderr
      (finishStream ops p.rest .stdout (swept ops p s)) := rfl

theorem finishStreams_noting : finishStreams ops.noting p (s, log) =
    (finishStreams ops p s, log ++ deeds p false (lingers ops p s) (hasFinished ops p s)) := by
  rw [finishStreams_eq, swept_noting, finishStream_noting, finishStream_noting]
  refine Prod.ext rfl ?_
  simp only [deeds, killing, Bool.false_eq_true, if_false, List.nil_append, List.append_assoc]
  rfl

theorem run_eq (ops : ChildOps σ) (p : Patience) (command encoding : String)
    (wait : σ → Except Fault Int × σ) (s : σ) :
    run ops p command encoding wait s =
      (verdict command encoding (wait s).1
          (ops.drain (finishStreams ops p (waitOver ops (wait s)))),
        finishStreams ops p (waitOver ops (wait s))) := rfl

theorem waitOver_noting : waitOver ops.noting (noted wait (s, log)) =
    (waitOver ops (wait s), log ++ killing (hasRaised (wait s).1)) := by
  rcases hwait : wait s with ⟨waited, s₁⟩
  cases waited with
  | error fault => simp [waitOver, noted, hwait, kill_noting, hasRaised]
  | ok code => simp [waitOver, noted, hwait, killing, hasRaised]

/-- A run that makes notes does what a run does, and what it notes is told by how the wait ends and
which readers are done at which moments. -/
theorem run_noting : run ops.noting p command encoding (noted wait) (s, log) =
    ((run ops p command encoding wait s).1, (run ops p command encoding wait s).2,
      log ++ deeds p (hasRaised (wait s).1) (lingers ops p (waitOver ops (wait s)))
        (hasFinished ops p (waitOver ops (wait s)))) := by
  rw [run_eq, run_eq, waitOver_noting, finishStreams_noting]
  refine Prod.ext rfl (Prod.ext rfl ?_)
  simp only [deeds, killing, Bool.false_eq_true, if_false, List.nil_append, List.append_assoc]

end Noting

/-! ## Verdicts -/

/-- What is told of a wait and of what has come to the drain: the first failure, in the order in
which they are given here, or else the exit code. -/
inductive Tells (command encoding : String) (d : Drain) :
    Except Fault Int → Except Fault RunResult → Prop
  | waitFailure {fault : Fault} : fault.isSystemFault = true →
    Tells command encoding d (.error fault) (.error (.execution (.waiting command fault.message)))
  | waitEnd {fault : Fault} : fault.isSystemFault = false →
    Tells command encoding d (.error fault) (.error fault)
  | stdout {code : Int} {fault : Fault} : (d.reader .stdout).fault? = some fault →
    Tells command encoding d (.ok code) (.error (.execution (.reading .stdout fault.message)))
  | stderr {code : Int} {fault : Fault} : (d.reader .stdout).fault? = none →
    (d.reader .stderr).fault? = some fault →
    Tells command encoding d (.ok code) (.error (.execution (.reading .stderr fault.message)))
  | killed {code : Int} : (∀ stream, (d.reader stream).fault? = none) → code < 0 →
    Tells command encoding d (.ok code) (.error (.execution (.killed (-code))))
  | exited {code : Int} {text : Text.Points} : (∀ stream, (d.reader stream).fault? = none) →
    0 ≤ code → decode encoding d.output = .ok text →
    Tells command encoding d (.ok code) (.ok ⟨text, code⟩)
  | undecodable {code : Int} {fault : Fault} : (∀ stream, (d.reader stream).fault? = none) →
    0 ≤ code → decode encoding d.output = .error fault →
    Tells command encoding d (.ok code) (.error fault)

theorem decode_utf8 (output : Bytes) : ∃ text, decode "utf-8" output = .ok text := by
  unfold decode
  rw [Text.Encoding.read_utf8_eq]
  exact ⟨_, rfl⟩

theorem tells_exited (command encoding : String) {d : Drain}
    (hnone : ∀ stream, (d.reader stream).fault? = none) {code : Int} (hcode : 0 ≤ code) :
    Tells command encoding d (.ok code)
      ((decode encoding d.output).map fun text => ⟨text, code⟩) := by
  cases hdecode : decode encoding d.output with
  | error fault => exact .undecodable hnone hcode hdecode
  | ok text => exact .exited hnone hcode hdecode

theorem tells_verdict (command encoding : String) (waited : Except Fault Int) (d : Drain) :
    Tells command encoding d waited (verdict command encoding waited d) := by
  unfold verdict
  cases waited with
  | error fault =>
    dsimp only
    split
    · exact .waitFailure (by assumption)
    · exact .waitEnd (Bool.eq_false_iff.mpr (by assumption))
  | ok code =>
    cases hfault : d.fault? with
    | some found =>
      obtain ⟨stream, fault⟩ := found
      have hreader := Drain.reader_of_fault? hfault
      cases stream with
      | stdout => exact .stdout hreader
      | stderr =>
        refine .stderr ?_ hreader
        cases hout : d.stdout.fault? with
        | none => exact hout
        | some cause => simp [Drain.fault?, hout] at hfault
    | none =>
      rw [Drain.fault?_eq_none_iff] at hfault
      dsimp only
      split
      · exact .killed hfault (by assumption)
      · exact tells_exited command encoding hfault (by omega)

/-! ## Runs -/

section Runs

variable {ops : ChildOps σ} {p : Patience} {wait : σ → Except Fault Int × σ} {s : σ}
  {reaped : σ → Prop}

theorem reaped_waitOver (hreaps : ops.Reaps wait reaped) (s : σ) :
    reaped (waitOver ops (wait s)) := by
  unfold waitOver
  cases hwait : (wait s).1 with
  | error fault => exact hreaps.reap _
  | ok code => exact hreaps.wait s code hwait

theorem reaped_finishStream (hreaps : ops.Reaps wait reaped) (patience : Rat)
    (stream : OutputStream) (hs : reaped s) : reaped (finishStream ops patience stream s) := by
  have hjoin := hreaps.join stream patience s hs
  unfold finishStream
  dsimp only
  split
  · exact hjoin
  · exact hreaps.close stream _ hjoin

theorem reaped_run (hreaps : ops.Reaps wait reaped) (p : Patience) (command encoding : String)
    (s : σ) : reaped (run ops p command encoding wait s).2 := by
  have hgrace : reaped (graceOver ops p (waitOver ops (wait s))) :=
    hreaps.join .stderr p.grace _ (hreaps.join .stdout p.grace _ (reaped_waitOver hreaps s))
  have hswept : reaped (swept ops p (waitOver ops (wait s))) := by
    unfold swept
    split
    · exact hreaps.reap _
    · exact hgrace
  rw [run_eq, finishStreams_eq]
  exact reaped_finishStream hreaps _ _ (reaped_finishStream hreaps _ _ hswept)

/-- For any program, any ending of the wait for it, and any readers that are done at any moment. The
program is killed exactly when the wait has failed or a stream is still read after the time of
grace, and is reaped in the end. Both streams are waited for, and one is closed, once, exactly when
its reader is done by then. What is told is the failure of the wait, or else of a read of the
standard output, or else of a read of the error output, or else the death by a signal; and without
any of them the exit code, if the output can be decoded, and otherwise what is wrong with it. Any
output can be decoded as UTF-8. -/
theorem a_run_cleans_up_and_tells_its_first_failure (hreaps : ops.Reaps wait reaped)
    (p : Patience) (command encoding : String) (s : σ) :
    ∃ result s₁ log,
      run ops p command encoding wait s = (result, s₁) ∧
      run ops.noting p command encoding (noted wait) (s, []) = (result, s₁, log) ∧
      (.killed ∈ log ↔
        hasRaised (wait s).1 = true ∨ lingers ops p (waitOver ops (wait s)) = true) ∧
      reaped s₁ ∧
      (∀ stream, .joined stream p.rest ∈ log ∧ log.count (.closed stream) =
        if hasFinished ops p (waitOver ops (wait s)) stream then 1 else 0) ∧
      Tells command encoding (ops.drain s₁) (wait s).1 result ∧
      ∃ text, decode "utf-8" (ops.drain s₁).output = .ok text := by
  refine ⟨_, _, _, rfl, run_noting, killed_mem_deeds, reaped_run hreaps p command encoding s,
    fun stream => ⟨joined_mem_deeds, count_closed_deeds⟩, ?_, decode_utf8 _⟩
  exact tells_verdict command encoding _ _

/-- What is known of a program: its output, and whether it has been reaped. -/
structure Child where
  drain : Drain
  reaped : Bool

/-- A program has left something behind that holds its standard output until it is killed. -/
def held : ChildOps Child where
  killGroup c := { c with drain := c.drain.read .stdout (.ok []) }
  reap c := { c with reaped := true }
  join _ _ c := c
  close _ c := c
  drain := Child.drain

/-- A program has written a letter and exited with a code. -/
def exitWith (code : Int) (_ : Child) : Except Fault Int × Child :=
  (.ok code, ⟨.after [(.stdout, .ok [120]), (.stderr, .ok [])], true⟩)

theorem reaps_held (code : Int) : held.Reaps (exitWith code) (·.reaped = true) :=
  ⟨fun _ _ _ => rfl, fun _ => rfl, fun _ h => h, fun _ _ _ h => h, fun _ _ h => h⟩

/-- What a program has left behind is killed, and then both streams are closed. -/
theorem what_a_program_leaves_behind_is_killed : ∃ result c, ∃ log : List Deed,
    run held .usual "rt" "utf-8" (exitWith 3) ⟨.start, false⟩ = (result, c) ∧
    .killed ∈ log ∧ c.reaped = true ∧ (∀ stream, log.count (.closed stream) = 1) ∧
    Tells "rt" "utf-8" c.drain (.ok 3) result := by
  obtain ⟨result, c, log, hrun, -, hkilled, hreaped, hstreams, htells, -⟩ :=
    a_run_cleans_up_and_tells_its_first_failure (reaps_held 3) .usual "rt" "utf-8"
      ⟨.start, false⟩
  refine ⟨result, c, log, hrun, hkilled.mpr (.inr rfl), hreaped, fun stream => ?_, htells⟩
  rw [(hstreams stream).2]
  cases stream <;> rfl

/-- Without an encoding of a name no output is decoded but the empty one. -/
theorem decode_of_unknown {encoding : String}
    (hnul : encoding.toList.contains '\x00' = false)
    (hfind : Text.Encoding.find? encoding = none) (b : UInt8) (rest : Bytes) :
    decode encoding (b :: rest) = .error (.encoding (.unknown encoding)) := by
  unfold decode Text.Encoding.read
  rw [hnul, hfind]
  rfl

/-- A program has exited with zero and no read has failed, but the output cannot be decoded. -/
theorem an_output_in_an_unknown_encoding_is_an_error :
    (exitWith 0 ⟨.start, false⟩).1 = .ok 0 ∧
    (held.drain (run held .usual "rt" "nope" (exitWith 0) ⟨.start, false⟩).2).fault? = none ∧
    (run held .usual "rt" "nope" (exitWith 0) ⟨.start, false⟩).1 =
      .error (.encoding (.unknown "nope")) := by
  have hdecode : decode "nope" [120] = .error (.encoding (.unknown "nope")) :=
    decode_of_unknown (by decide) (by decide +kernel) 120 []
  let drain := held.drain (run held .usual "rt" "nope" (exitWith 0) ⟨.start, false⟩).2
  have houtput : drain.output = [120] := rfl
  have hfault : drain.fault? = none := rfl
  refine ⟨rfl, hfault, ?_⟩
  rw [run_eq_verdict]
  simp only [verdict, exitWith]
  rw [if_neg (by decide), houtput, hdecode]
  rfl

end Runs

end Session

end Worksheet
