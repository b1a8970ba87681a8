-- What becomes of the output of a program when a read of it fails. The reader of a stream tells of
-- failures of the system and of wrong values, and then the run fails too. Of any other fault it
-- tells nothing, and the output up to the fault is taken for the whole.
import Worksheet.Run.Session

namespace Worksheet

open Text (Bytes)

/-! ## The reads of a stream -/

namespace Drain

/-- How the reading of a stream ends: not at all, with the stream, or with a fault. What is read
after that does not count. -/
def ending (stream : OutputStream) :
    List (OutputStream × Except Fault Bytes) → Option (Option Fault)
  | [] => none
  | (s, result) :: reads =>
    if s ≠ stream then ending stream reads
    else match result with
      | .error fault => some (some fault)
      | .ok [] => some none
      | .ok (_ :: _) => ending stream reads

/-- A read of the stream raised the fault. -/
def Raised (reads : List (OutputStream × Except Fault Bytes)) (stream : OutputStream)
    (fault : Fault) : Prop :=
  ending stream reads = some (some fault)

/-- What the reader of a stream has to tell when its reading has ended so. -/
def readerOf : Option (Option Fault) → Reader
  | none => .reading
  | some none => .done none
  | some (some fault) => .stoppedBy fault

@[simp]
theorem reader_setReader (d : Drain) (r : Reader) (stream : OutputStream) :
    (d.setReader r stream).reader stream = r := by
  cases stream <;> rfl

theorem reader_setReader_of_ne (d : Drain) (r : Reader) {s stream : OutputStream}
    (h : s ≠ stream) : (d.setReader r s).reader stream = d.reader stream := by
  cases s <;> cases stream <;> first | rfl | exact absurd rfl h

theorem reader_read_of_ne (d : Drain) (result : Except Fault Bytes) {s stream : OutputStream}
    (h : s ≠ stream) : (d.read s result).reader stream = d.reader stream := by
  unfold read
  split
  · rfl
  · exact reader_setReader_of_ne _ _ h
  · exact reader_setReader_of_ne _ _ h
  · rfl

theorem reader_read_of_done (d : Drain) (s : OutputStream) (result : Except Fault Bytes)
    {stream : OutputStream} {fault : Option Fault} (hdone : d.reader stream = .done fault) :
    (d.read s result).reader stream = .done fault := by
  by_cases hs : s = stream
  · subst hs
    unfold read
    rw [hdone]
    exact hdone
  · rw [reader_read_of_ne d result hs, hdone]

theorem reader_foldl_of_done (reads : List (OutputStream × Except Fault Bytes)) (d : Drain)
    {stream : OutputStream} {fault : Option Fault} (hdone : d.reader stream = .done fault) :
    (reads.foldl (fun d r => d.read r.1 r.2) d).reader stream = .done fault := by
  induction reads generalizing d with
  | nil => exact hdone
  | cons r reads ih => exact ih _ (reader_read_of_done d r.1 r.2 hdone)

/-- The readers are where the reads have brought them, each one by the reads of its stream. -/
theorem reader_foldl (reads : List (OutputStream × Except Fault Bytes)) (d : Drain)
    (stream : OutputStream) (hopen : d.reader stream = .reading) :
    (reads.foldl (fun d r => d.read r.1 r.2) d).reader stream =
      readerOf (ending stream reads) := by
  induction reads generalizing d with
  | nil => exact hopen
  | cons r reads ih =>
    obtain ⟨s, result⟩ := r
    by_cases hs : s = stream
    · subst hs
      rw [List.foldl_cons]
      cases result with
      | error fault =>
        have hstop : (d.read s (.error fault)).reader s = .stoppedBy fault := by
          simp [read, hopen]
        obtain ⟨told, htold⟩ : ∃ told, Reader.stoppedBy fault = .done told := by
          unfold Reader.stoppedBy
          split <;> exact ⟨_, rfl⟩
        rw [reader_foldl_of_done reads _ (hstop.trans htold), ← htold]
        simp [ending, readerOf]
      | ok bytes =>
        cases bytes with
        | nil =>
          have hend : (d.read s (.ok [])).reader s = .done none := by simp [read, hopen]
          rw [reader_foldl_of_done reads _ hend]
          simp [ending, readerOf]
        | cons b bytes =>
          have hstill : (d.read s (.ok (b :: bytes))).reader s = .reading := by
            simp only [read, hopen]
            exact hopen
          rw [ih _ hstill]
          simp [ending]
    · rw [List.foldl_cons, ih _ (by rw [reader_read_of_ne d result hs, hopen])]
      simp [ending, hs]

theorem reader_after (reads : List (OutputStream × Except Fault Bytes)) (stream : OutputStream) :
    (after reads).reader stream = readerOf (ending stream reads) :=
  reader_foldl reads start stream (by cases stream <;> rfl)

theorem fault?_stoppedBy (fault : Fault) :
    (Reader.stoppedBy fault).fault? =
      if fault.isSystemFault || fault.isValueFault then some fault else none := by
  unfold Reader.stoppedBy
  split <;> rfl

/-- A reader tells of a fault exactly when a read has raised it and it is of the right kind. -/
theorem fault?_reader_after_eq_some_iff (reads : List (OutputStream × Except Fault Bytes))
    (stream : OutputStream) (fault : Fault) :
    ((after reads).reader stream).fault? = some fault ↔
      Raised reads stream fault ∧ (fault.isSystemFault || fault.isValueFault) = true := by
  rw [reader_after, Raised]
  cases hend : ending stream reads with
  | none => simp [readerOf, Reader.fault?]
  | some last =>
    cases last with
    | none => simp [readerOf, Reader.fault?]
    | some raised =>
      rw [readerOf, fault?_stoppedBy]
      constructor
      · intro h
        split at h
        · cases h
          exact ⟨rfl, ‹_›⟩
        · cases h
      · rintro ⟨h, hkind⟩
        cases h
        exact if_pos hkind

theorem fault?_eq_none_iff (d : Drain) :
    d.fault? = none ↔ ∀ stream, (d.reader stream).fault? = none := by
  unfold fault?
  constructor
  · intro h stream
    split at h
    · cases h
    · cases h
    · cases stream <;> assumption
  · intro h
    have hout := h .stdout
    have herr := h .stderr
    simp only [reader] at hout herr
    rw [hout, herr]

/-- Nothing is told when no read has raised a fault of the right kind. -/
theorem fault?_after_eq_none_iff (reads : List (OutputStream × Except Fault Bytes)) :
    (after reads).fault? = none ↔ ∀ stream fault, Raised reads stream fault →
      fault.isSystemFault = false ∧ fault.isValueFault = false := by
  rw [fault?_eq_none_iff]
  constructor
  · intro hnone stream fault hraised
    have htold := fault?_reader_after_eq_some_iff reads stream fault
    rw [hnone stream] at htold
    simpa [hraised] using htold
  · intro hkinds stream
    refine Option.eq_none_iff_forall_ne_some.mpr fun fault htold => ?_
    rw [fault?_reader_after_eq_some_iff] at htold
    obtain ⟨hraised, hkind⟩ := htold
    simp [hkinds stream fault hraised] at hkind

theorem reader_of_fault? {d : Drain} {stream : OutputStream} {fault : Fault}
    (h : d.fault? = some (stream, fault)) : (d.reader stream).fault? = some fault := by
  unfold fault? at h
  split at h
  · cases h
    assumption
  · cases h
    assumption
  · cases h

end Drain

/-! ## The verdict -/

namespace Session

variable {σ : Type}

theorem verdict_eq_ok_iff (command encoding : String) (waited : Except Fault Int) (d : Drain)
    (r : RunResult) :
    verdict command encoding waited d = .ok r ↔
      waited = .ok r.exitCode ∧ 0 ≤ r.exitCode ∧ decode encoding d.output = .ok r.output ∧
        d.fault? = none := by
  unfold verdict
  cases waited with
  | error fault =>
    simp only [reduceCtorEq, false_and, iff_false]
    split <;> exact fun h => nomatch h
  | ok code =>
    cases hfault : d.fault? with
    | some found => simp
    | none =>
      simp only [Except.ok.injEq, and_true]
      by_cases hcode : code < 0
      · simp only [hcode, ↓reduceIte, reduceCtorEq, false_iff]
        rintro ⟨rfl, hpos, -⟩
        omega
      · rw [if_neg hcode]
        cases hd : decode encoding d.output with
        | error fault => simp [Except.map]
        | ok text =>
          simp only [Except.map, Except.ok.injEq]
          constructor
          · rintro rfl
            exact ⟨rfl, Int.not_lt.mp hcode, rfl⟩
          · rintro ⟨rfl, -, rfl⟩
            rfl

theorem run_eq_verdict (ops : ChildOps σ) (p : Patience) (command encoding : String)
    (wait : σ → Except Fault Int × σ) (s : σ) :
    (run ops p command encoding wait s).1 =
      verdict command encoding (wait s).1 (ops.drain (run ops p command encoding wait s).2) := rfl

variable {ops : ChildOps σ} {p : Patience} {command encoding : String}
  {wait : σ → Except Fault Int × σ} {s : σ} {reads : List (OutputStream × Except Fault Bytes)}

/-- For any reads of the two streams and any ending of the program. A run has a result exactly when
the program has exited, its output can be decoded, and no read has raised a failure of the system
or a wrong value; reads that have raised any other fault do not count. A read that counts fails the
run, with the message of such a read. -/
theorem only_system_faults_and_wrong_values_of_a_read_fail_the_run
    (hreads : ops.drain (run ops p command encoding wait s).2 = Drain.after reads) :
    (∀ r, (run ops p command encoding wait s).1 = .ok r ↔
      (wait s).1 = .ok r.exitCode ∧ 0 ≤ r.exitCode ∧
        decode encoding (Drain.after reads).output = .ok r.output ∧
        ∀ stream fault, Drain.Raised reads stream fault →
          fault.isSystemFault = false ∧ fault.isValueFault = false) ∧
    (∀ code, (wait s).1 = .ok code →
      ∀ stream fault, Drain.Raised reads stream fault →
        (fault.isSystemFault || fault.isValueFault) = true →
        ∃ first cause, Drain.Raised reads first cause ∧
          (run ops p command encoding wait s).1 =
            .error (.execution (.reading first cause.message))) := by
  rw [run_eq_verdict, hreads]
  constructor
  · intro r
    rw [verdict_eq_ok_iff, Drain.fault?_after_eq_none_iff]
  · intro code hcode stream fault hraised hkind
    have htold := (Drain.fault?_reader_after_eq_some_iff reads stream fault).mpr ⟨hraised, hkind⟩
    cases hfault : (Drain.after reads).fault? with
    | none =>
      rw [Drain.fault?_eq_none_iff] at hfault
      rw [hfault stream] at htold
      cases htold
    | some found =>
      obtain ⟨first, cause⟩ := found
      have hcause := (Drain.fault?_reader_after_eq_some_iff reads first cause).mp
        (Drain.reader_of_fault? hfault)
      refine ⟨first, cause, hcause.1, ?_⟩
      simp [verdict, hcode, hfault]

/-- A program that has ended, and whose streams have been read. -/
def ended : ChildOps Drain := ⟨id, id, fun _ _ d => d, fun _ d => d, id⟩

/-- A read that raises a wrong value fails the run; when both streams come to their end there is a
result. -/
theorem a_wrong_value_fails_a_run_that_has_a_result_without_it :
    (∃ stream cause,
      Drain.Raised [(.stdout, .ok [104]), (.stderr, .error (.value (.stated "closed")))] stream
        cause ∧
      (run ended .usual "rt" "utf-8" (fun d => (.ok 0, d))
        (Drain.after [(.stdout, .ok [104]), (.stderr, .error (.value (.stated "closed")))])).1 =
        .error (.execution (.reading stream cause.message))) ∧
    (run ended .usual "rt" "utf-8" (fun d => (.ok 0, d))
      (Drain.after [(.stdout, .ok []), (.stderr, .ok [])])).1 = .ok ⟨[], 0⟩ := by
  constructor
  · exact (only_system_faults_and_wrong_values_of_a_read_fail_the_run rfl).2 0 rfl .stderr
      (.value (.stated "closed")) rfl rfl
  · refine ((only_system_faults_and_wrong_values_of_a_read_fail_the_run rfl).1 _).mpr
      ⟨rfl, Int.le_refl 0, rfl, fun stream fault hraised => ?_⟩
    cases stream <;> cases hraised

/-- Output is lost without a word when there is no memory for it. -/
theorem a_result_in_spite_of_a_failed_read :
    Drain.Raised [(.stdout, .error (.memory "none left")), (.stderr, .ok [])] .stdout
      (.memory "none left") ∧
    (run ended .usual "rt" "utf-8" (fun d => (.ok 5, d))
      (Drain.after [(.stdout, .error (.memory "none left")), (.stderr, .ok [])])).1 =
      .ok ⟨[], 5⟩ := by
  refine ⟨rfl, ?_⟩
  rfl

end Session

end Worksheet
