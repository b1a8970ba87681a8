-- How evaluations end. The rules say which outcome an evaluation has, for any behaviour of its
-- stages and any moment at which the stop signal comes; every evaluation ends by exactly one of
-- them, whatever fault a stage ends in.
import Worksheet.Evaluate.Evaluator

namespace Worksheet

/-! ## The rules -/

/-- What becomes of a fault that no stage answers for. -/
inductive Unanswered : Fault → Outcome → Prop
  | unwritten (cause : MaterializationCause) :
    Unanswered (.materialization cause) (.executionFailure cause.message .io)
  | unexpected {fault : Fault} : (∀ cause, fault ≠ .materialization cause) →
    Unanswered fault
      (.executionFailure (fault.className ++ ": " ++ fault.message) .internal)

/-- What becomes of a fault of the compiler. Of the faults of the library it answers for one. -/
inductive CompilerFault : Fault → Outcome → Prop
  | invocation (cause : InvocationCause) :
    CompilerFault (.invocation cause) (.executionFailure cause.message .compilerInvocation)
  | other {fault : Fault} {outcome : Outcome} : (∀ cause, fault ≠ .invocation cause) →
    Unanswered fault outcome → CompilerFault fault outcome

/-- What becomes of a fault of the run. -/
inductive RunFault : Fault → Outcome → Prop
  | timeout (seconds : Double) :
    RunFault (.timeout seconds)
      (.executionFailure ("Execution timed out after " ++ seconds.briefText ++ "s") .timeout)
  | cancelled (message : String) :
    RunFault (.cancelled message) (.executionFailure message .cancelled)
  | execution (cause : ExecutionCause) :
    RunFault (.execution cause) (.executionFailure cause.message .execution)
  | other {fault : Fault} {outcome : Outcome} : (∀ seconds, fault ≠ .timeout seconds) →
    (∀ message, fault ≠ .cancelled message) → (∀ cause, fault ≠ .execution cause) →
    Unanswered fault outcome → RunFault fault outcome

/-- How the stages end: with which outcome, and in which state. A stage that a rule does not name
is never begun. -/
inductive Ends {σ : Type} (st : Stages σ) (s : σ) : Outcome → σ → Prop
  | notWritten {fault : Fault} {outcome : Outcome} {s₁ : σ} :
    st.materialize s = (.error fault, s₁) → Unanswered fault outcome → Ends st s outcome s₁
  | cancelledBeforeCompiler {path : Path} {s₁ : σ} :
    st.materialize s = (.ok path, s₁) → st.cancelled s₁ = true →
    Ends st s (.executionFailure "Evaluation cancelled" .cancelled) s₁
  | notCompiled {path : Path} {fault : Fault} {outcome : Outcome} {s₁ s₂ : σ} :
    st.materialize s = (.ok path, s₁) → st.cancelled s₁ = false →
    st.compile path s₁ = (.error fault, s₂) → CompilerFault fault outcome →
    Ends st s outcome s₂
  | refused {path : Path} {report : Report} {s₁ s₂ : σ} :
    st.materialize s = (.ok path, s₁) → st.cancelled s₁ = false →
    st.compile path s₁ = (.ok report, s₂) → (∃ d ∈ report.diagnostics, d.severity = .error) →
    Ends st s (.compileFailure report) s₂
  | cancelledBeforeRun {path : Path} {report : Report} {s₁ s₂ : σ} :
    st.materialize s = (.ok path, s₁) → st.cancelled s₁ = false →
    st.compile path s₁ = (.ok report, s₂) → (∀ d ∈ report.diagnostics, d.severity ≠ .error) →
    st.cancelled s₂ = true →
    Ends st s (.executionFailure "Evaluation cancelled" .cancelled) s₂
  | notRun {path : Path} {report : Report} {fault : Fault} {outcome : Outcome} {s₁ s₂ s₃ : σ} :
    st.materialize s = (.ok path, s₁) → st.cancelled s₁ = false →
    st.compile path s₁ = (.ok report, s₂) → (∀ d ∈ report.diagnostics, d.severity ≠ .error) →
    st.cancelled s₂ = false → st.execute report s₂ = (.error fault, s₃) →
    RunFault fault outcome → Ends st s outcome s₃
  | ran {path : Path} {report : Report} {result : RunResult} {s₁ s₂ s₃ : σ} :
    st.materialize s = (.ok path, s₁) → st.cancelled s₁ = false →
    st.compile path s₁ = (.ok report, s₂) → (∀ d ∈ report.diagnostics, d.severity ≠ .error) →
    st.cancelled s₂ = false → st.execute report s₂ = (.ok result, s₃) →
    Ends st s (.success result.output result.exitCode) s₃

/-- How an evaluation ends. When no lock can be named for it, its stages are never begun. -/
inductive Evaluated {σ : Type} (st : Stages σ) (s : σ) :
    Except Fault LockKey → Outcome → σ → Prop
  | noKey {fault : Fault} {outcome : Outcome} :
    Unanswered fault outcome → Evaluated st s (.error fault) outcome s
  | underLock {key : LockKey} {outcome : Outcome} {s' : σ} :
    Ends st s outcome s' → Evaluated st s (.ok key) outcome s'

/-! ## Faults -/

theorem unanswered_iff (fault : Fault) (outcome : Outcome) :
    Unanswered fault outcome ↔ Stages.conclude (.error fault) = outcome := by
  constructor
  · rintro (cause | hother)
    · rfl
    · cases fault with
      | materialization cause => exact absurd rfl (hother cause)
      | _ => rfl
  · rintro rfl
    cases fault with
    | materialization cause => exact .unwritten cause
    | _ => exact .unexpected (by simp)

theorem compilerFault_iff (fault : Fault) (outcome : Outcome) :
    CompilerFault fault outcome ↔ Stages.conclude (Stages.compileFault fault) = outcome := by
  constructor
  · rintro (cause | ⟨hother, hun⟩)
    · rfl
    · rw [unanswered_iff] at hun
      cases fault with
      | invocation cause => exact absurd rfl (hother cause)
      | _ => exact hun
  · rintro rfl
    cases fault with
    | invocation cause => exact .invocation cause
    | _ => exact .other (by simp) ((unanswered_iff _ _).mpr rfl)

theorem runFault_iff (fault : Fault) (outcome : Outcome) :
    RunFault fault outcome ↔ Stages.conclude (Stages.executeFault fault) = outcome := by
  constructor
  · rintro (seconds | message | cause | ⟨htimeout, hcancelled, hexecution, hun⟩)
    · rfl
    · rfl
    · rfl
    · rw [unanswered_iff] at hun
      cases fault with
      | timeout seconds => exact absurd rfl (htimeout seconds)
      | cancelled message => exact absurd rfl (hcancelled message)
      | execution cause => exact absurd rfl (hexecution cause)
      | _ => exact hun
  · rintro rfl
    cases fault with
    | timeout seconds => exact .timeout seconds
    | cancelled message => exact .cancelled message
    | execution cause => exact .execution cause
    | _ => exact .other (by simp) (by simp) (by simp) ((unanswered_iff _ _).mpr rfl)

/-! ## Stages -/

variable {σ : Type}

theorem hasErrors_iff (report : Report) :
    report.hasErrors = true ↔ ∃ d ∈ report.diagnostics, d.severity = .error := by
  simp [Report.hasErrors]

theorem hasErrors_eq_false_iff (report : Report) :
    report.hasErrors = false ↔ ∀ d ∈ report.diagnostics, d.severity ≠ .error := by
  simp [Report.hasErrors]

/-- The rules hold of what the stages do. -/
theorem ends_run (st : Stages σ) (s : σ) :
    Ends st s (Stages.conclude (st.run s).1) (st.run s).2 := by
  rcases hm : st.materialize s with ⟨fault | path, s₁⟩
  · rw [Stages.run, hm]
    exact .notWritten hm ((unanswered_iff _ _).mpr rfl)
  rcases hc : st.cancelled s₁ with _ | _
  · rcases hr : st.compile path s₁ with ⟨fault | report, s₂⟩
    · simp only [Stages.run, hm, Stages.compileSource, hc, hr, Bool.false_eq_true, if_false]
      exact .notCompiled hm hc hr ((compilerFault_iff _ _).mpr rfl)
    rcases he : report.hasErrors with _ | _
    · have hnone := (hasErrors_eq_false_iff report).mp he
      rcases hc₂ : st.cancelled s₂ with _ | _
      · rcases hx : st.execute report s₂ with ⟨fault | result, s₃⟩
        all_goals
          simp only [Stages.run, hm, Stages.compileSource, hc, hr, Stages.runReport, he, hc₂, hx,
            Bool.false_eq_true, if_false]
        · exact .notRun hm hc hr hnone hc₂ hx ((runFault_iff _ _).mpr rfl)
        · exact .ran hm hc hr hnone hc₂ hx
      · simp only [Stages.run, hm, Stages.compileSource, hc, hr, Stages.runReport, he, hc₂,
          Bool.false_eq_true, if_false, if_true]
        exact .cancelledBeforeRun hm hc hr hnone hc₂
    · simp only [Stages.run, hm, Stages.compileSource, hc, hr, Stages.runReport, he,
        Bool.false_eq_true, if_false, if_true]
      exact .refused hm hc hr ((hasErrors_iff report).mp he)
  · simp only [Stages.run, hm, Stages.compileSource, hc, if_true]
    exact .cancelledBeforeCompiler hm hc

/-- No two rules disagree: what one of them says is what the stages do. -/
theorem run_of_ends {st : Stages σ} {s s' : σ} {outcome : Outcome} (h : Ends st s outcome s') :
    Stages.conclude (st.run s).1 = outcome ∧ (st.run s).2 = s' := by
  cases h with
  | @notWritten fault _ _ hm hun =>
    have hrun : st.run s = (.error fault, s') := by rw [Stages.run, hm]
    rw [hrun]
    exact ⟨(unanswered_iff _ _).mp hun, rfl⟩
  | cancelledBeforeCompiler hm hc =>
    have hrun : st.run s = (.ok Stages.cancellation, s') := by
      simp only [Stages.run, hm, Stages.compileSource, hc, if_true]
    rw [hrun]
    exact ⟨rfl, rfl⟩
  | @notCompiled _ fault _ _ _ hm hc hr hf =>
    have hrun : st.run s = (Stages.compileFault fault, s') := by
      simp only [Stages.run, hm, Stages.compileSource, hc, hr, Bool.false_eq_true, if_false]
    rw [hrun]
    exact ⟨(compilerFault_iff _ _).mp hf, rfl⟩
  | @refused _ report _ _ hm hc hr he =>
    have hsome := (hasErrors_iff report).mpr he
    have hrun : st.run s = (.ok (.compileFailure report), s') := by
      simp only [Stages.run, hm, Stages.compileSource, hc, hr, Stages.runReport, hsome,
        Bool.false_eq_true, if_false, if_true]
    rw [hrun]
    exact ⟨rfl, rfl⟩
  | @cancelledBeforeRun _ report _ _ hm hc hr he hc₂ =>
    have hnone := (hasErrors_eq_false_iff report).mpr he
    have hrun : st.run s = (.ok Stages.cancellation, s') := by
      simp only [Stages.run, hm, Stages.compileSource, hc, hr, Stages.runReport, hnone, hc₂,
        Bool.false_eq_true, if_false, if_true]
    rw [hrun]
    exact ⟨rfl, rfl⟩
  | @notRun _ report fault _ _ _ _ hm hc hr he hc₂ hx hf =>
    have hnone := (hasErrors_eq_false_iff report).mpr he
    have hrun : st.run s = (Stages.executeFault fault, s') := by
      simp only [Stages.run, hm, Stages.compileSource, hc, hr, Stages.runReport, hnone, hc₂, hx,
        Bool.false_eq_true, if_false]
    rw [hrun]
    exact ⟨(runFault_iff _ _).mp hf, rfl⟩
  | @ran _ report result _ _ _ hm hc hr he hc₂ hx =>
    have hnone := (hasErrors_eq_false_iff report).mpr he
    have hrun : st.run s = (.ok (.success result.output result.exitCode), s') := by
      simp only [Stages.run, hm, Stages.compileSource, hc, hr, Stages.runReport, hnone, hc₂, hx,
        Bool.false_eq_true, if_false]
    rw [hrun]
    exact ⟨rfl, rfl⟩

theorem ends_iff (st : Stages σ) (s s' : σ) (outcome : Outcome) :
    Ends st s outcome s' ↔ Stages.conclude (st.run s).1 = outcome ∧ (st.run s).2 = s' := by
  constructor
  · exact run_of_ends
  · rintro ⟨rfl, rfl⟩
    exact ends_run st s

/-! ## Evaluations -/

theorem evaluated_iff (st : Stages σ) (key : Except Fault LockKey) (locks : Locks) (s s' : σ)
    (outcome : Outcome) :
    Evaluated st s key outcome s' ↔
      (st.evaluate key locks s).1 = outcome ∧ (st.evaluate key locks s).2.2 = s' := by
  cases key with
  | error fault =>
    constructor
    · rintro ⟨hun⟩
      exact ⟨(unanswered_iff _ _).mp hun, rfl⟩
    · rintro ⟨rfl, rfl⟩
      exact .noKey ((unanswered_iff _ _).mpr rfl)
  | ok key =>
    constructor
    · rintro (_ | hends)
      exact (ends_iff st s s' outcome).mp hends
    · intro h
      exact .underLock ((ends_iff st s s' outcome).mpr h)

/-- A stop signal that is there before the compiler begins keeps the later stages from having any
part in the evaluation. -/
theorem evaluate_of_cancelled {st : Stages σ} {path : Path} {s s₁ : σ}
    (hm : st.materialize s = (.ok path, s₁)) (hc : st.cancelled s₁ = true)
    (compile : Path → Act σ Report) (execute : Report → Act σ RunResult)
    (key : Except Fault LockKey) (locks : Locks) :
    ({ st with compile := compile, execute := execute } : Stages σ).evaluate key locks s =
      st.evaluate key locks s := by
  have hrun : ({ st with compile := compile, execute := execute } : Stages σ).run s =
      st.run s := by
    simp only [Stages.run, hm, Stages.compileSource, hc, if_true]
  cases key with
  | error fault => rfl
  | ok key => simp only [Stages.evaluate, Locks.guarded, hrun]

/-- Every evaluation has an outcome, and it is the one of the rules: for any key or failure to
find one, any stages, and any way in which the stop signal depends on the state. A stop signal
that is there before the compiler begins keeps it from being called. The evaluations of an
evaluator are of this kind. -/
theorem every_evaluation_ends_by_the_rules (st : Stages σ) (key : Except Fault LockKey)
    (locks : Locks) (s : σ) :
    (∀ outcome s', Evaluated st s key outcome s' ↔
      (st.evaluate key locks s).1 = outcome ∧ (st.evaluate key locks s).2.2 = s') ∧
    (∀ path s₁, st.materialize s = (.ok path, s₁) → st.cancelled s₁ = true →
      ∀ compile execute,
        ({ st with compile := compile, execute := execute } : Stages σ).evaluate key locks s =
          st.evaluate key locks s) ∧
    ∀ (e : Evaluator σ) (r : Request) (outcome : Outcome) (s' : σ),
      Evaluated (e.stages r) s (e.lockKey r (e.getDisk s)) outcome s' ↔
        (e.evaluate r locks s).1 = outcome ∧ (e.evaluate r locks s).2.2 = s' := by
  refine ⟨fun outcome s' => evaluated_iff st key locks s s' outcome, ?_, ?_⟩
  · intro path s₁ hm hc compile execute
    exact evaluate_of_cancelled hm hc compile execute key locks
  · intro e r outcome s'
    exact evaluated_iff (e.stages r) _ locks s s' outcome

end Worksheet
