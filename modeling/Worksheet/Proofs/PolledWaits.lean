-- The wait for a program, look by look. However time goes by and whatever the program does, no
-- pause is longer than the poll interval or goes beyond the deadline, the stop signal is heeded at
-- the next look, and a finite timeout bounds the number of looks.
import Mathlib.Algebra.Order.Field.Rat
import Mathlib.Data.Rat.Floor
import Mathlib.Tactic.FieldSimp
import Mathlib.Tactic.Linarith
import Mathlib.Tactic.NormNum
import Mathlib.Tactic.Ring
import Worksheet.Run.Wait

namespace Worksheet

/-- Time goes on while a program is waited for, and never back. The stop signal and the exit of the
program come at their moments, if at all, and a pause that elapses is no shorter than it should
be. -/
structure WaitOps.Timed {σ : Type} (ops : WaitOps σ) (time : σ → Rat) (stop : Option Rat)
    (exit : Option (Rat × Int)) : Prop where
  now : ∀ s, time s ≤ (ops.now s).1 ∧ (ops.now s).1 ≤ time (ops.now s).2
  cancelled : ∀ s, ∃ moment, time s ≤ moment ∧ moment ≤ time (ops.cancelled s).2 ∧
    ((ops.cancelled s).1 = true ↔ ∃ t ∈ stop, t ≤ moment)
  exited : ∀ w s code s', ops.pause w s = (.exited code, s') →
    ∃ t, exit = some (t, code) ∧ t ≤ time s'
  elapsed : ∀ w s s', ops.pause w s = (.elapsed, s') → time s + w ≤ time s'

namespace Wait

variable {σ : Type} (ops : WaitOps σ) (deadline : Option Deadline)

/-- So many pauses have elapsed without an exit of the program, and the next look is due. -/
inductive Reaches (s : σ) : Nat → σ → Prop
  | start : Reaches s 0 s
  | pause {n : Nat} {s₁ s₂ s₃ : σ} {w : Rat} : Reaches s n s₁ →
    look ops deadline s₁ = (.pause w, s₂) → ops.pause w s₂ = (.elapsed, s₃) → Reaches s (n + 1) s₃

/-- What a look comes to. -/
inductive Looks (s : σ) : WaitStep × σ → Prop
  | cancel {s₁ : σ} : ops.cancelled s = (true, s₁) → Looks s (.cancel, s₁)
  | expire {d : Deadline} {s₁ s₂ : σ} {now : Rat} : ops.cancelled s = (false, s₁) →
    deadline = some d → ops.now s₁ = (now, s₂) → d.time ≤ now → Looks s (.expire d.timeout, s₂)
  | onward {s₁ : σ} : ops.cancelled s = (false, s₁) → deadline = none →
    Looks s (.pause pollInterval, s₁)
  | within {d : Deadline} {s₁ s₂ : σ} {now : Rat} : ops.cancelled s = (false, s₁) →
    deadline = some d → ops.now s₁ = (now, s₂) → now < d.time →
      Looks s (.pause (min pollInterval (d.time - now)), s₂)

/-- How a wait ends at a look, or in the pause after it. -/
inductive Ends (s : σ) : Except Fault Int → σ → Prop
  | cancelled {s₁ : σ} : ops.cancelled s = (true, s₁) →
    Ends s (.error (.cancelled cancelMessage)) s₁
  | expired {d : Deadline} {s₁ s₂ : σ} {now : Rat} : ops.cancelled s = (false, s₁) →
    deadline = some d → ops.now s₁ = (now, s₂) → d.time ≤ now →
      Ends s (.error (.timeout d.timeout)) s₂
  | exited {w : Rat} {s₁ s₂ : σ} {code : Int} : look ops deadline s = (.pause w, s₁) →
    ops.pause w s₁ = (.exited code, s₂) → Ends s (.ok code) s₂
  | failed {w : Rat} {s₁ s₂ : σ} {fault : Fault} : look ops deadline s = (.pause w, s₁) →
    ops.pause w s₁ = (.failed fault, s₂) → Ends s (.error fault) s₂

variable {ops deadline} {time : σ → Rat} {stop : Option Rat} {exit : Option (Rat × Int)}
  {s s₁ s₂ s₃ : σ} {n : Nat} {w : Rat} {result : Except Fault Int} {d : Deadline}

/-! ## A look -/

theorem pollInterval_pos : 0 < pollInterval := by
  unfold pollInterval
  norm_num

theorem shorter_eq_min (a b : Rat) : shorter a b = min a b := by
  unfold shorter
  split
  · next h => exact (min_eq_left h).symm
  · next h => exact (min_eq_right (le_of_not_ge h)).symm

theorem looks (ops : WaitOps σ) (deadline : Option Deadline) (s : σ) :
    Looks ops deadline s (look ops deadline s) := by
  unfold look
  rcases hseen : ops.cancelled s with ⟨seen, s₁⟩
  cases seen with
  | true => exact .cancel hseen
  | false =>
    cases deadline with
    | none => exact .onward hseen rfl
    | some d =>
      rcases hnow : ops.now s₁ with ⟨now, s₂⟩
      simp only [hnow, step]
      by_cases hover : d.time - now ≤ 0
      · rw [if_pos hover]
        exact .expire hseen rfl hnow (by linarith)
      · rw [if_neg hover, shorter_eq_min]
        exact .within hseen rfl hnow (by linarith)

theorem looks_of_eq {found : WaitStep × σ} (h : look ops deadline s = found) :
    Looks ops deadline s found := h ▸ looks ops deadline s

/-- A look that sees the stop signal does not read the clock. -/
theorem look_of_cancelled (h : ops.cancelled s = (true, s₁)) :
    look ops deadline s = (.cancel, s₁) := by
  unfold look
  rw [h]

/-- A pause is short enough. -/
theorem pause_of_look (h : look ops deadline s = (.pause w, s₁)) :
    0 < w ∧ w ≤ pollInterval ∧
      ∀ d ∈ deadline, (ops.now (ops.cancelled s).2).1 + w ≤ d.time := by
  have hpoll := pollInterval_pos
  cases looks_of_eq h with
  | onward hseen hnone =>
    refine ⟨hpoll, le_refl _, fun d hd => ?_⟩
    rw [hnone] at hd
    cases hd
  | @within d s₀ _ now hseen hd hnow hbefore =>
    refine ⟨lt_min hpoll (by linarith), min_le_left _ _, fun d' hd' => ?_⟩
    obtain rfl : d = d' := Option.some.inj (hd.symm.trans hd')
    have hend := min_le_right pollInterval (d.time - now)
    rw [hseen, hnow]
    linarith

/-! ## Turns -/

theorem turn_of_ends (h : Ends ops deadline s result s₁) :
    turn ops deadline s = (some result, s₁) := by
  unfold turn
  cases h with
  | cancelled hseen => rw [look_of_cancelled hseen]
  | expired hseen hd hnow hover =>
    generalize hlook : look ops deadline s = found
    cases looks_of_eq hlook with
    | cancel hseen' => cases hseen.symm.trans hseen'
    | expire hseen' hd' hnow' =>
      cases hseen.symm.trans hseen'
      cases hd.symm.trans hd'
      cases hnow.symm.trans hnow'
      rfl
    | onward hseen' hnone => cases hd.symm.trans hnone
    | within hseen' hd' hnow' hbefore =>
      cases hseen.symm.trans hseen'
      cases hd.symm.trans hd'
      cases hnow.symm.trans hnow'
      exact absurd hover (not_le_of_gt hbefore)
  | exited hlook hpause => simp only [hlook, hpause]
  | failed hlook hpause => simp only [hlook, hpause]

theorem turn_of_elapsed (hlook : look ops deadline s = (.pause w, s₁))
    (hpause : ops.pause w s₁ = (.elapsed, s₂)) : turn ops deadline s = (none, s₂) := by
  unfold turn
  simp only [hlook, hpause]

/-- The pause after a look ends the wait, or elapses. -/
theorem ends_or_elapses_of_look (hlook : look ops deadline s = (.pause w, s₁)) :
    (∃ result s₂, Ends ops deadline s result s₂) ∨
      ∃ w s₁ s₂, look ops deadline s = (.pause w, s₁) ∧ ops.pause w s₁ = (.elapsed, s₂) := by
  rcases hpause : ops.pause w s₁ with ⟨ending, s₂⟩
  cases ending with
  | exited code => exact .inl ⟨_, _, .exited hlook hpause⟩
  | failed fault => exact .inl ⟨_, _, .failed hlook hpause⟩
  | elapsed => exact .inr ⟨w, s₁, s₂, hlook, hpause⟩

/-- A turn ends the wait, or a pause elapses. -/
theorem ends_or_elapses (ops : WaitOps σ) (deadline : Option Deadline) (s : σ) :
    (∃ result s₂, Ends ops deadline s result s₂) ∨
      ∃ w s₁ s₂, look ops deadline s = (.pause w, s₁) ∧ ops.pause w s₁ = (.elapsed, s₂) := by
  obtain ⟨found, hlook⟩ : ∃ found, look ops deadline s = found := ⟨_, rfl⟩
  cases looks_of_eq hlook with
  | cancel hseen => exact .inl ⟨_, _, .cancelled hseen⟩
  | expire hseen hd hnow hover => exact .inl ⟨_, _, .expired hseen hd hnow hover⟩
  | onward => exact ends_or_elapses_of_look hlook
  | within => exact ends_or_elapses_of_look hlook

/-! ## The loop -/

theorem loop_of_ends (h : Ends ops deadline s result s₁) :
    ops.loop deadline s = some (result, s₁) := by
  rw [WaitOps.loop, turn_of_ends h]

theorem loop_of_reaches (h : Reaches ops deadline s n s₁) :
    ops.loop deadline s = ops.loop deadline s₁ := by
  induction h with
  | start => rfl
  | @pause _ s₁ _ _ _ _ hlook hpause ih =>
    rw [ih, WaitOps.loop.eq_def _ _ s₁, turn_of_elapsed hlook hpause]

/-- A wait can be told from its first pause on. -/
theorem Reaches.after (hlook : look ops deadline s = (.pause w, s₁))
    (hpause : ops.pause w s₁ = (.elapsed, s₂)) (h : Reaches ops deadline s₂ n s₃) :
    Reaches ops deadline s (n + 1) s₃ := by
  induction h with
  | start => exact .pause .start hlook hpause
  | pause _ hlook' hpause' ih => exact .pause ih hlook' hpause'

/-- A result of the loop comes after so many pauses that have elapsed. -/
theorem ends_of_loop (h : ops.loop deadline s = some (result, s₁)) :
    ∃ n s₂, Reaches ops deadline s n s₂ ∧ Ends ops deadline s₂ result s₁ := by
  -- The induction is on the approximations of the loop, each of which makes some more turns.
  refine WaitOps.loop.partial_correctness ops deadline
    (fun s r => ∃ n s₂, Reaches ops deadline s n s₂ ∧ Ends ops deadline s₂ r.1 r.2)
    (fun further ih s r hr => ?_) s _ h
  rcases ends_or_elapses ops deadline s with ⟨result, s₁, hends⟩ | ⟨w, s₁, s₂, hlook, hpause⟩
  · rw [turn_of_ends hends] at hr
    cases hr
    exact ⟨0, s, .start, hends⟩
  · rw [turn_of_elapsed hlook hpause] at hr
    obtain ⟨n, s₃, hreaches, hends⟩ := ih s₂ r hr
    exact ⟨n + 1, s₃, hreaches.after hlook hpause, hends⟩

/-- A loop without a result goes on and on. -/
theorem reaches_of_loop_eq_none (h : ops.loop deadline s = none) (n : Nat) :
    ∃ s₁, Reaches ops deadline s n s₁ := by
  induction n with
  | zero => exact ⟨s, .start⟩
  | succ n ih =>
    obtain ⟨s₁, hreaches⟩ := ih
    rcases ends_or_elapses ops deadline s₁ with ⟨_, _, hends⟩ | ⟨w, s₂, s₃, hlook, hpause⟩
    · rw [loop_of_reaches hreaches, loop_of_ends hends] at h
      cases h
    · exact ⟨s₃, .pause hreaches hlook hpause⟩

/-! ## Time -/

section Timed

variable (h : ops.Timed time stop exit)

include h

theorem le_time_cancelled (s : σ) : time s ≤ time (ops.cancelled s).2 := by
  obtain ⟨moment, hafter, hbefore, -⟩ := h.cancelled s
  exact le_trans hafter hbefore

/-- Each pause takes the clock on by the poll interval, or to the deadline. -/
theorem time_of_reaches (hreaches : Reaches ops (some d) s n s₁) :
    d.time ≤ time s₁ ∨ time s + n * pollInterval ≤ time s₁ := by
  induction hreaches with
  | start => exact .inr (by simp)
  | @pause n s₁ s₂ s₃ w _ hlook hpause ih =>
    have hlater := h.elapsed _ _ _ hpause
    cases looks_of_eq hlook with
    | onward _ hnone => cases hnone
    | @within _ s₀ _ now hseen hd hnow hbefore =>
      cases hd
      have hseenTime := le_time_cancelled h s₁
      have hnowTime := h.now s₀
      rw [hseen] at hseenTime
      rw [hnow] at hnowTime
      dsimp only at hseenTime hnowTime
      rcases min_choice pollInterval (d.time - now) with hmin | hmin
      · right
        rw [hmin] at hlater
        rcases ih with hover | hprogress
        · linarith
        · push_cast
          linarith
      · left
        rw [hmin] at hlater
        linarith

/-- The number of pauses before a deadline. -/
theorem le_of_reaches {reading q : Rat} (hreading : reading ≤ time s) (hd : d.time = reading + q)
    (hreaches : Reaches ops (some d) s n s₁) : n ≤ ⌈q / pollInterval⌉₊ := by
  cases hreaches with
  | start => exact Nat.zero_le _
  | @pause n s₁ s₂ _ w hreaches hlook hpause =>
    have hpoll := pollInterval_pos
    have hbefore : time s₁ < d.time := by
      cases looks_of_eq hlook with
      | onward _ hnone => cases hnone
      | @within _ s₀ _ now hseen hd hnow hbefore =>
        cases hd
        have hseenTime := le_time_cancelled h s₁
        have hnowTime := (h.now s₀).1
        rw [hseen] at hseenTime
        rw [hnow] at hnowTime
        dsimp only at hseenTime hnowTime
        linarith
    have hprogress : n * pollInterval < q := by
      rcases time_of_reaches h hreaches with hover | hprogress
      · linarith
      · linarith
    have hlt : (n : Rat) < q / pollInterval := (lt_div_iff₀ hpoll).mpr hprogress
    exact Nat.lt_ceil.mpr hlt

end Timed

/-! ## Waits -/

/-- The deadline of a finite timeout is counted from the reading of the clock. -/
theorem limit_of_toRat? {x : Double} {q : Rat} (hq : x.toRat? = some q) (s : σ) :
    limit ops (some x) s = (some ⟨x, (ops.now s).1 + q⟩, (ops.now s).2) := by
  unfold limit Deadline.after
  simp only [hq]

section Run

variable {timeout : Option Double} (hlimit : limit ops timeout s = (deadline, s₁))

include hlimit

theorem run_of_ends (hreaches : Reaches ops deadline s₁ n s₂)
    (hends : Ends ops deadline s₂ result s₃) : run ops timeout s = (result, s₃) := by
  unfold run
  simp only [hlimit, loop_of_reaches hreaches, loop_of_ends hends, Option.getD_some]

/-- A wait has an end, or goes on and on. -/
theorem run_cases :
    (∃ n s₂ result s₃, Reaches ops deadline s₁ n s₂ ∧ Ends ops deadline s₂ result s₃ ∧
      run ops timeout s = (result, s₃)) ∨
    (∀ n, ∃ s₂, Reaches ops deadline s₁ n s₂) ∧
      run ops timeout s = (.error (.execution .endless), s₁) := by
  cases hloop : ops.loop deadline s₁ with
  | none =>
    refine .inr ⟨reaches_of_loop_eq_none hloop, ?_⟩
    unfold run
    simp only [hlimit, hloop, Option.getD_none]
  | some r =>
    obtain ⟨n, s₂, hreaches, hends⟩ := ends_of_loop hloop
    exact .inl ⟨n, s₂, _, _, hreaches, hends, run_of_ends hlimit hreaches hends⟩

end Run

/-- For any clock that does not go back, any moment of the stop signal and any program. A pause is
longer than nothing, no longer than the poll interval, and ends by the deadline if the clock is as
it was read. A wait ends at a look that sees the stop signal, at one that sees the deadline come and
no stop signal, or in a pause in which the program exits or the pause fails; else it goes on and on.
It has an exit code only if the program has exited with it. A look that is due after the stop
signal has come is the last one, whatever the clock says. A finite timeout allows so many pauses as
there are poll intervals in it. -/
theorem a_wait_keeps_to_its_deadline_and_heeds_the_stop_signal
    (h : ops.Timed time stop exit) (timeout : Option Double) (s : σ)
    (hlimit : limit ops timeout s = (deadline, s₁)) :
    (∀ s₂ w s₃, look ops deadline s₂ = (.pause w, s₃) → 0 < w ∧ w ≤ pollInterval ∧
      ∀ d ∈ deadline, (ops.now (ops.cancelled s₂).2).1 + w ≤ d.time) ∧
    ((∃ n s₂ result s₃, Reaches ops deadline s₁ n s₂ ∧ Ends ops deadline s₂ result s₃ ∧
        run ops timeout s = (result, s₃)) ∨
      (∀ n, ∃ s₂, Reaches ops deadline s₁ n s₂) ∧
        run ops timeout s = (.error (.execution .endless), s₁)) ∧
    (∀ code s₂, run ops timeout s = (.ok code, s₂) → ∃ t, exit = some (t, code) ∧ t ≤ time s₂) ∧
    (∀ n s₂ s₃, Reaches ops deadline s₁ n s₂ → ops.cancelled s₂ = (true, s₃) →
      run ops timeout s = (.error (.cancelled cancelMessage), s₃) ∧ ∃ t ∈ stop, t ≤ time s₃) ∧
    (∀ n s₂, Reaches ops deadline s₁ n s₂ → (∃ t ∈ stop, t ≤ time s₂) →
      ∃ s₃, look ops deadline s₂ = (.cancel, s₃) ∧
        run ops timeout s = (.error (.cancelled cancelMessage), s₃)) ∧
    (∀ x q, timeout = some x → x.toRat? = some q → ∃ n s₂ result s₃, n ≤ ⌈q / pollInterval⌉₊ ∧
      Reaches ops deadline s₁ n s₂ ∧ Ends ops deadline s₂ result s₃ ∧
        run ops timeout s = (result, s₃)) := by
  have hcancelled : ∀ {n s₂ s₃}, Reaches ops deadline s₁ n s₂ → ops.cancelled s₂ = (true, s₃) →
      run ops timeout s = (.error (.cancelled cancelMessage), s₃) := fun hreaches hseen =>
    run_of_ends hlimit hreaches (.cancelled hseen)
  refine ⟨fun s₂ w s₃ hlook => pause_of_look hlook, run_cases hlimit, ?_, ?_, ?_, ?_⟩
  · intro code s₂ hrun
    rcases run_cases hlimit with ⟨n, s₂, result, s₃, -, hends, hrun'⟩ | ⟨-, hrun'⟩
    · cases hrun.symm.trans hrun'
      cases hends with
      | exited _ hpause => exact h.exited _ _ _ _ hpause
    · cases hrun.symm.trans hrun'
  · intro n s₂ s₃ hreaches hseen
    refine ⟨hcancelled hreaches hseen, ?_⟩
    obtain ⟨moment, -, hbefore, hiff⟩ := h.cancelled s₂
    rw [hseen] at hbefore hiff
    obtain ⟨t, ht, hle⟩ := hiff.mp rfl
    exact ⟨t, ht, le_trans hle hbefore⟩
  · rintro n s₂ hreaches ⟨t, ht, hle⟩
    obtain ⟨moment, hafter, -, hiff⟩ := h.cancelled s₂
    have hseen : ops.cancelled s₂ = (true, (ops.cancelled s₂).2) :=
      Prod.ext (hiff.mpr ⟨t, ht, le_trans hle hafter⟩) rfl
    exact ⟨_, look_of_cancelled hseen, hcancelled hreaches hseen⟩
  · rintro x q rfl hq
    rw [limit_of_toRat? hq] at hlimit
    cases hlimit
    have hbound : ∀ {n s₂}, Reaches ops (some ⟨x, (ops.now s).1 + q⟩) (ops.now s).2 n s₂ →
        n ≤ ⌈q / pollInterval⌉₊ := le_of_reaches h (h.now s).2 rfl
    rcases run_cases (limit_of_toRat? hq s) with
      ⟨n, s₂, result, s₃, hreaches, hends, hrun⟩ | ⟨hall, -⟩
    · exact ⟨n, s₂, result, s₃, hbound hreaches, hreaches, hends, hrun⟩
    · obtain ⟨s₂, hreaches⟩ := hall (⌈q / pollInterval⌉₊ + 1)
      exact absurd (hbound hreaches) (by omega)

/-- A world in which each reading of the clock, and each look at the stop signal, takes a
millisecond. Its state is the time. -/
def steady (stop : Option Rat) (exit : Option (Rat × Int)) : WaitOps Rat where
  now t := (t, t + 1 / 1000)
  cancelled t := (stop.any (· ≤ t), t + 1 / 1000)
  pause w t :=
    match exit with
    | none => (.elapsed, t + w)
    | some (moment, code) => if moment ≤ t + w then (.exited code, t + w) else (.elapsed, t + w)

theorem timed_steady (stop : Option Rat) (exit : Option (Rat × Int)) :
    (steady stop exit).Timed id stop exit := by
  refine ⟨fun t => ⟨le_refl t, ?_⟩, fun t => ⟨t, le_refl t, ?_, ?_⟩, ?_, ?_⟩
  · simp [steady]
  · simp [steady]
  · simp [steady, Option.any_eq_true]
  · intro w t code t' hpause
    cases exit with
    | none => cases hpause
    | some e =>
      obtain ⟨moment, code'⟩ := e
      simp only [steady] at hpause
      split at hpause
      · next hmoment =>
        cases hpause
        exact ⟨moment, rfl, hmoment⟩
      · cases hpause
  · intro w t t' hpause
    cases exit with
    | none =>
      cases hpause
      exact le_refl _
    | some e =>
      simp only [steady] at hpause
      split at hpause
      · cases hpause
      · cases hpause
        exact le_refl _

/-- An eighth of a second. -/
def eighth : Double := .finite false (2 ^ 52) (-55) (by decide +kernel)

theorem toRat?_eighth : eighth.toRat? = some (1 / 8) := by decide +kernel

/-- A program that does not exit is waited for in three pauses at most, and then no longer. -/
theorem a_program_that_does_not_exit_is_given_up :
    ∃ n t t', n ≤ 3 ∧
      Reaches (steady none none) (some ⟨eighth, 0 + 1 / 8⟩) (0 + 1 / 1000) n t ∧
      run (steady none none) (some eighth) 0 = (.error (.timeout eighth), t') := by
  obtain ⟨-, -, -, -, -, hfinite⟩ := a_wait_keeps_to_its_deadline_and_heeds_the_stop_signal
    (timed_steady none none) (some eighth) 0 (limit_of_toRat? toRat?_eighth 0)
  obtain ⟨n, t, result, t', hn, hreaches, hends, hrun⟩ := hfinite eighth (1 / 8) rfl toRat?_eighth
  have hceil : ⌈(1 / 8 : Rat) / pollInterval⌉₊ = 3 := by
    unfold pollInterval
    rw [Nat.ceil_eq_iff (by decide)]
    norm_num
  refine ⟨n, t, t', by omega, hreaches, ?_⟩
  rw [hrun]
  cases hends with
  | cancelled hseen => cases hseen
  | expired _ hd => cases hd; rfl
  | exited _ hpause => cases hpause
  | failed _ hpause => cases hpause

end Wait

end Worksheet
