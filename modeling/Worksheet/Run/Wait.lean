-- The wait for a program. It is made of short pauses; before each one the stop signal and then
-- the deadline are looked at. Times are in seconds.
import Worksheet.Fault

namespace Worksheet

/-- A timeout, and the time at which it is over. -/
structure Deadline where
  timeout : Double
  time : Rat
  deriving DecidableEq

namespace Deadline

/-- The deadline of a wait that begins now. A timeout that is no number, or is without end,
sets none; one without end on the other side is over at once. -/
def after (now : Rat) (timeout : Double) : Option Deadline :=
  match timeout.toRat? with
  | some seconds => some ⟨timeout, now + seconds⟩
  | none => if timeout.isNegative then some ⟨timeout, now⟩ else none

end Deadline

/-- What a look at the stop signal and the clock decides. -/
inductive WaitStep
  | cancel
  | expire (timeout : Double)
  | pause (seconds : Rat)
  deriving DecidableEq

/-- How a pause ends. -/
inductive PauseEnd
  | exited (code : Int)
  | elapsed
  | failed (fault : Fault)
  deriving DecidableEq

/-- What a wait looks at, and how it pauses until the program exits or the time is over. All of
this takes its time. -/
structure WaitOps (σ : Type) where
  now : σ → Rat × σ
  cancelled : σ → Bool × σ
  pause : Rat → σ → PauseEnd × σ

namespace Wait

/-- The longest pause. -/
def pollInterval : Rat := 1 / 20

def cancelMessage : String := "Evaluation cancelled"

/-- The shorter of two pauses. -/
def shorter (a b : Rat) : Rat := if a ≤ b then a else b

/-- What the clock decides. No pause goes beyond the deadline. -/
def step (d : Deadline) (now : Rat) : WaitStep :=
  if d.time - now ≤ 0 then .expire d.timeout
  else .pause (shorter pollInterval (d.time - now))

variable {σ : Type}

/-- The deadline of a wait. The clock is read if there is a timeout. -/
def limit (ops : WaitOps σ) (timeout : Option Double) (s : σ) : Option Deadline × σ :=
  match timeout with
  | none => (none, s)
  | some seconds =>
    let (now, s) := ops.now s
    (Deadline.after now seconds, s)

/-- A look at the stop signal, which goes first, and at the clock if there is a deadline. -/
def look (ops : WaitOps σ) (deadline : Option Deadline) (s : σ) : WaitStep × σ :=
  match ops.cancelled s with
  | (true, s) => (.cancel, s)
  | (false, s) =>
    match deadline with
    | none => (.pause pollInterval, s)
    | some d =>
      let (now, s) := ops.now s
      (step d now, s)

/-- A look, and the pause after it. They end the wait, or it goes on. -/
def turn (ops : WaitOps σ) (deadline : Option Deadline) (s : σ) :
    Option (Except Fault Int) × σ :=
  match look ops deadline s with
  | (.cancel, s) => (some (.error (.cancelled cancelMessage)), s)
  | (.expire timeout, s) => (some (.error (.timeout timeout)), s)
  | (.pause seconds, s) =>
    match ops.pause seconds s with
    | (.exited code, s) => (some (.ok code), s)
    | (.failed fault, s) => (some (.error fault), s)
    | (.elapsed, s) => (none, s)

end Wait

/-- Turn after turn, until the wait is over. One that never is has no result. -/
def WaitOps.loop {σ : Type} (ops : WaitOps σ) (deadline : Option Deadline) (s : σ) :
    Option (Except Fault Int × σ) :=
  match Wait.turn ops deadline s with
  | (some result, s) => some (result, s)
  | (none, s) => ops |>.loop deadline s
partial_fixpoint

/-- Waits for the exit code of a program. -/
def Wait.run {σ : Type} (ops : WaitOps σ) (timeout : Option Double) (s : σ) :
    Except Fault Int × σ :=
  let (deadline, s) := Wait.limit ops timeout s
  (ops.loop deadline s).getD (.error (.execution .endless), s)

end Worksheet
