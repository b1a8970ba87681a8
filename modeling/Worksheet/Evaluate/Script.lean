-- Work cut into actions on a state that others share, so that the actions of others can come in
-- between.
import Worksheet.Fault

namespace Worksheet

/-- Work that is done, or whose next action changes the state. How it goes on depends on the state
that the action finds. A label says what the action is. -/
inductive Script (ε σ α : Type)
  | done (result : α)
  | act (label : ε) (change : σ → σ) (next : σ → Script ε σ α)

namespace Script

variable {ε σ α β : Type}

/-- The work from its start to its end, when nobody else is at work. -/
def run : Script ε σ α → σ → α × σ
  | done result, s => (result, s)
  | act _ change next, s => (next s).run (change s)

/-- One piece of work after another. -/
def bind : Script ε σ α → (α → Script ε σ β) → Script ε σ β
  | done result, f => f result
  | act label change next, f => act label change fun s => (next s).bind f

/-- Work whose result is told in another way. -/
def map (f : α → β) (work : Script ε σ α) : Script ε σ β := work.bind fun result => done (f result)

/-- A single action, and what it answers. -/
def ask (label : ε) (action : σ → α × σ) : Script ε σ α :=
  act label (fun s => (action s).2) fun s => done (action s).1

/-- Work that goes on when no fault has come up. -/
def andThen (work : Script ε σ (Except Fault α)) (f : α → Script ε σ (Except Fault β)) :
    Script ε σ (Except Fault β) :=
  work.bind fun
    | .ok result => f result
    | .error fault => done (.error fault)

/-- The label of the next action. -/
def label? : Script ε σ α → Option ε
  | done _ => none
  | act label _ _ => some label

/-- What work comes to when nobody else is at work but the state may drift before each action: the
label of an action, and the state that the action finds. -/
inductive Meets (drift : σ → σ → Prop) : Script ε σ α → σ → ε → σ → Prop
  | here {label : ε} {change : σ → σ} {next : σ → Script ε σ α} {s s' : σ} :
    drift s s' → Meets drift (act label change next) s label s'
  | later {label label' : ε} {change : σ → σ} {next : σ → Script ε σ α} {s s' t : σ} :
    drift s s' → Meets drift (next s') (change s') label' t →
      Meets drift (act label change next) s label' t

@[simp]
theorem run_done (result : α) (s : σ) : (done result : Script ε σ α).run s = (result, s) := rfl

@[simp]
theorem run_act (label : ε) (change : σ → σ) (next : σ → Script ε σ α) (s : σ) :
    (act label change next).run s = (next s).run (change s) := rfl

@[simp]
theorem run_ask (label : ε) (action : σ → α × σ) (s : σ) :
    (ask label action).run s = action s := rfl

@[simp]
theorem run_bind (work : Script ε σ α) (f : α → Script ε σ β) (s : σ) :
    (work.bind f).run s = (f (work.run s).1).run (work.run s).2 := by
  induction work generalizing s with
  | done result => rfl
  | act label change next ih => exact ih s (change s)

@[simp]
theorem run_map (f : α → β) (work : Script ε σ α) (s : σ) :
    (work.map f).run s = (f (work.run s).1, (work.run s).2) := by
  rw [map, run_bind, run_done]

theorem run_andThen (work : Script ε σ (Except Fault α)) (f : α → Script ε σ (Except Fault β))
    (s : σ) :
    (work.andThen f).run s =
      match work.run s with
      | (.ok result, s') => (f result).run s'
      | (.error fault, s') => (.error fault, s') := by
  rw [andThen, run_bind]
  rcases work.run s with ⟨_ | _, _⟩ <;> rfl

end Script

end Worksheet
