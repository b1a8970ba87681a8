-- Evaluations at work at the same time. Each one finds the key of its lock, registers, waits for
-- the lock, does its work action by action on a state that all share, and leaves; the steps of
-- different evaluations come in any order.
import Worksheet.Evaluate.Locks
import Worksheet.Evaluate.Script

namespace Worksheet

/-- How far an evaluation has come. Its lock is known by number once it has registered. -/
inductive Phase (ε σ α : Type)
  | outside
  | arriving (key : LockKey)
  | waiting (key : LockKey) (lock : Nat)
  | inside (key : LockKey) (lock : Nat) (rest : Script ε σ α)
  | leaving (key : LockKey) (lock : Nat) (result : α)
  | finished (result : Except Fault α)

/-- An evaluation: how it finds its key, and its work under the lock. Work that fails is left in
the same way as work that succeeds. -/
structure Worker (ε σ α : Type) where
  key : σ → Except Fault LockKey
  work : Script ε σ α
  phase : Phase ε σ α

/-- The evaluations, the locks and the state that they share. -/
structure Workplace (ε σ α : Type) where
  workers : List (Worker ε σ α)
  locks : Locks
  shared : σ

namespace Phase

variable {ε σ α : Type}

/-- The key that an evaluation is registered under, and the number of its lock. -/
def registration? : Phase ε σ α → Option (LockKey × Nat)
  | waiting key lock => some (key, lock)
  | inside key lock _ => some (key, lock)
  | leaving key lock _ => some (key, lock)
  | _ => none

/-- The key and the number of the lock that an evaluation holds while it does its work. -/
def holding? : Phase ε σ α → Option (LockKey × Nat)
  | inside key lock _ => some (key, lock)
  | _ => none

def isFinished : Phase ε σ α → Bool
  | finished _ => true
  | _ => false

/-- The label of the next action of the work. -/
def label? : Phase ε σ α → Option ε
  | inside _ _ rest => rest.label?
  | _ => none

end Phase

namespace Workplace

variable {ε σ α : Type}

/-- How many evaluations are registered under a key. -/
def registered (w : Workplace ε σ α) (key : LockKey) : Nat :=
  w.workers.countP fun e => e.phase.registration?.any fun (k, _) => k = key

def registrationAt (w : Workplace ε σ α) (i : Nat) : Option (LockKey × Nat) :=
  w.workers[i]?.bind fun e => e.phase.registration?

def holdingAt (w : Workplace ε σ α) (i : Nat) : Option (LockKey × Nat) :=
  w.workers[i]?.bind fun e => e.phase.holding?

def setPhase (w : Workplace ε σ α) (i : Nat) (phase : Phase ε σ α) : Workplace ε σ α :=
  { w with workers := w.workers.modify i fun e => { e with phase := phase } }

def setLocks (w : Workplace ε σ α) (locks : Locks) : Workplace ε σ α := { w with locks := locks }

def setShared (w : Workplace ε σ α) (s : σ) : Workplace ε σ α := { w with shared := s }

/-- The next step of one evaluation. There is none while its lock is held by another, or when it
has finished. -/
def step? (w : Workplace ε σ α) (i : Nat) : Option (Workplace ε σ α) :=
  match w.workers[i]? with
  | none => none
  | some e =>
    match e.phase with
    | .outside =>
      match e.key w.shared with
      | .error fault => some (w.setPhase i (.finished (.error fault)))
      | .ok key => some (w.setPhase i (.arriving key))
    | .arriving key =>
      let (number, locks) := w.locks.register key
      some ((w.setPhase i (.waiting key number)).setLocks locks)
    | .waiting key number =>
      if w.locks.isFree number then
        some ((w.setPhase i (.inside key number e.work)).setLocks (w.locks.acquire number i))
      else none
    | .inside key number (.done result) =>
      some ((w.setPhase i (.leaving key number result)).setLocks (w.locks.release number))
    | .inside key number (.act _ change next) =>
      some ((w.setPhase i (.inside key number (next w.shared))).setShared (change w.shared))
    | .leaving key number result =>
      some ((w.setPhase i (.finished (.ok result))).setLocks (w.locks.deregister key number))
    | .finished _ => none

/-- Evaluations that have not begun. -/
def start (evaluations : List ((σ → Except Fault LockKey) × Script ε σ α)) (shared : σ) :
    Workplace ε σ α :=
  ⟨evaluations.map fun (key, work) => ⟨key, work, .outside⟩, .empty, shared⟩

/-- Steps in a given order, when every one of them can be taken. -/
def steps? (w : Workplace ε σ α) (order : List Nat) : Option (Workplace ε σ α) :=
  order.foldlM step? w

/-- What any order of steps can lead to, when anything that `drift` allows may happen to the
shared state in between. -/
inductive Reachable (drift : σ → σ → Prop) (first : Workplace ε σ α) : Workplace ε σ α → Prop
  | start : Reachable drift first first
  | step {w w' : Workplace ε σ α} {i : Nat} :
    Reachable drift first w → w.step? i = some w' → Reachable drift first w'
  | drift {w : Workplace ε σ α} {s : σ} :
    Reachable drift first w → drift w.shared s → Reachable drift first (w.setShared s)

end Workplace

end Worksheet
