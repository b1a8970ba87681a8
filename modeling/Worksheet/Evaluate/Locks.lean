-- The locks that keep evaluations of one source file apart. A lock is made by the first evaluation
-- that asks for its key, counts those that hold it or wait for it, and is dropped by the last.
import Worksheet.Disk.Access

namespace Worksheet

/-- A source file: its directory in absolute form, and its name. -/
structure LockKey where
  directory : String
  name : String
  deriving DecidableEq, Repr

namespace LockKey

def ofSource (d : Disk) (source : Path) : Except Fault LockKey :=
  (d.resolve source.parent).map fun directory => ⟨directory.text, source.name⟩

end LockKey

/-- A lock: how many evaluations are registered with it, and which one holds it. -/
structure EntryLock where
  users : Nat
  holder : Option Nat
  deriving DecidableEq, Repr

/-- All locks that were ever made, by number, and the number that each key in use stands for. -/
structure Locks where
  table : List (LockKey × Nat)
  made : List EntryLock
  deriving DecidableEq, Repr

namespace Locks

def empty : Locks := ⟨[], []⟩

def size (l : Locks) : Nat := l.table.length

def change (l : Locks) (number : Nat) (f : EntryLock → EntryLock) : Locks :=
  { l with made := l.made.modify number f }

/-- The lock of a key, made if the key has none, with one more user. -/
def register (l : Locks) (key : LockKey) : Nat × Locks :=
  match l.table.lookup key with
  | some number => (number, l.change number fun e => { e with users := e.users + 1 })
  | none =>
    (l.made.length, ⟨l.table ++ [(key, l.made.length)], l.made ++ [⟨1, none⟩]⟩)

def isFree (l : Locks) (number : Nat) : Bool :=
  match l.made[number]? with
  | some e => e.holder.isNone
  | none => false

/-- Only a free lock is taken. -/
def acquire (l : Locks) (number evaluation : Nat) : Locks :=
  l.change number fun e => { e with holder := some evaluation }

def release (l : Locks) (number : Nat) : Locks :=
  l.change number fun e => { e with holder := none }

def eraseKey (key : LockKey) (table : List (LockKey × Nat)) : List (LockKey × Nat) :=
  table.filter fun entry => entry.1 ≠ key

/-- Takes a user away; with the last one the key goes too. -/
def deregister (l : Locks) (key : LockKey) (number : Nat) : Locks :=
  let l := l.change number fun e => { e with users := e.users - 1 }
  match l.made[number]? with
  | some e => if e.users = 0 then { l with table := eraseKey key l.table } else l
  | none => l

/-- Work done under a lock, when nothing else is at work. -/
def guarded {σ α : Type} (l : Locks) (key : LockKey) (work : σ → α × σ) (s : σ) :
    α × Locks × σ :=
  let (number, l) := l.register key
  let l := l.acquire number 0
  let (a, s) := work s
  (a, (l.release number).deregister key number, s)

end Locks

end Worksheet
