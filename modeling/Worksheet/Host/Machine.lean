-- The state of the system: processes, what their descriptors lead to, pipes with and without a
-- name, and the disk with the clock.
import Worksheet.Disk.Tree
import Worksheet.Host.Program

namespace Worksheet.Host

open Text (Bytes Octets)

/-- What a descriptor leads to. A file that has been taken off the disk while it was open is loose.
-/
inductive Target
  | pipeOut (pipe : Nat)
  | pipeIn (pipe : Nat)
  | pipeBoth (pipe : Nat)
  | file (place : Place)
  | device (device : Device)
  | directory
  | loose (number : Nat)
  deriving DecidableEq, Repr

/-- An opened target. Copies of a descriptor share its position. -/
structure OpenFile where
  target : Target
  opening : Opening
  position : Nat
  deriving DecidableEq, Repr

/-- A pipe: what has been written and not yet read, and whether somebody outside of the system
reads it. -/
structure Pipe where
  content : Bytes
  heard : Bool
  deriving DecidableEq, Repr

/-- A process. It is asleep until its wake time, if it has one; one that has ended is kept until
its parent has asked for it. -/
structure Process where
  id : Nat
  parent : Nat
  group : Nat
  directory : Place
  mask : Mode
  limits : List (Resource × Limit)
  descriptors : List (Nat × Nat)
  reactions : List (Nat × Reaction)
  caught : List Nat
  halted : Bool
  wake : Option Int
  program : Program
  ending : Option Ending

structure Machine where
  disk : Disk
  processes : List Process
  files : Array OpenFile
  pipes : Array Pipe
  loose : Array Bytes
  fifos : List (Place × Nat)
  nextProcess : Nat

namespace Machine

/-- The process that takes over the children of one that has ended. -/
def guardian : Nat := 1

def ofDisk (d : Disk) : Machine := ⟨d, [], #[], #[], #[], [], 100⟩

def now (m : Machine) : Int := m.disk.now

def setNow (m : Machine) (time : Int) : Machine := { m with disk := { m.disk with now := time } }

/-! ## Processes -/

def process? (m : Machine) (id : Nat) : Option Process := m.processes.find? fun p => p.id = id

def put (m : Machine) (p : Process) : Machine :=
  { m with processes := m.processes.map fun q => if q.id = p.id then p else q }

def drop (m : Machine) (id : Nat) : Machine :=
  { m with processes := m.processes.filter fun p => p.id ≠ id }

def add (m : Machine) (p : Process) : Machine := { m with processes := m.processes ++ [p] }

/-- The children of a process that has ended go to the guardian, which asks for all of them at
once. -/
def orphan (m : Machine) (id : Nat) : Machine :=
  let processes := m.processes.map fun p => if p.parent = id then { p with parent := guardian } else p
  { m with processes := processes.filter fun p => p.parent ≠ guardian || p.ending.isNone }

/-- A process that has ended holds no descriptors. -/
def finish (m : Machine) (p : Process) (ending : Ending) : Machine :=
  let ended := { p with ending := some ending, descriptors := [], wake := none }
  let m := m.orphan p.id
  if p.parent = guardian then m.drop p.id else m.put ended

/-! ## Descriptors -/

def openFile? (m : Machine) (p : Process) (descriptor : Nat) : Option (Nat × OpenFile) :=
  match p.descriptors.lookup descriptor with
  | none => none
  | some number => m.files[number]?.map fun f => (number, f)

/-- The lowest number that is not in use. -/
def freeDescriptor (p : Process) : Nat :=
  ((List.range (p.descriptors.length + 1)).find? fun n =>
    (p.descriptors.lookup n).isNone).getD p.descriptors.length

def setDescriptor (p : Process) (descriptor number : Nat) : Process :=
  { p with
    descriptors := (descriptor, number) :: p.descriptors.filter fun d => d.1 ≠ descriptor }

def dropDescriptor (p : Process) (descriptor : Nat) : Process :=
  { p with descriptors := p.descriptors.filter fun d => d.1 ≠ descriptor }

/-- Adds an open file, and gives its number. -/
def addFile (m : Machine) (f : OpenFile) : Nat × Machine :=
  (m.files.size, { m with files := m.files.push f })

def addPipe (m : Machine) (heard : Bool) : Nat × Machine :=
  (m.pipes.size, { m with pipes := m.pipes.push ⟨[], heard⟩ })

def setPosition (m : Machine) (number position : Nat) : Machine :=
  { m with files := m.files.modify number fun f => { f with position := position } }

/-- An open file is the given end of a pipe, or both its ends. -/
def isEnd (target : Target) (f : OpenFile) : Bool :=
  f.target == target || (match target, f.target with
    | .pipeIn a, .pipeBoth b => a = b
    | .pipeOut a, .pipeBoth b => a = b
    | _, _ => false)

/-- Some process holds the given end of a pipe. -/
def isHeld (m : Machine) (target : Target) : Bool :=
  m.processes.any fun p => p.descriptors.any fun d =>
    match m.files[d.2]? with
    | some f => isEnd target f
    | none => false

/-- The pipe of a place on the disk. -/
def fifoPipe (m : Machine) (place : Place) : Nat × Machine :=
  match m.fifos.lookup place with
  | some pipe => (pipe, m)
  | none =>
    let (pipe, m) := m.addPipe false
    (pipe, { m with fifos := (place, pipe) :: m.fifos })

def setPipe (m : Machine) (pipe : Nat) (content : Bytes) : Machine :=
  { m with pipes := m.pipes.modify pipe fun p => { p with content := content } }

/-- The reader outside of the system goes away. -/
def stopHearing (m : Machine) (pipe : Nat) : Machine :=
  { m with pipes := m.pipes.modify pipe fun p => { p with heard := false } }

/-! ## Limits -/

/-- The limits that every process starts with. Sizes are in octets. -/
def usualLimits : List (Resource × Limit) :=
  [(.stack, ⟨some 8388608, none⟩), (.core, ⟨some 0, none⟩),
    (.locked, ⟨some 8388608, some 8388608⟩), (.processes, ⟨some 128620, some 128620⟩),
    (.files, ⟨some 20000, some 20000⟩), (.priority, ⟨some 0, some 0⟩)]

def limitOf (p : Process) (resource : Resource) : Limit :=
  (p.limits.lookup resource).getD ⟨none, none⟩

/-- One bound is at most another one; without an end it is the largest. -/
def isWithin : Option Nat → Option Nat → Bool
  | _, none => true
  | none, some _ => false
  | some a, some b => a ≤ b

/-- A limit may be lowered, and be raised no further than is allowed. -/
def checkLimit (old new : Limit) : Except Errno Unit :=
  if !isWithin new.soft new.hard then .error .invalidArgument
  else if !isWithin new.hard old.hard then .error .notPermitted
  else .ok ()

/-! ## Files that come loose -/

def contentAt (d : Disk) (place : Place) : Bytes :=
  match d.node? place with
  | some (.file content _ _ _) => content
  | _ => []

/-- A name of a file is about to be taken off the disk: those who have opened it by that name go on
with another one, or keep its content. -/
def loosen (m : Machine) (place : Place) : Machine :=
  let turn (target : Target) : Array OpenFile := m.files.map fun f =>
    if f.target == .file place then { f with target := target } else f
  if m.files.any fun f => f.target == .file place then
    match (m.disk.placesOf place).find? (· ≠ place) with
    | some other => { m with files := turn (.file other) }
    | none =>
      { m with
        loose := m.loose.push (contentAt m.disk place)
        files := turn (.loose m.loose.size) }
  else m

/-- Where something is after a tree has been moved. -/
def relocate (source target place : Place) : Place :=
  if source.isPrefixOf place then target ++ place.drop source.length else place

/-- A tree has been moved: whoever is in it, or has a file of it open, goes with it. -/
def follow (m : Machine) (source target : Place) : Machine :=
  { m with
    processes := m.processes.map fun p =>
      { p with directory := relocate source target p.directory }
    files := m.files.map fun f => match f.target with
      | .file place => { f with target := .file (relocate source target place) }
      | _ => f
    fifos := m.fifos.map fun (place, pipe) => (relocate source target place, pipe) }

/-! ## Signals -/

def sizeSignal : Nat := 25

def killSignal : Nat := 9

def pipeSignal : Nat := 13

/-- Signals that have no effect unless they are caught. -/
def quietSignals : List Nat := [17, 18, 23, 28]

def haltSignals : List Nat := [19, 20, 21, 22]

def reaction (p : Process) (number : Nat) : Reaction :=
  if number = 9 || number = 19 then .usual else (p.reactions.lookup number).getD .usual

/-- What a signal does to a process. -/
def deliver (m : Machine) (number : Nat) (p : Process) : Machine :=
  if number = 0 || p.ending.isSome then m
  else
    let p := if number = 18 then { p with halted := false } else p
    match reaction p number with
    | .ignored => m.put p
    | .caught => m.put { p with caught := p.caught ++ [number] }
    | .usual =>
      if quietSignals.contains number then m.put p
      else if haltSignals.contains number then m.put { p with halted := true }
      else m.finish p (.killed number)

/-- The processes that a signal is meant for: one by its number, or a group. -/
def isMeant (sender : Process) (target : Int) (p : Process) : Bool :=
  if 0 < target then (p.id : Int) = target
  else if target = 0 then p.group = sender.group
  else if target = -1 then p.id ≠ sender.id
  else (p.group : Int) = -target

def signalAll (m : Machine) (number : Nat) (meant : Process → Bool) : Machine :=
  (m.processes.filter meant).foldl (fun m p =>
    match m.process? p.id with
    | some p => m.deliver number p
    | none => m) m

end Machine

end Worksheet.Host
