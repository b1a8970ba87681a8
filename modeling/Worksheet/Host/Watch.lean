-- A program that is watched from outside of the system: while it runs its output streams are
-- drained, and it can be waited for and killed.
import Worksheet.Host.Spawn
import Worksheet.Run.Session
import Worksheet.Run.Wait

namespace Worksheet.Host

/-- A watched program, the time at which the stop signal comes, and a stream whose first read is
going to fail. Its ending is kept once it has been asked for. -/
structure Watch where
  machine : Machine
  started : Started
  drain : Drain
  ending : Option Ending
  cancelAt : Option Int
  broken : Option (OutputStream × Fault)

namespace Watch

def now (w : Watch) : Int := w.machine.now

/-! ## Turns -/

def pipeOf (w : Watch) : OutputStream → Nat
  | .stdout => w.started.stdout
  | .stderr => w.started.stderr

def chunkSize : Nat := 65536

/-- What a read of a stream gives; nothing while there is nothing to read. -/
def readStream (w : Watch) (stream : OutputStream) : Option (Except Fault Text.Bytes × Machine) :=
  let pipe := w.pipeOf stream
  let content := (w.machine.pipes[pipe]?.map (·.content)).getD []
  if content.isEmpty then
    if w.machine.isHeld (.pipeIn pipe) then none else some (.ok [], w.machine)
  else
    let chunk := content.take chunkSize
    some (.ok chunk, (w.machine.setPipe pipe (content.drop chunkSize)).spend chunk.length)

/-- One step of the reader of a stream. The flag says whether there was one. -/
def pump (stream : OutputStream) (w : Watch) : Bool × Watch :=
  if !(w.drain.reader stream).isReading then (false, w)
  else
    let failing := match w.broken with
      | some (s, fault) => if s = stream then some fault else none
      | none => none
    match failing with
    | some fault => (true, { w with drain := w.drain.read stream (.error fault) })
    | none =>
      match w.readStream stream with
      | none => (false, w)
      | some (r, m) => (true, { w with machine := m, drain := w.drain.read stream r })

/-- One turn of the system, and of the two readers. -/
def turn (w : Watch) : Bool × Watch :=
  let (moved, m) := w.machine.turn
  let (first, w) := pump .stdout { w with machine := m }
  let (second, w) := pump .stderr w
  (moved || first || second, w)

/-- When nothing moves, time goes on to the next event. -/
def skipTo (w : Watch) (limit : Int) : Watch :=
  let time := min limit (w.machine.nextWake.getD limit)
  { w with machine := w.machine.setNow (max w.now time) }

def advanceAfter (limit : Int) (done : Watch → Bool) : Nat → Watch → Watch
  | 0, w => w
  | n + 1, w =>
    if done w || limit ≤ w.now then w
    else
      let (moved, w) := w.turn
      advanceAfter limit done n (if moved then w else w.skipTo limit)

/-- Goes on until something has come about, or up to a time. Each turn takes its time, so that
their number is bounded. -/
def advance (limit : Int) (done : Watch → Bool) (w : Watch) : Watch :=
  advanceAfter limit done ((limit - w.now) / Machine.turnTime + 1).toNat w

/-! ## Waiting and killing -/

def nanoseconds (seconds : Rat) : Int := (seconds * 1000000000).ceil

def process? (w : Watch) : Option Process := w.machine.process? w.started.process

def hasEnded (w : Watch) : Bool :=
  match w.process? with
  | some p => p.ending.isSome
  | none => true

/-- Takes note of the ending, and lets the process go. -/
def collect (w : Watch) : Watch :=
  match w.process? with
  | some p =>
    match p.ending with
    | some ending =>
      { w with ending := some ending, machine := w.machine.drop p.id }
    | none => w
  | none => w

/-- An exit code, or the number of the signal below zero. -/
def exitCode : Ending → Int
  | .exited code => code
  | .killed signal => -(signal : Int)

def pause (seconds : Rat) (w : Watch) : PauseEnd × Watch :=
  let w := (w.advance (w.now + nanoseconds seconds) hasEnded).collect
  match w.ending with
  | some ending => (.exited (exitCode ending), w)
  | none => (.elapsed, w)

def killGroup (w : Watch) : Watch :=
  { w with machine := w.machine.signalAll Machine.killSignal fun p => p.group = w.started.process }

def killAlone (w : Watch) : Watch :=
  { w with machine := w.machine.signalAll Machine.killSignal fun p => p.id = w.started.process }

def join (stream : OutputStream) (seconds : Rat) (w : Watch) : Watch :=
  w.advance (w.now + nanoseconds seconds) fun w => !(w.drain.reader stream).isReading

def close (stream : OutputStream) (w : Watch) : Watch :=
  { w with machine := w.machine.stopHearing (w.pipeOf stream) }

def waitOps : WaitOps Watch where
  now w := (mkRat w.now 1000000000, w)
  cancelled w := (w.cancelAt.any fun time => time ≤ w.now, w)
  pause := pause

def childOps : ChildOps Watch where
  killGroup := killGroup
  reap := collect
  join := join
  close := close
  drain w := w.drain

end Watch

end Worksheet.Host
