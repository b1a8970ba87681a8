-- The two readers of a program's output at work at the same time. A reader takes a chunk from its
-- stream and then hands it on to the drain; the other reader can come in between, and the steps of
-- both come in any order.
import Mathlib.Logic.Function.Basic
import Mathlib.Logic.Relation
import Worksheet.Run.Session

namespace Worksheet

open Text (Bytes)

/-- What is left of each stream for its reader, the chunk that a reader has taken and not handed on
yet, and what has come to the drain, in the order of its arrival. -/
structure Readers where
  left : OutputStream → Bytes
  inHand : OutputStream → Option Bytes
  reads : List (OutputStream × Except Fault Bytes)

namespace Readers

/-- The readers of streams of which nothing has been read. -/
def start (streams : OutputStream → Bytes) : Readers := ⟨streams, fun _ => none, []⟩

def drain (r : Readers) : Drain := .after r.reads

def isReading (r : Readers) (stream : OutputStream) : Bool := (r.drain.reader stream).isReading

/-- A reader takes a chunk, and leaves the rest. -/
def take (r : Readers) (stream : OutputStream) (chunk rest : Bytes) : Readers :=
  { r with
    left := Function.update r.left stream rest
    inHand := Function.update r.inHand stream (some chunk) }

/-- What a read has given comes to the drain. -/
def arrive (r : Readers) (stream : OutputStream) (result : Except Fault Bytes) : Readers :=
  { r with
    inHand := Function.update r.inHand stream none
    reads := r.reads ++ [(stream, result)] }

/-- One step of the reader of a stream, which goes on until it is done. -/
inductive Step (r : Readers) : Readers → Prop
  /-- Any number of the next bytes can make a chunk. -/
  | take (stream : OutputStream) (chunk rest : Bytes) : r.isReading stream →
    r.inHand stream = none → chunk ≠ [] → r.left stream = chunk ++ rest →
    Step r (r.take stream chunk rest)
  | handOn (stream : OutputStream) (chunk : Bytes) : r.isReading stream →
    r.inHand stream = some chunk → Step r (r.arrive stream (.ok chunk))
  /-- The end of a stream comes after all of its bytes. -/
  | finish (stream : OutputStream) : r.isReading stream → r.inHand stream = none →
    r.left stream = [] → Step r (r.arrive stream (.ok []))
  /-- A fault can come at any time; a chunk in hand is lost with it. -/
  | fail (stream : OutputStream) (fault : Fault) : r.isReading stream →
    Step r (r.arrive stream (.error fault))

/-- Any number of steps, of both readers. -/
abbrev Steps : Readers → Readers → Prop := Relation.ReflTransGen Step

variable (r : Readers) (stream : OutputStream)

@[simp]
theorem drain_take (chunk rest : Bytes) : (r.take stream chunk rest).drain = r.drain := rfl

@[simp]
theorem left_take_self (chunk rest : Bytes) : (r.take stream chunk rest).left stream = rest := by
  simp [take]

@[simp]
theorem inHand_take_self (chunk rest : Bytes) :
    (r.take stream chunk rest).inHand stream = some chunk := by
  simp [take]

@[simp]
theorem inHand_arrive_self (result : Except Fault Bytes) :
    (r.arrive stream result).inHand stream = none := by
  simp [arrive]

variable {stream} {s : OutputStream}

@[simp]
theorem left_take_of_ne (h : stream ≠ s) (chunk rest : Bytes) :
    (r.take s chunk rest).left stream = r.left stream := by
  simp [take, h]

@[simp]
theorem inHand_take_of_ne (h : stream ≠ s) (chunk rest : Bytes) :
    (r.take s chunk rest).inHand stream = r.inHand stream := by
  simp [take, h]

@[simp]
theorem inHand_arrive_of_ne (h : stream ≠ s) (result : Except Fault Bytes) :
    (r.arrive s result).inHand stream = r.inHand stream := by
  simp [arrive, h]

end Readers

/-- Whatever is done with a program, its readers go on by their steps, and what has come to the
drain is what they have handed on. -/
structure ChildOps.DrainedBy {σ : Type} (ops : ChildOps σ) (readers : σ → Readers) : Prop where
  drain : ∀ s, ops.drain s = (readers s).drain
  killGroup : ∀ s, (readers s).Steps (readers (ops.killGroup s))
  reap : ∀ s, (readers s).Steps (readers (ops.reap s))
  join : ∀ stream patience s, (readers s).Steps (readers (ops.join stream patience s))
  close : ∀ stream s, (readers s).Steps (readers (ops.close stream s))

end Worksheet
