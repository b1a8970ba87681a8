-- The start of a program from outside of the system, with its two output streams in pipes.
import Worksheet.Host.Turn
import Worksheet.Fault

namespace Worksheet.Host

open Text (Octets)

/-- A program that has been started: its process, and the pipes of its output streams. -/
structure Started where
  process : Nat
  stdout : Nat
  stderr : Nat
  deriving DecidableEq, Repr

namespace Machine

/-- The variables that every program is given. -/
def systemEnvironment : Environment :=
  [(Tools.word "PATH", Tools.defaultPath), (Tools.word "HOME", Tools.word "/root"),
    (Tools.word "LANG", Tools.word "C.UTF-8")]

/-- The directory that a program is to run in. -/
def directoryFor (m : Machine) : Option Path → Except Fault Place
  | none => .ok m.disk.current
  | some path =>
    let refused (e : Errno) : Except Fault Place :=
      .error (.system (.failed e ("PosixPath(" ++ Text.quoted path.text ++ ")")))
    match m.disk.stat path.way.octets with
    | .error e => refused e
    | .ok (place, n) =>
      if !n.isDirectory then refused .notDirectory
      else if !n.allows .run then refused .accessDenied
      else .ok place

/-- Errors after which a command is looked for elsewhere. -/
def isPassing (e : Errno) : Bool := e = .noEntry || e = .notDirectory

/-- The program of a command, looked for at some places. The first error that is not a passing
one counts, or else the last. -/
def programAt (m : Machine) (directory : Place) (words : List Octets) :
    Errno → List Octets → Except Errno Program
  | e, [] => .error e
  | e, path :: rest =>
    match loadChecked m.disk directory path words systemEnvironment with
    | .ok p => .ok p
    | .error e' => m.programAt directory words (if isPassing e then e' else e) rest

def hasNul (s : String) : Bool := s.toList.contains (Char.ofNat 0)

/-- Starts a command. It has no input; with its own group it can be killed with all that it has
started. -/
def spawn (m : Machine) (command : List String) (directory : Option Path) (ownGroup : Bool) :
    Except Fault Started × Machine :=
  if command.any hasNul || directory.any fun d => hasNul d.text then (.error (.value .nulByte), m)
  else
    let words := command.map Octets.ofString
    let name := words.headD []
    match m.directoryFor directory with
    | .error fault => (.error fault, m)
    | .ok place =>
      match m.programAt place words .noEntry (Tools.candidates systemEnvironment name) with
      | .error e => (.error (.system (.onPath e (command.headD ""))), m)
      | .ok program =>
        let (stdout, m) := m.addPipe true
        let (stderr, m) := m.addPipe true
        let (input, m) := m.addFile ⟨.device .null, .read, 0⟩
        let (first, m) := m.addFile ⟨.pipeIn stdout, .both, 0⟩
        let (second, m) := m.addFile ⟨.pipeIn stderr, .both, 0⟩
        let id := m.nextProcess
        let p : Process :=
          { id := id, parent := 0, group := if ownGroup then id else 0, directory := place,
            mask := Mode.usualMask, limits := usualLimits,
            descriptors := [(0, input), (1, first), (2, second)], reactions := [], caught := [],
            halted := false, wake := none, program := program, ending := none }
        (.ok ⟨id, stdout, stderr⟩, { m with nextProcess := id + 1 }.add p)

end Machine

end Worksheet.Host
