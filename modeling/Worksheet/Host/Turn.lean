-- The work of the system: answers to calls, the start of programs, and turns in which each process
-- takes one step.
import Worksheet.Host.Machine
import Worksheet.Host.Shell.Start
import Worksheet.Host.Tools.Catalogue

namespace Worksheet.Host

open Text (Bytes Octets)

namespace Machine

/-! ## Programs of files -/

def shellNames : List String := ["sh", "dash"]

/-- The names of all programs that the system comes with. -/
def programNames : List String := shellNames ++ Tools.names

def toolProgram (name : String) (arguments : List Octets) (e : Environment) : Option Program :=
  if shellNames.contains name then some (Shell.program arguments e)
  else (Tools.find? name).map fun tool =>
    (tool ⟨arguments.headD [], arguments.drop 1, e⟩).toProgram

/-- The system looks at so many bytes of a file to find its interpreter. -/
def headBytes : Nat := 256

def isBlank (c : Char) : Bool := c = ' ' || c = '\t'

/-- The name of an interpreter, and the argument after it. A character of code zero ends both. -/
def splitInterpreter (line : Octets) : Octets × Option Octets :=
  let zero := Char.ofNat 0
  let name := line.takeWhile fun c => !isBlank c && c ≠ zero
  match line.drop name.length with
  | [] => (name, none)
  | c :: rest =>
    let more := rest.dropWhile isBlank
    if c = zero || more.isEmpty then (name, none) else (name, some (more.takeWhile (· ≠ zero)))

/-- The interpreter that the first line of a script names, with its argument. Behind the end of a
short file that has no line end there are zeros, so that its name may be empty. A name that the
system cannot see the end of counts as none. -/
def interpreter? (content : Bytes) : Option (Octets × Option Octets) :=
  match Octets.ofBytes (content.take headBytes) with
  | '#' :: '!' :: rest =>
    if rest.contains '\n' then
      let line := (rest.takeWhile (· ≠ '\n')).reverse.dropWhile isBlank
      let line := line.reverse.dropWhile isBlank
      if line.isEmpty then none else some (splitInterpreter line)
    else
      let seen := (rest ++ List.replicate headBytes (Char.ofNat 0)).take (headBytes - 3)
      let line := seen.dropWhile isBlank
      if !line.any fun c => isBlank c || c = Char.ofNat 0 then none
      else some (splitInterpreter (line.reverse.dropWhile isBlank).reverse)
  | _ => none

/-- The program of a file. A script is run by its interpreter, which may be a script again. -/
def load (d : Disk) (directory : Place) (e : Environment) :
    Nat → Octets → List Octets → Except Errno Program
  | 0, _, _ => .error .tooManyLinks
  | n + 1, path, arguments =>
    match d.statFrom directory path with
    | .error errno => .error errno
    | .ok (_, .tool name) =>
      match toolProgram name arguments e with
      | some p => .ok p
      | none => .error .notExecutable
    | .ok (_, .file content mode _ _) =>
      if !mode.allows .run then .error .accessDenied
      else match interpreter? content with
        | none => .error .notExecutable
        | some (interpreter, argument) =>
          if interpreter.isEmpty then .error .accessDenied
          else load d directory e n interpreter
            (interpreter :: argument.toList ++ path :: arguments.drop 1)
    | .ok _ => .error .accessDenied

/-- Words of a command line may be this long in all, and each one a sixteenth of it. -/
def maxArgumentBytes : Nat := 2097152

def fits (arguments : List Octets) : Bool :=
  arguments.all (fun a => a.length < maxArgumentBytes / 16) &&
    total (arguments.map fun a => a.length + 9) < maxArgumentBytes

/-- How many files a start may go through: scripts, and the program at the end. -/
def interpreterDepth : Nat := 6

def loadChecked (d : Disk) (directory : Place) (path : Octets) (arguments : List Octets)
    (e : Environment) : Except Errno Program :=
  match load d directory e interpreterDepth path arguments with
  | .error errno => .error errno
  | .ok p => if fits arguments then .ok p else .error .argumentsTooLong

/-! ## Files -/

def pipeCapacity : Nat := 65536

/-- Up to this size a text goes into a pipe as a whole. -/
def pipeUnit : Nat := 4096

/-- What a read gives; nothing while there is nothing to read yet. -/
def readFrom (m : Machine) (p : Process) (descriptor count : Nat) :
    Option (Except Errno Octets × Machine) :=
  match m.openFile? p descriptor with
  | none => some (.error .badDescriptor, m)
  | some (number, f) =>
    let fromPipe (pipe : Nat) : Option (Except Errno Octets × Machine) :=
      let content := (m.pipes[pipe]?.map (·.content)).getD []
      if count = 0 then some (.ok [], m)
      else if content.isEmpty then
        if m.isHeld (.pipeIn pipe) then none else some (.ok [], m)
      else
        some (.ok (Octets.ofBytes (content.take count)), m.setPipe pipe (content.drop count))
    let fromContent (content : Bytes) : Option (Except Errno Octets × Machine) :=
      let text := (content.drop f.position).take count
      some (.ok (Octets.ofBytes text), m.setPosition number (f.position + text.length))
    match f.target, f.opening with
    | .pipeOut pipe, _ => fromPipe pipe
    | .pipeBoth pipe, _ => fromPipe pipe
    | .pipeIn _, _ => some (.error .badDescriptor, m)
    | .directory, _ => some (.error .isDirectory, m)
    | .device .null, _ => some (.ok [], m)
    | .device _, _ => some (.ok (List.replicate count (Char.ofNat 0)), m)
    | .file _, .fresh => some (.error .badDescriptor, m)
    | .file _, .append => some (.error .badDescriptor, m)
    | .loose _, .fresh => some (.error .badDescriptor, m)
    | .loose _, .append => some (.error .badDescriptor, m)
    | .file place, _ => fromContent (contentAt m.disk place)
    | .loose k, _ => fromContent (m.loose.getD k [])

/-- A content with bytes written over it from a position on. A gap is filled with zeros. -/
def overwrite (content : Bytes) (start : Nat) (bytes : Bytes) : Bytes :=
  content.take start ++ List.replicate (start - content.length) 0 ++ bytes ++
    content.drop (start + bytes.length)

/-- What a write does. Nothing is answered while a pipe is full; a pipe that nobody reads gives
a signal, and so does a file that may not grow. -/
def writeTo (m : Machine) (p : Process) (descriptor : Nat) (data : Octets) :
    Option (Except Errno Nat × Machine) :=
  match m.openFile? p descriptor with
  | none => some (.error .badDescriptor, m)
  | some (number, f) =>
    let intoPipe (pipe : Nat) : Option (Except Errno Nat × Machine) :=
      let here := m.pipes[pipe]?.getD ⟨[], false⟩
      if !here.heard && !m.isHeld (.pipeOut pipe) then
        some (.error .brokenPipe, m.deliver pipeSignal p)
      else
        let room := pipeCapacity - here.content.length
        if room = 0 || data.length ≤ pipeUnit && room < data.length then none
        else
          let bytes := Octets.toBytes (data.take room)
          some (.ok bytes.length, m.setPipe pipe (here.content ++ bytes))
    let intoContent (content : Bytes) (keep : Bytes → Machine → Machine) :
        Option (Except Errno Nat × Machine) :=
      let start := if f.opening = .append then content.length else f.position
      let room := match (limitOf p .fileSize).soft with
        | some limit => min data.length (limit - start)
        | none => data.length
      if room = 0 then some (.error .fileTooLarge, m.deliver sizeSignal p)
      else
        let bytes := Octets.toBytes (data.take room)
        some (.ok bytes.length,
          (keep (overwrite content start bytes) m).setPosition number (start + bytes.length))
    match f.target, f.opening with
    | .pipeIn pipe, _ => intoPipe pipe
    | .pipeBoth pipe, _ => intoPipe pipe
    | .pipeOut _, _ => some (.error .badDescriptor, m)
    | .directory, _ => some (.error .isDirectory, m)
    | .device .full, _ => some (.error .noSpace, m)
    | .device _, _ => some (.ok data.length, m)
    | .file _, .read => some (.error .badDescriptor, m)
    | .loose _, .read => some (.error .badDescriptor, m)
    | .file place, _ =>
      match m.disk.node? place with
      | some (.file content mode _ group) => intoContent content fun content m =>
          { m with disk := m.disk.put place (.file content mode m.disk.changeTime group) }
      | _ => some (.ok data.length, m)
    | .loose k, _ => intoContent (m.loose.getD k []) fun content m =>
        { m with loose := m.loose.setIfInBounds k content }

/-- What is opened at a place where the path of a process has led. -/
def targetAt (d : Disk) (place : Place) : Except Errno Target :=
  match d.node? place with
  | some (.file ..) => .ok (.file place)
  | some (.tool _) => .ok (.file place)
  | some (.device device) => .ok (.device device)
  | some (.directory ..) => .ok .directory
  | _ => .error .ioFailure

/-- What a path leads to is opened to be read. -/
def openReading (m : Machine) (p : Process) (path : Octets) : Except Errno (OpenFile × Disk) :=
  match m.disk.openToRead p.directory path with
  | .error e => .error e
  | .ok (place, _) => (targetAt m.disk place).map fun target => (⟨target, .read, 0⟩, m.disk)

/-- What a path leads to is opened to be written, and perhaps read as well. -/
def openWriting (m : Machine) (p : Process) (path : Octets) (opening : Opening) :
    Except Errno (OpenFile × Disk) :=
  match m.disk.openToWrite p.directory p.mask (opening = .fresh) path with
  | .error e => .error e
  | .ok (place, d) =>
    if opening = .both && (m.disk.node? place).any fun n => !n.allows .read then
      .error .accessDenied
    else (targetAt d place).map fun target => (⟨target, opening, 0⟩, d)

/-- The end of a pipe that suits an opening. -/
def pipeEnd (pipe : Nat) : Opening → Target
  | .read => .pipeOut pipe
  | .both => .pipeBoth pipe
  | _ => .pipeIn pipe

/-- What a descriptor leads to is opened anew. -/
def openAgain (m : Machine) (p : Process) (descriptor : Nat) (opening : Opening) :
    Except Errno (OpenFile × Machine) :=
  match m.openFile? p descriptor with
  | none => .error .noEntry
  | some (_, f) =>
    match f.target with
    | .pipeIn pipe => .ok (⟨pipeEnd pipe opening, .both, 0⟩, m)
    | .pipeOut pipe => .ok (⟨pipeEnd pipe opening, .both, 0⟩, m)
    | .pipeBoth pipe => .ok (⟨pipeEnd pipe opening, .both, 0⟩, m)
    | .directory => if opening = .read then .ok (⟨.directory, .read, 0⟩, m) else .error .isDirectory
    | .device device => .ok (⟨.device device, opening, 0⟩, m)
    | .loose k =>
      .ok (⟨.loose k, opening, 0⟩,
        if opening = .fresh then { m with loose := m.loose.setIfInBounds k [] } else m)
    | .file place =>
      let opened := if opening = .read then m.openReading p place.octets
        else m.openWriting p place.octets opening
      opened.map fun (f, d) => (f, { m with disk := d })

/-- The descriptor that a path stands for. -/
def descriptorAt? (m : Machine) (p : Process) (path : Octets) : Option Nat :=
  match m.disk.statFrom p.directory path with
  | .ok (_, .opened descriptor) => some descriptor
  | _ => none

def openPath (m : Machine) (p : Process) (path : Octets) (opening : Opening) :
    Except Errno (OpenFile × Machine) :=
  match m.descriptorAt? p path with
  | some descriptor => m.openAgain p descriptor opening
  | none =>
    let opened := if opening = .read then m.openReading p path else m.openWriting p path opening
    opened.map fun (f, d) => (f, { m with disk := d })

/-- The place of a pipe with a name. -/
def fifoAt? (m : Machine) (p : Process) (path : Octets) : Option Place :=
  match m.disk.statFrom p.directory path with
  | .ok (place, .fifo ..) => some place
  | _ => none

/-- A pipe with a name may be opened. -/
def mayOpen (d : Disk) (place : Place) (opening : Opening) : Bool :=
  (d.node? place).any fun n =>
    (opening = .fresh || opening = .append || n.allows .read) && (opening = .read || n.allows .write)

/-- A process waits to open one end of a pipe with a name. -/
def awaitsEnd (m : Machine) (place : Place) (reading : Bool) (p : Process) : Bool :=
  match p.program with
  | .call (.opened path opening) _ =>
    m.fifoAt? p path = some place && opening ≠ .both && (opening = .read) = reading
  | _ => false

/-- Opens a pipe with a name, as soon as somebody holds its other end or waits to open it. -/
def openFifo (m : Machine) (p : Process) (place : Place) (opening : Opening) :
    Option (OpenFile × Machine) :=
  let (pipe, m) := m.fifoPipe place
  let (own, other) : Target × Target := match opening with
    | .read => (.pipeOut pipe, .pipeIn pipe)
    | .both => (.pipeBoth pipe, .pipeBoth pipe)
    | _ => (.pipeIn pipe, .pipeOut pipe)
  let met := opening = .both || m.isHeld other || m.processes.any fun q =>
    q.id ≠ p.id && m.awaitsEnd place (opening ≠ .read) q
  if met then some (⟨own, .both, 0⟩, m) else none

/-- The kind of what stands at a place. -/
def kindOf : Node → FileKind
  | .directory .. => .directory
  | .file content mode _ _ => .regular (mode.allows .run) content.length
  | .tool _ => .regular true 1
  | .device _ => .device
  | .link .. => .link
  | .fifo .. => .fifo
  | .opened _ => .link

/-- The kind of what a descriptor leads to. -/
def kindBehind (m : Machine) (p : Process) (descriptor : Nat) : Except Errno FileKind :=
  match m.openFile? p descriptor with
  | none => .error .noEntry
  | some (_, f) =>
    match f.target with
    | .file place => ((m.disk.node? place).map kindOf).elim (.error .noEntry) .ok
    | .loose k => .ok (.regular false (m.loose.getD k []).length)
    | .device _ => .ok .device
    | .directory => .ok .directory
    | _ => .ok .fifo

/-- The kind of what a path leads to. -/
def kindAt (m : Machine) (p : Process) (path : Octets) : Except Errno FileKind :=
  match m.disk.statFrom p.directory path with
  | .error e => .error e
  | .ok (_, .opened descriptor) => m.kindBehind p descriptor
  | .ok (_, n) => .ok (kindOf n)

/-- What a descriptor is shown to lead to. -/
def behindText (m : Machine) (p : Process) (descriptor : Nat) : Except Errno Octets :=
  match m.openFile? p descriptor with
  | none => .error .noEntry
  | some (_, f) =>
    .ok (match f.target with
      | .file place => place.octets
      | .device .null => Octets.ofString "/dev/null"
      | .device .zero => Octets.ofString "/dev/zero"
      | .device .full => Octets.ofString "/dev/full"
      | .pipeIn pipe => Octets.ofString ("pipe:[" ++ toString pipe ++ "]")
      | .pipeOut pipe => Octets.ofString ("pipe:[" ++ toString pipe ++ "]")
      | .pipeBoth pipe => Octets.ofString ("pipe:[" ++ toString pipe ++ "]")
      | .directory => ['/']
      | .loose _ => Octets.ofString "(deleted)")

/-- The text of a link. -/
def linkText (m : Machine) (p : Process) (path : Octets) : Except Errno Octets :=
  match m.disk.statWith false p.directory path with
  | .error e => .error e
  | .ok (_, .link target _) => .ok target
  | .ok (_, .opened descriptor) => m.behindText p descriptor
  | .ok _ => .error .invalidArgument

/-- The names in a directory. Descriptors that are not open have none. -/
def namesAt (m : Machine) (p : Process) (path : Octets) : Except Errno (List Octets) :=
  match m.disk.openToRead p.directory path with
  | .error e => .error e
  | .ok (_, .directory _ _ entries) =>
    .ok ((entries.filter fun e => match e.2 with
      | .opened descriptor => (m.openFile? p descriptor).isSome
      | _ => true).map (·.1))
  | .ok _ => .error .notDirectory

/-- The system with another disk, if there is one. -/
def changed (m : Machine) : Except Errno Disk → Except Errno Unit × Machine
  | .ok d => (.ok (), { m with disk := d })
  | .error e => (.error e, m)

/-- Gives a path the present time, and makes a file if there is nothing. -/
def touch (m : Machine) (p : Process) (path : Octets) : Except Errno Disk :=
  match m.disk.statFrom p.directory path with
  | .ok (place, n) => .ok (m.disk.put place (n.withTime m.disk.changeTime))
  | .error .noEntry => (m.disk.openToWrite p.directory p.mask false path).map (·.2)
  | .error e => .error e

def remove (m : Machine) (p : Process) (path : Octets) : Except Errno Unit × Machine :=
  match m.disk.remove p.directory path with
  | .error e => (.error e, m)
  | .ok (place, d) => (.ok (), { m.loosen place with disk := d })

def rename (m : Machine) (p : Process) (source target : Octets) : Except Errno Unit × Machine :=
  match m.disk.rename p.directory source target with
  | .error e => (.error e, m)
  | .ok (a, b, d) =>
    if a = b then (.ok (), m) else (.ok (), { (m.loosen b).follow a b with disk := d })

/-- A process goes to a directory that it may pass. -/
def enter (m : Machine) (p : Process) (path : Octets) : Except Errno Unit × Machine :=
  match m.disk.statFrom p.directory path with
  | .error e => (.error e, m)
  | .ok (place, n) =>
    if !n.isDirectory then (.error .notDirectory, m)
    else if !n.allows .run then (.error .accessDenied, m)
    else (.ok (), m.put { p with directory := place })

/-! ## Time -/

/-- The time that it takes to move one octet, in nanoseconds. -/
def octetTime : Int := 50

def spend (count : Nat) (m : Machine) : Machine := m.setNow (m.now + octetTime * count)

/-- A move of data takes its time. -/
def timed {α : Type} (size : α → Nat) :
    Option (Except Errno α × Machine) → Option (Except Errno α × Machine)
  | some (.ok a, m) => some (.ok a, m.spend (size a))
  | r => r

/-! ## Answers -/

/-- What a call gives to a process, with the process and the system after it. Nothing is given
while the process has to wait. -/
def answer (m : Machine) (p : Process) : (c : Call) → Option (c.Answer × Machine)
  | .pause => some ((), m)
  | .read descriptor count => timed List.length (m.readFrom p descriptor count)
  | .rewind descriptor count =>
    match m.openFile? p descriptor with
    | some (number, f) =>
      match f.target with
      | .file _ => some (true, m.setPosition number (f.position - count))
      | .loose _ => some (true, m.setPosition number (f.position - count))
      | _ => some (false, m)
    | none => some (false, m)
  | .write descriptor data =>
    if data.isEmpty then some (.ok 0, m) else timed id (m.writeTo p descriptor data)
  | .opened path opening =>
    let give (f : OpenFile) (m : Machine) : Except Errno Nat × Machine :=
      let (number, m) := m.addFile f
      let descriptor := freeDescriptor p
      (.ok descriptor, m.put (setDescriptor p descriptor number))
    match m.fifoAt? p path with
    | some place =>
      if mayOpen m.disk place opening then
        (m.openFifo p place opening).map fun (f, m) => give f m
      else some (.error .accessDenied, m)
    | none =>
      match m.openPath p path opening with
      | .error e => some (.error e, m)
      | .ok (f, m) => some (give f m)
  | .close descriptor => some ((), m.put (dropDescriptor p descriptor))
  | .duplicate source target =>
    match p.descriptors.lookup source with
    | none => some (.error .badDescriptor, m)
    | some number => some (.ok (), m.put (setDescriptor p target number))
  | .pipe =>
    let (pipe, m) := m.addPipe false
    let (reading, m) := m.addFile ⟨.pipeOut pipe, .both, 0⟩
    let (writing, m) := m.addFile ⟨.pipeIn pipe, .both, 0⟩
    let first := freeDescriptor p
    let p := setDescriptor p first reading
    let second := freeDescriptor p
    some ((first, second), m.put (setDescriptor p second writing))
  | .wait process patient =>
    match m.process? process with
    | none => some (.error .noChild, m)
    | some q =>
      if q.parent ≠ p.id then some (.error .noChild, m)
      else match q.ending with
        | none => if patient || p.caught.isEmpty then none else some (.error .interrupted, m)
        | some ending => some (.ok ending, m.drop process)
  | .poll process =>
    match m.process? process with
    | none => some (none, m)
    | some q =>
      if q.parent ≠ p.id then some (none, m)
      else match q.ending with
        | none => some (none, m)
        | some ending => some (some ending, m.drop process)
  | .sleep duration =>
    match p.wake with
    | some time => if time ≤ m.now then some ((), m.put { p with wake := none }) else none
    | none => if duration ≤ 0 then some ((), m) else none
  | .clock => some (m.now, m)
  | .signal target number =>
    if 64 < number then some (.error .invalidArgument, m)
    else if m.processes.any (isMeant p target) then
      some (.ok (), m.signalAll number (isMeant p target))
    else some (.error .noProcess, m)
  | .react number reaction =>
    some ((), m.put { p with
      reactions := (number, reaction) :: p.reactions.filter fun r => r.1 ≠ number })
  | .caught =>
    match p.caught with
    | [] => some (none, m)
    | number :: rest => some (some number, m.put { p with caught := rest })
  | .reaction number => some (reaction p number, m)
  | .identity => some (p.id, m)
  | .parent => some (p.parent, m)
  | .newSession =>
    if p.group = p.id then some (.error .notPermitted, m)
    else some (.ok (), m.put { p with group := p.id })
  | .enter path => some (m.enter p path)
  | .whereabouts => some (p.directory.octets, m)
  | .examine path => some (m.kindAt p path, m)
  | .inspect path =>
    some ((m.disk.statWith false p.directory path).map fun found => kindOf found.2, m)
  | .modified follow path =>
    some ((m.disk.statWith follow p.directory path).map fun found => found.2.modified, m)
  | .resolve path => some ((m.disk.locateWith true p.directory path).map Place.octets, m)
  | .list path => some (m.namesAt p path, m)
  | .makeDirectory path => some (m.changed (m.disk.makeDirectory p.directory p.mask path))
  | .makeLink target path => some (m.changed (m.disk.makeLink p.directory target path))
  | .readLink path => some (m.linkText p path, m)
  | .addName source path => some (m.changed (m.disk.addName p.directory source path))
  | .names follow path =>
    some ((m.disk.statWith follow p.directory path).map fun found =>
      (m.disk.placesOf found.1).map Place.octets, m)
  | .makeFifo path =>
    let node : Node := .fifo (Mode.ofFile.without p.mask) m.disk.changeTime
    some (m.changed (m.disk.makeNode p.directory path node))
  | .remove path => some (m.remove p path)
  | .removeDirectory path => some (m.changed (m.disk.removeDirectory p.directory path))
  | .rename source target => some (m.rename p source target)
  | .touch path => some (m.changed (m.touch p path))
  | .stamp follow path time =>
    some (m.changed (m.disk.changeAt follow p.directory path
      (Node.withTime (time.getD m.disk.changeTime))))
  | .mode follow path =>
    some ((m.disk.statWith follow p.directory path).map fun found => found.2.mode, m)
  | .setMode path mode =>
    some (m.changed (m.disk.changeAt true p.directory path (Node.withMode mode)))
  | .mask => some (p.mask, m)
  | .setMask mask => some ((), m.put { p with mask := mask })
  | .limit resource => some (limitOf p resource, m)
  | .setLimit resource limit =>
    some (match checkLimit (limitOf p resource) limit with
      | .error e => (.error e, m)
      | .ok () => (.ok (), m.put { p with
          limits := (resource, limit) :: p.limits.filter fun l => l.1 ≠ resource }))
  | .isOpen descriptor => some ((p.descriptors.lookup descriptor).isSome, m)
  | .fileOf descriptor =>
    some (match m.openFile? p descriptor with
      | some (_, ⟨.file place, _, _⟩) => some place.octets
      | _ => none, m)

/-! ## Steps -/

/-- A process as it goes on with another program. -/
def continueWith (m : Machine) (id : Nat) (program : Program) : Machine :=
  match m.process? id with
  | some p => if p.ending.isSome then m else m.put { p with program := program }
  | none => m

/-- The first look at a sleep sets the time at which it ends. -/
def fallAsleep (m : Machine) (p : Process) (c : Call) : Machine :=
  match c, p.wake with
  | .sleep duration, none => m.put { p with wake := some (m.now + duration) }
  | _, _ => m

/-- A copy of a process. -/
def child (m : Machine) (p : Process) (program : Program) : Process :=
  { p with id := m.nextProcess, parent := p.id, caught := [], wake := none, program := program }

/-- A process that becomes another program keeps its own descriptors, except those that are set
aside, and catches nothing. -/
def renewed (p : Process) (program : Program) : Process :=
  { p with
    program := program
    descriptors := p.descriptors.filter fun d => d.1 < Shell.firstSpare
    reactions := p.reactions.filter fun r => r.2 ≠ .caught }

/-- The time that it takes to load a program, in nanoseconds. -/
def loadTime : Int := 600000

/-- One step of a process; nothing when it has to wait. -/
def step (m : Machine) (p : Process) : Option Machine :=
  match p.program with
  | .ended code => some (m.finish p (.exited (code % 256)))
  | .call c next => (m.answer p c).map fun (a, m) => m.continueWith p.id (next a)
  | .fork program next =>
    let m' := { m with nextProcess := m.nextProcess + 1 }
    some ((m'.add (m.child p program)).continueWith p.id (next m.nextProcess))
  | .exec path arguments environment failed =>
    match loadChecked m.disk p.directory path arguments environment with
    | .error e => some (m.continueWith p.id (failed e))
    | .ok program => some ((m.put (renewed p program)).setNow (m.now + loadTime))

/-- The time that a turn takes, in nanoseconds. -/
def turnTime : Int := 20000

/-- One step of each process that can take one. The flag says whether there was any. -/
def turn (m : Machine) : Bool × Machine :=
  let (moved, m) := (m.processes.map (·.id)).foldl (fun (moved, m) id =>
    match m.process? id with
    | none => (moved, m)
    | some p =>
      if p.ending.isSome || p.halted then (moved, m)
      else match m.step p with
        | some m => (true, m)
        | none =>
          match p.program with
          | .call c _ => (moved, m.fallAsleep p c)
          | _ => (moved, m)) (false, m)
  (moved, m.setNow (m.now + turnTime))

/-- The time at which the next sleeper wakes. -/
def nextWake (m : Machine) : Option Int :=
  (m.processes.filterMap fun p => if p.halted then none else p.wake).min?

end Machine

end Worksheet.Host
