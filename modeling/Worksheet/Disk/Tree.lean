-- The disk: a tree of files with the directory that relative paths start from. Paths are octets, as
-- the system sees them, and every error is found in the order in which the system looks.
import Worksheet.Disk.Errno
import Worksheet.Disk.Node
import Worksheet.Path
import Worksheet.Text.Split

namespace Worksheet

open Text (Bytes Octets)

/-- A disk, with the directory that relative paths start from, the directory for scratch space
and the number of scratch directories made so far, the number of groups of names made so far, and
the present time in nanoseconds. -/
structure Disk where
  root : Node
  current : Place
  scratch : Place
  scratchCount : Nat
  groupCount : Nat
  now : Int

namespace Disk

/-! ## Nodes -/

/-- The steps in which the time of changes goes on, in nanoseconds. -/
def tick : Int := 4000000

/-- The time that a change is marked with. -/
def changeTime (d : Disk) : Int := d.now / tick * tick

def node? (d : Disk) (place : Place) : Option Node := d.root.at? place

/-- Puts a node at a place. A file that has other names is changed under all of them. -/
def put (d : Disk) (place : Place) (node : Node) : Disk :=
  let root := Node.put d.changeTime node place d.root
  { d with root := if node.group = 0 then root else Node.putAll node.group node root }

/-- The places of the file at a place, or the place itself. -/
def placesOf (d : Disk) (place : Place) : List Place :=
  match d.node? place with
  | some n => if n.group = 0 then [place] else d.root.placesOf n.group
  | none => [place]

/-- Takes away a place and all below it. -/
def erase (d : Disk) (place : Place) : Disk := { d with root := Node.erase d.changeTime place d.root }

/-- What stands in a directory. -/
def children (d : Disk) (place : Place) : List (Octets × Node) :=
  (d.node? place).elim [] Node.entries

/-! ## Finding a place -/

def maxNameBytes : Nat := 255

def maxPathBytes : Nat := 4095

def components (raw : Octets) : List Octets := (Text.split '/' raw).filter fun c => !c.isEmpty

def isAbsolute (raw : Octets) : Bool := raw.head? = some '/'

def endsInSlash (raw : Octets) : Bool := raw.getLast? = some '/'

/-- Where a walk comes to: a place, a failure, or a link that is still to be followed. -/
inductive WalkEnd
  | reached (place : Place)
  | failed (errno : Errno)
  | link (directory : Place) (target : Octets) (rest : List Octets)
  deriving DecidableEq, Repr

/-- Walks components up to the first link, from the place whose components are given latest first
and where `here` stands. Each component is looked up in a directory that may be passed; only the
last one may be missing, or be a link that is not followed. -/
def walkToLink (root : Node) (follow : Bool) (back : List Octets) (here : Node) :
    List Octets → WalkEnd
  | [] => .reached back.reverse
  | c :: rest =>
    if !here.isDirectory then .failed .notDirectory
    else if !here.allows .run then .failed .accessDenied
    else if c = ['.'] then walkToLink root follow back here rest
    else if c = ['.', '.'] then
      match root.at? back.tail.reverse with
      | some above => walkToLink root follow back.tail above rest
      | none => .failed .noEntry
    else if maxNameBytes < c.length then .failed .nameTooLong
    else match here.child? c with
      | none => if rest.isEmpty then .reached (c :: back).reverse else .failed .noEntry
      | some (.link target _) =>
        if rest.isEmpty && !follow then .reached (c :: back).reverse
        else .link back.reverse target rest
      | some n => walkToLink root follow (c :: back) n rest

/-- Walks components from a place, over so many links at most. A link whose text ends in a slash
leads to a directory. -/
def walk (root : Node) (follow : Bool) : Nat → Place → List Octets → Except Errno Place
  | 0, _, _ => .error .tooManyLinks
  | n + 1, start, parts =>
    match root.at? start with
    | none => .error .noEntry
    | some here =>
      match walkToLink root follow start.reverse here parts with
      | .reached place => .ok place
      | .failed e => .error e
      | .link directory target rest =>
        let rest := if rest.isEmpty && endsInSlash target then [['.']] else rest
        walk root follow n (if isAbsolute target then [] else directory)
          (components target ++ rest)

def maxLinks : Nat := 40

/-- The place of a path, seen from a directory. A link at its end is followed or not; a path that
ends in a slash has to lead to a directory. -/
def locateWith (d : Disk) (follow : Bool) (directory : Place) (raw : Octets) :
    Except Errno Place :=
  if raw.isEmpty then .error .noEntry
  else if maxPathBytes < raw.length then .error .nameTooLong
  else
    let start := if isAbsolute raw then [] else directory
    match walk d.root (follow || endsInSlash raw) (maxLinks + 1) start (components raw) with
    | .error e => .error e
    | .ok place =>
      if endsInSlash raw then
        match d.node? place with
        | some n => if n.isDirectory then .ok place else .error .notDirectory
        | none => .error .noEntry
      else .ok place

/-- What a path leads to. A link at its end is followed or not. -/
def statWith (d : Disk) (follow : Bool) (directory : Place) (raw : Octets) :
    Except Errno (Place × Node) :=
  match d.locateWith follow directory raw with
  | .error e => .error e
  | .ok place =>
    match d.node? place with
    | some node => .ok (place, node)
    | none => .error .noEntry

def statFrom (d : Disk) (directory : Place) (raw : Octets) : Except Errno (Place × Node) :=
  d.statWith true directory raw

def stat (d : Disk) (raw : Octets) : Except Errno (Place × Node) := d.statFrom d.current raw

def isDirectory (d : Disk) (raw : Octets) : Bool :=
  match d.stat raw with
  | .ok (_, n) => n.isDirectory
  | .error _ => false

def isRegular : Node → Bool
  | .file .. => true
  | .tool _ => true
  | _ => false

/-- The path names a regular file. -/
def isFile (d : Disk) (raw : Octets) : Bool :=
  match d.stat raw with
  | .ok (_, n) => isRegular n
  | .error _ => false

/-! ## Opening -/

/-- Names may come and go in a directory that may be passed and written. -/
def mayChange (d : Disk) (directory : Place) : Except Errno Unit :=
  match d.node? directory with
  | none => .error .noEntry
  | some n =>
    if !n.isDirectory then .error .notDirectory
    else if n.allows .write && n.allows .run then .ok ()
    else .error .accessDenied

/-- What a path leads to, if it may be read. -/
def openToRead (d : Disk) (directory : Place) (raw : Octets) : Except Errno (Place × Node) :=
  match d.statFrom directory raw with
  | .error e => .error e
  | .ok (place, n) => if n.allows .read then .ok (place, n) else .error .accessDenied

/-- The place of a path that is opened to be written, and made if there is nothing. The content of
a file is thrown away if it is to be fresh. -/
def openToWrite (d : Disk) (directory : Place) (mask : Mode) (fresh : Bool) (raw : Octets) :
    Except Errno (Place × Disk) :=
  match d.locateWith true directory (Way.trimSlashes raw) with
  | .error e => .error e
  | .ok place =>
    if endsInSlash raw then .error .isDirectory
    else match d.node? place with
      | none =>
        (d.mayChange place.dropLast).map fun _ =>
          (place, d.put place (.file [] (Mode.ofFile.without mask) d.changeTime 0))
      | some (.directory ..) => .error .isDirectory
      | some (.tool _) => .error .accessDenied
      | some (.file _ mode _ group) =>
        if !mode.allows .write then .error .accessDenied
        else .ok (place, if fresh then d.put place (.file [] mode d.changeTime group) else d)
      | some n => if n.allows .write then .ok (place, d) else .error .accessDenied

/-- The content of a file, with its time of last change. Devices give nothing. -/
def readFile (d : Disk) (raw : Octets) : Except Errno (Bytes × Int) :=
  match d.openToRead d.current raw with
  | .error e => .error e
  | .ok (_, .file content _ modified _) => .ok (content, modified)
  | .ok (_, .directory ..) => .error .isDirectory
  | .ok (_, .tool _) => .ok ([], 0)
  | .ok _ => .ok ([], d.now)

/-- Gives a place that has been opened its content. A device takes everything, or has no room. -/
def fill (d : Disk) (place : Place) (content : Bytes) : Except Errno Disk :=
  match d.node? place with
  | some (.file _ mode _ group) => .ok (d.put place (.file content mode d.changeTime group))
  | some (.device .full) => if content.isEmpty then .ok d else .error .noSpace
  | _ => .ok d

/-! ## Making and removing -/

/-- The place of a path at which nothing stands yet and something may be made. -/
def freePlace (d : Disk) (directory : Place) (raw : Octets) : Except Errno Place :=
  match d.locateWith false directory (Way.trimSlashes raw) with
  | .error e => .error e
  | .ok place =>
    match d.node? place with
    | some _ => .error .alreadyExists
    | none => (d.mayChange place.dropLast).map fun _ => place

/-- Makes one directory where nothing stands yet. -/
def makeDirectory (d : Disk) (directory : Place) (mask : Mode) (raw : Octets) :
    Except Errno Disk :=
  (d.freePlace directory raw).map fun place =>
    d.put place (.directory (Mode.ofDirectory.without mask) d.changeTime [])

/-- Makes something that is no directory. -/
def makeNode (d : Disk) (directory : Place) (raw : Octets) (node : Node) : Except Errno Disk :=
  match d.freePlace directory raw with
  | .error e => .error e
  | .ok place => if endsInSlash raw then .error .noEntry else .ok (d.put place node)

/-- Makes a link. Its text is no path yet, but may not be empty or too long for one. -/
def makeLink (d : Disk) (directory : Place) (target raw : Octets) : Except Errno Disk :=
  if target.isEmpty then .error .noEntry
  else if maxPathBytes < target.length then .error .nameTooLong
  else d.makeNode directory raw (.link target d.changeTime)

/-- Gives what stands at a path another name. A directory has only one. -/
def addName (d : Disk) (directory : Place) (source raw : Octets) : Except Errno Disk :=
  match d.statWith false directory source with
  | .error e => .error e
  | .ok (place, node) =>
    match d.freePlace directory raw with
    | .error e => .error e
    | .ok target =>
      if endsInSlash raw then .error .noEntry
      else match node with
        | .directory .. => .error .notPermitted
        | .file content mode modified 0 =>
          let group := d.groupCount + 1
          let node : Node := .file content mode modified group
          .ok (({ d with groupCount := group }.put place node).put target node)
        | node => .ok (d.put target node)

/-- The last component of a path is one of the points. -/
def endsInPoint (raw : Octets) : Bool :=
  let last := (components raw).getLast?
  last = some ['.'] || last = some ['.', '.']

/-- What stands at the end of a path is taken away, unless it is a directory. -/
def remove (d : Disk) (directory : Place) (raw : Octets) : Except Errno (Place × Disk) :=
  match d.locateWith false directory (Way.trimSlashes raw) with
  | .error e => .error e
  | .ok place =>
    if endsInPoint raw then .error .isDirectory
    else match d.node? place with
      | none => .error .noEntry
      | some n =>
        if endsInSlash raw then .error (if n.isDirectory then .isDirectory else .notDirectory)
        else match d.mayChange place.dropLast with
          | .error e => .error e
          | .ok () => if n.isDirectory then .error .isDirectory else .ok (place, d.erase place)

/-- An empty directory is taken away. -/
def removeDirectory (d : Disk) (directory : Place) (raw : Octets) : Except Errno Disk :=
  match d.locateWith false directory (Way.trimSlashes raw) with
  | .error e => .error e
  | .ok place =>
    let last := (components raw).getLast?
    if last = some ['.'] then .error .invalidArgument
    else if last = some ['.', '.'] then .error .notEmpty
    else match d.node? place with
      | none => .error .noEntry
      | some n =>
        match d.mayChange place.dropLast with
        | .error e => .error e
        | .ok () =>
          if place.isEmpty then .error .busy
          else if !n.isDirectory then .error .notDirectory
          else if n.entries.isEmpty then .ok (d.erase place)
          else .error .notEmpty

/-- Moves what stands at a place to another one. -/
def moved (d : Disk) (source target : Place) (node : Node) : Disk :=
  ((d.erase target).erase source).put target node

/-- Gives what stands at a path another path. The answer tells both places. -/
def rename (d : Disk) (directory : Place) (source target : Octets) :
    Except Errno (Place × Place × Disk) :=
  match d.locateWith false directory (Way.trimSlashes source),
    d.locateWith false directory (Way.trimSlashes target) with
  | .error e, _ => .error e
  | _, .error e => .error e
  | .ok a, .ok b =>
    if endsInPoint source || endsInPoint target then .error .busy
    else match d.node? a with
      | none => .error .noEntry
      | some node =>
        if !node.isDirectory && (endsInSlash source || endsInSlash target) then
          .error .notDirectory
        else if (d.placesOf a).contains b then .ok (b, b, d)
        else if a.isPrefixOf b then .error .invalidArgument
        else if b.isPrefixOf a then .error .notEmpty
        else match d.mayChange a.dropLast, d.mayChange b.dropLast with
          | .error e, _ => .error e
          | _, .error e => .error e
          | .ok (), .ok () =>
            let isTree := node.isDirectory
            match d.node? b with
            | none =>
              if isTree && a.dropLast ≠ b.dropLast && !node.allows .write then
                .error .accessDenied
              else .ok (a, b, d.moved a b node)
            | some old =>
              if isTree && !old.isDirectory then .error .notDirectory
              else if !isTree && old.isDirectory then .error .isDirectory
              else if !old.entries.isEmpty then .error .notEmpty
              else .ok (a, b, d.moved a b node)

/-- Changes what a path leads to. A link at its end is followed or not. -/
def changeAt (d : Disk) (follow : Bool) (directory : Place) (raw : Octets)
    (change : Node → Node) : Except Errno Disk :=
  (d.statWith follow directory raw).map fun (place, n) => d.put place (change n)

/-! ## Directories on the way -/

/-- Failures of a look at a path that count as if there was nothing. -/
def isAbsence (e : Errno) : Bool :=
  e = .noEntry || e = .notDirectory || e = .badDescriptor || e = .tooManyLinks

/-- Why a way could not be made. -/
inductive WayFault
  | failed (errno : Errno) (way : Way)
  | tooDeep
  deriving DecidableEq, Repr

/-- Makes one directory; one that is there is left alone. -/
def ensureDirectory (d : Disk) (way : Way) : Except WayFault Unit × Disk :=
  match d.makeDirectory d.current Mode.usualMask way.octets with
  | .ok d' => (.ok (), d')
  | .error e =>
    match d.stat way.octets with
    | .ok (_, n) => if n.isDirectory then (.ok (), d) else (.error (.failed e way), d)
    | .error e' => (.error (.failed (if isAbsence e' then e else e') way), d)

/-- So many directories of one way can be made at most. -/
def maxNewDirectories : Nat := 985

/-- Makes a directory and those above it that are missing, so many at most. The directories made
until a failure stay. -/
def makeDirectories (d : Disk) (anchor : Anchor) :
    (room : Nat) → (reversedParts : List Octets) → Except WayFault Unit × Disk
  | 0, _ => (.error .tooDeep, d)
  | _ + 1, [] => d.ensureDirectory ⟨anchor, []⟩
  | room + 1, c :: above =>
    let way : Way := ⟨anchor, (c :: above).reverse⟩
    match d.makeDirectory d.current Mode.usualMask way.octets with
    | .error .noEntry =>
      match makeDirectories d anchor room above with
      | (.ok (), d') => d'.ensureDirectory way
      | (.error e, d') => (.error e, d')
    | _ => d.ensureDirectory way

def makeWay (d : Disk) (way : Way) : Except WayFault Unit × Disk :=
  d.makeDirectories way.anchor maxNewDirectories way.parts.reverse

/-! ## Scratch space -/

def scratchSuffix (n : Nat) : List Char :=
  let ds := Nat.toDigits 10 n
  List.replicate (8 - ds.length) '0' ++ ds

/-- The mode of a scratch directory: nobody else may look into it. -/
def scratchMode : Mode := 448

/-- Makes a new directory in the scratch space, and tells its place. -/
def makeScratch (d : Disk) (label : String) : Place × Except Errno Disk :=
  let place := d.scratch ++ [Octets.ofString label ++ scratchSuffix d.scratchCount]
  (place, (d.freePlace d.current place.octets).map fun place =>
    { d.put place (.directory scratchMode d.changeTime []) with scratchCount := d.scratchCount + 1 })

/-! ## Listing -/

/-- The places below a directory that can be listed, by their components from there. -/
def placesBelow (d : Disk) (place : Place) : List Place :=
  match d.node? place with
  | some n => n.placesBelow (maxPathBytes + 1 - place.octets.length)
  | none => []

/-- The regular files below a place that can be read, by their components from there. A link to a
file counts as that file, and one to a directory is not entered. -/
def filesBelow (d : Disk) (place : Place) : List (Place × Bytes) :=
  (d.placesBelow place).filterMap fun below =>
    match d.stat (place ++ below).octets with
    | .ok (_, .file content mode _ _) => if mode.allows .read then some (below, content) else none
    | _ => none

/-- The regular files below a place that are new, or whose content has changed. -/
def changesBelow (before after : Disk) (place : Place) : List (Place × Bytes) :=
  let old := before.filesBelow place
  (after.filesBelow place).filter fun (below, content) => old.lookup below ≠ some content

end Disk

/-! ## Absolute forms -/

namespace Place

/-- Follows components without asking the disk: two points undo the component before them. -/
def settle (start : Place) : List Octets → Place
  | [] => start
  | c :: rest =>
    if c.isEmpty || c = ['.'] then settle start rest
    else if c = ['.', '.'] then settle start.dropLast rest
    else settle (start ++ [c]) rest

end Place

namespace Disk

/-- What is left to do: a component to walk, or a link to take note of once it is resolved. -/
inductive ResolveStep
  | component (name : Octets)
  | resolved (link : Place)
  deriving DecidableEq, Repr

def ResolveStep.name? : ResolveStep → Option Octets
  | .component name => some name
  | .resolved _ => none

/-- The text of a link at a place, if there is one. -/
def linkAt? (d : Disk) (place : Place) : Option Octets :=
  match d.statWith false [] place.octets with
  | .ok (_, .link target _) => some target
  | _ => none

/-- Walks on from a place. A link that has been resolved before is not read again; one that leads
back to itself is left as it is, with all that follows it. -/
def resolveAfter (d : Disk) :
    Nat → Place → List (Place × Option Place) → List ResolveStep → Place
  | 0, place, _, steps => place.settle (steps.filterMap ResolveStep.name?)
  | _ + 1, place, _, [] => place
  | n + 1, place, seen, .resolved link :: rest =>
    resolveAfter d n place ((link, some place) :: seen) rest
  | n + 1, place, seen, .component c :: rest =>
    if c = ['.'] then resolveAfter d n place seen rest
    else if c = ['.', '.'] then resolveAfter d n place.dropLast seen rest
    else
      let next := place ++ [c]
      match d.linkAt? next with
      | none => resolveAfter d n next seen rest
      | some target =>
        match seen.lookup next with
        | some (some found) => resolveAfter d n found seen rest
        | some none => next.settle (rest.filterMap ResolveStep.name?)
        | none =>
          resolveAfter d n (if isAbsolute target then [] else place) ((next, none) :: seen)
            ((components target).map .component ++ .resolved next :: rest)

/-- More steps than any walk takes, because each link is read once. -/
def maxResolveSteps : Nat := 1000000

/-- The place that a path leads to, seen from the current directory. -/
def resolvePlace (d : Disk) (raw : Octets) : Place :=
  d.resolveAfter maxResolveSteps (if isAbsolute raw then [] else d.current) []
    ((components raw).map .component)

/-- The links of a path lead round in a circle. -/
def isLoop (d : Disk) (place : Place) : Bool :=
  match d.statFrom [] place.octets with
  | .error .tooManyLinks => true
  | _ => false

end Disk

end Worksheet
