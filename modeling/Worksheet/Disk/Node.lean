-- Ways to files, and trees of files with their modes: what the owner of a file, its group and all
-- others may do with it. A file name need not be the encoding of any text. A place in a tree is named
-- by the components on the way to it, and what stands there is found by walking them.
import Worksheet.Path
import Worksheet.Text.Octets

namespace Worksheet

open Text (Bytes Octets Points)

/-! ## Ways -/

/-- A way to a file: what it starts from, and its components. -/
structure Way where
  anchor : Anchor
  parts : List Octets
  deriving DecidableEq, Repr

/-- A place is named by its components from the root. -/
abbrev Place := List Octets

namespace Way

/-- A path without the slashes at its end, unless it is the root. -/
def trimSlashes (raw : Octets) : Octets :=
  let trimmed := (raw.reverse.dropWhile (· = '/')).reverse
  if trimmed.isEmpty then raw.take 1 else trimmed

/-- A way without components is a single point, unless it starts at the root. -/
def octets (w : Way) : Octets :=
  if w.anchor = .current ∧ w.parts = [] then ['.']
  else w.anchor.text.toList ++ ['/'].intercalate w.parts

/-- The text of a way. -/
def points (w : Way) : Points := Text.FileName.points w.octets

/-- The way without its last component; one without components is its own parent. -/
def parent (w : Way) : Way := ⟨w.anchor, w.parts.dropLast⟩

/-- Some component holds a character of code zero, which no way of the system does. -/
def hasNul (w : Way) : Bool := w.parts.any fun c => c.contains (Char.ofNat 0)

end Way

/-- A path, encoded. -/
def Path.way (p : Path) : Way := ⟨p.anchor, p.parts.map Octets.ofString⟩

namespace Place

def way (place : Place) : Way := ⟨.root, place⟩

def octets (place : Place) : Octets := place.way.octets

/-- The path of a place. -/
def path (place : Place) : Path := ⟨.root, place.map Octets.spelled⟩

end Place

/-! ## Modes -/

/-- Twelve bits: three for special rules, and three for each class of users. -/
abbrev Mode := Nat

/-- What a user may do with a file. To run a directory is to pass through it. -/
inductive Right
  | read
  | write
  | run
  deriving DecidableEq, Repr

/-- The bit of a right, for the owner. -/
def Right.bit : Right → Nat
  | .read => 256
  | .write => 128
  | .run => 64

namespace Mode

/-- Every file belongs to the one user that there is, so only the bits of the owner count. -/
def allows (mode : Mode) (right : Right) : Bool := mode / right.bit % 2 = 1

/-- A mode without the bits of a mask. -/
def without (mode mask : Mode) : Mode := mode - (mode &&& mask)

/-- What a new file is made with. -/
def ofFile : Mode := 438

/-- What a new directory is made with. -/
def ofDirectory : Mode := 511

/-- The mask that is usual: the group and all others may not write. -/
def usualMask : Mode := 18

end Mode

/-! ## Nodes -/

inductive Device
  | null
  | zero
  | full
  deriving DecidableEq, Repr

/-- What stands at a place, with the time of its last change in nanoseconds. Files of one group,
unless it is 0, are one file under several names. A tool is a program of the system, and `opened`
stands for what a descriptor of the process that asks leads to. -/
inductive Node
  | directory (mode : Mode) (modified : Int) (entries : List (Octets × Node))
  | file (content : Bytes) (mode : Mode) (modified : Int) (group : Nat)
  | tool (name : String)
  | device (device : Device)
  | link (target : Octets) (modified : Int)
  | fifo (mode : Mode) (modified : Int)
  | opened (descriptor : Nat)

namespace Node

instance : Inhabited Node := ⟨.directory 0 0 []⟩

/-- The mode of what stands at a place. Links let everything pass. -/
def mode : Node → Mode
  | .directory mode _ _ => mode
  | .file _ mode _ _ => mode
  | .tool _ => 493
  | .device _ => 438
  | .link .. => 511
  | .fifo mode _ => mode
  | .opened _ => 438

def allows (n : Node) (right : Right) : Bool := n.mode.allows right

def isDirectory : Node → Bool
  | .directory .. => true
  | _ => false

/-- The time of the last change, where one is kept. -/
def modified : Node → Int
  | .directory _ modified _ => modified
  | .file _ _ modified _ => modified
  | .link _ modified => modified
  | .fifo _ modified => modified
  | _ => 0

/-- The group of a file that has several names; 0 for all else. -/
def group : Node → Nat
  | .file _ _ _ group => group
  | _ => 0

def withMode (mode : Mode) : Node → Node
  | .directory _ modified entries => .directory mode modified entries
  | .file content _ modified group => .file content mode modified group
  | .fifo _ modified => .fifo mode modified
  | n => n

def withTime (time : Int) : Node → Node
  | .directory mode _ entries => .directory mode time entries
  | .file content mode _ group => .file content mode time group
  | .link target _ => .link target time
  | .fifo mode _ => .fifo mode time
  | n => n

/-! ## Entries -/

/-- Only a directory has entries. -/
def entries : Node → List (Octets × Node)
  | .directory _ _ entries => entries
  | _ => []

def child? (n : Node) (name : Octets) : Option Node := n.entries.lookup name

/-- An entry set again keeps its place in the order. -/
def setEntry (name : Octets) (node : Node) : List (Octets × Node) → List (Octets × Node)
  | [] => [(name, node)]
  | (k, n) :: rest =>
    if k = name then (k, node) :: rest else (k, n) :: setEntry name node rest

def eraseEntry (name : Octets) (entries : List (Octets × Node)) : List (Octets × Node) :=
  entries.filter fun e => e.1 ≠ name

/-! ## Places -/

/-- What stands at a place below a node. -/
def at? : Node → Place → Option Node
  | n, [] => some n
  | n, c :: rest =>
    match n.child? c with
    | some m => m.at? rest
    | none => none

/-- Puts a node at a place, in a directory that exists. A name that is new changes the time of its
directory. -/
def put (now : Int) (node : Node) : Place → Node → Node
  | [], _ => node
  | c :: rest, .directory mode modified entries =>
    match entries.lookup c, rest with
    | some n, rest => .directory mode modified (setEntry c (put now node rest n) entries)
    | none, [] => .directory mode now (setEntry c node entries)
    | none, _ => .directory mode modified entries
  | _, n => n

/-- Takes away what stands at a place, with all below it. -/
def erase (now : Int) : Place → Node → Node
  | c :: rest, .directory mode modified entries =>
    match entries.lookup c, rest with
    | some _, [] => .directory mode now (eraseEntry c entries)
    | some n, rest => .directory mode modified (setEntry c (erase now rest n) entries)
    | none, _ => .directory mode modified entries
  | _, n => n

/-! ## Files with several names -/

mutual

/-- The places of the files of a group. -/
def placesOf (group : Nat) : Node → List Place
  | .directory _ _ entries => placesOfAmong group entries
  | .file _ _ _ g => if g = group then [[]] else []
  | _ => []

def placesOfAmong (group : Nat) : List (Octets × Node) → List Place
  | [] => []
  | (name, n) :: rest => (placesOf group n).map (name :: ·) ++ placesOfAmong group rest

end

mutual

/-- Puts a node in the place of every file of a group. -/
def putAll (group : Nat) (node : Node) : Node → Node
  | .directory mode modified entries => .directory mode modified (putAllAmong group node entries)
  | .file content mode modified g => if g = group then node else .file content mode modified g
  | n => n

def putAllAmong (group : Nat) (node : Node) : List (Octets × Node) → List (Octets × Node)
  | [] => []
  | (name, n) :: rest => (name, putAll group node n) :: putAllAmong group node rest

end

/-! ## Depth -/

mutual

/-- How many levels of entries are below a node. -/
def depth : Node → Nat
  | .directory _ _ entries => depthAmong entries
  | _ => 0

def depthAmong : List (Octets × Node) → Nat
  | [] => 0
  | (_, n) :: rest => max (depth n + 1) (depthAmong rest)

end

/-! ## All names -/

mutual

/-- The places below a node that can be listed, with so many octets of a path left. A directory
that may not be read shows nothing, and one that may not be passed shows only its own names. -/
def placesBelow (room : Nat) : Node → List Place
  | .directory mode _ entries =>
    if room = 0 || !mode.allows .read then []
    else placesAmong room (mode.allows .run) entries
  | _ => []

def placesAmong (room : Nat) (enters : Bool) : List (Octets × Node) → List Place
  | [] => []
  | (name, n) :: rest =>
    let below := if enters then placesBelow (room - (name.length + 1)) n else []
    [name] :: below.map (name :: ·) ++ placesAmong room enters rest

end

end Node

end Worksheet
