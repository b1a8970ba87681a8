-- Compiled artifacts kept in memory: contents by relative path. They can be written below a
-- real directory, and be loaded from one.
import Worksheet.Disk.Tree

namespace Worksheet

open Text (Bytes Points)

/-- Contents by path in normal form, in the order of their first write. -/
structure Artifacts where
  name : String
  files : List (Points × Bytes)
  deriving DecidableEq, Repr

/-- Why artifacts cannot be reached, written out or loaded. -/
inductive ArtifactFault
  | outside (raw : Points)
  | missing (key : Points)
  | system (errno : Errno) (path : Points)
  | noRoom (errno : Errno)
  | nulByte
  | tooDeep
  | tooManyLevels
  deriving DecidableEq, Repr

namespace ArtifactFault

def message : ArtifactFault → String
  | outside raw => "Not a relative path inside the directory: " ++ Points.spelled raw
  | missing key => Text.quotedPoints key
  | system errno path => errno.sentence ++ ": " ++ Text.quotedPoints path
  | noRoom errno => errno.sentence
  | nulByte => "embedded null byte"
  | tooDeep => "maximum recursion depth exceeded while calling a Python object"
  | tooManyLevels => "maximum recursion depth exceeded"

def className : ArtifactFault → String
  | outside _ => "ValueError"
  | missing _ => "KeyError"
  | system errno _ => errno.className
  | noRoom errno => errno.className
  | nulByte => "ValueError"
  | tooDeep => "RecursionError"
  | tooManyLevels => "RecursionError"

end ArtifactFault

namespace Artifacts

def defaultName : String := "(memory)"

def empty (name : String) : Artifacts := ⟨name, []⟩

/-! ## Keys -/

def slash : Text.CodePoint := .ofChar '/'

def backslash : Text.CodePoint := .ofChar '\\'

def parentPart : Points := .ofString ".."

/-- Components that say where to go; empty ones and single points do not. -/
def isComponent (part : Points) : Bool := part ≠ [] && part ≠ .ofString "."

/-- The components of a path text, with backslashes read as slashes. -/
def partsOf (raw : Points) : List Points :=
  (Text.split slash (raw.map fun c => if c = backslash then slash else c)).filter isComponent

def isAbsolute (raw : Points) : Bool :=
  raw.head? = some slash || raw.head? = some backslash

/-- The text of components with slashes between them; no components are a single point. -/
def joinParts (parts : List Points) : Points :=
  if parts = [] then .ofString "." else [slash].intercalate parts

/-- The key of a path text. An absolute path has none, nor has one with two points. -/
def key? (raw : Points) : Option Points :=
  if isAbsolute raw || (partsOf raw).contains parentPart then none
  else some (joinParts (partsOf raw))

def key (raw : Points) : Except ArtifactFault Points :=
  match key? raw with
  | some k => .ok k
  | none => .error (.outside raw)

/-! ## Contents -/

def setFile (k : Points) (data : Bytes) : List (Points × Bytes) → List (Points × Bytes)
  | [] => [(k, data)]
  | (k', d) :: rest => if k' = k then (k', data) :: rest else (k', d) :: setFile k data rest

def write (a : Artifacts) (raw : Points) (data : Bytes) : Except ArtifactFault Artifacts :=
  (key raw).map fun k => { a with files := setFile k data a.files }

def read (a : Artifacts) (raw : Points) : Except ArtifactFault Bytes :=
  match key raw with
  | .error e => .error e
  | .ok k =>
    match a.files.lookup k with
    | some data => .ok data
    | none => .error (.missing k)

def contains (a : Artifacts) (raw : Points) : Except ArtifactFault Bool :=
  (key raw).map fun k => (a.files.lookup k).isSome

/-- The keys in ascending order of their code points. -/
def toList (a : Artifacts) : List Points :=
  (a.files.map (·.1)).mergeSort Text.Points.precedes

def size (a : Artifacts) : Nat := a.files.length

/-- How the artifacts are named in a message. -/
def display (a : Artifacts) : String :=
  "VirtualDirectory(" ++ Text.quoted a.name ++ ", files=" ++ toString a.size ++ ")"

/-! ## Writing out -/

/-- Where a key is written below a root. -/
def target (root : Path) (k : Points) : Way :=
  ⟨root.anchor, root.way.parts ++ (partsOf k).map Text.FileName.ofPoints⟩

/-- Writes one file into a directory that exists. -/
def exportInto (way : Way) (data : Bytes) (d : Disk) : Except ArtifactFault Unit × Disk :=
  if way.hasNul then (.error .nulByte, d)
  else match d.openToWrite d.current Mode.usualMask true way.octets with
    | .error e => (.error (.system e way.points), d)
    | .ok (place, opened) =>
      match opened.fill place data with
      | .error e => (.error (.noRoom e), opened)
      | .ok filled => (.ok (), filled)

/-- Writes one file, and the directories above it that are missing. -/
def exportFile (way : Way) (data : Bytes) (d : Disk) : Except ArtifactFault Unit × Disk :=
  if way.parent.hasNul then (.error .nulByte, d)
  else match d.makeWay way.parent with
    | (.error (.failed e above), d') => (.error (.system e above.points), d')
    | (.error .tooDeep, d') => (.error .tooDeep, d')
    | (.ok (), d') => exportInto way data d'

/-- Writes the files below a root, in order. The first failure stops the work, and what has
been written until then stays. -/
def exportFiles (root : Path) : List (Points × Bytes) → Disk → Except ArtifactFault Unit × Disk
  | [], d => (.ok (), d)
  | (k, data) :: rest, d =>
    match exportFile (target root k) data d with
    | (.ok (), d') => exportFiles root rest d'
    | (.error e, d') => (.error e, d')

def exportTo (a : Artifacts) (root : Path) (d : Disk) : Except ArtifactFault Unit × Disk :=
  exportFiles root a.files d

/-! ## Loading -/

/-- Components are compared one by one, and a shorter path comes before its extensions. -/
def partsLE : List Points → List Points → Bool
  | [], _ => true
  | _ :: _, [] => false
  | a :: as, b :: bs => if a = b then partsLE as bs else a.precedes b

/-- The way to a place below a root. -/
def wayBelow (root : Path) (below : Place) : Way := ⟨root.anchor, root.way.parts ++ below⟩

/-- The content of a place below a root, if a regular file is there. -/
def contentBelow (d : Disk) (root : Path) (below : Place) : Except ArtifactFault (Option Bytes) :=
  let way := wayBelow root below
  match d.stat way.octets with
  | .error e => if Disk.isAbsence e then .ok none else .error (.system e way.points)
  | .ok (_, n) =>
    if !Disk.isRegular n then .ok none
    else match d.readFile way.octets with
      | .ok (content, _) => .ok (some content)
      | .error e => .error (.system e way.points)

/-- A directory can be listed if it lies so many levels below the root at most. -/
def maxListedLevels : Nat := 983

/-- Why a place below a root cannot be looked at: its path is too long, a link leads to a place whose
path is, or it is a directory too many levels below the root. Missing rights are no reason yet. -/
def lookFault? (d : Disk) (root : Path) (below : Place) : Option ArtifactFault :=
  let way := wayBelow root below
  match d.statWith false d.current way.octets with
  | .error e => fault? way e
  | .ok (_, .link ..) =>
    match d.stat way.octets with
    | .error e => fault? way e
    | .ok _ => none
  | .ok (_, n) =>
    if n.isDirectory && maxListedLevels < below.length then some .tooManyLevels else none
where
  fault? (way : Way) (e : Errno) : Option ArtifactFault :=
    if Disk.isAbsence e || e = .accessDenied then none else some (.system e way.points)

def loadFiles (d : Disk) (root : Path) : List Place → Artifacts → Except ArtifactFault Artifacts
  | [], a => .ok a
  | below :: rest, a =>
    match contentBelow d root below with
    | .error e => .error e
    | .ok none => loadFiles d root rest a
    | .ok (some data) =>
      match a.write ([slash].intercalate (below.map Text.FileName.points)) data with
      | .ok a' => loadFiles d root rest a'
      | .error e => .error e

/-- Places are in the order of their texts. -/
def placeLE (a b : Place) : Bool :=
  partsLE (a.map Text.FileName.points) (b.map Text.FileName.points)

/-- The regular files below a root; a root that is no directory has none. -/
def load (d : Disk) (root : Path) (name : String) : Except ArtifactFault Artifacts :=
  match d.stat root.way.octets with
  | .error e => if Disk.isAbsence e then .ok (empty name) else .error (.system e root.way.points)
  | .ok (_, n) =>
    -- A place whose path from the root alone is too long is found, and nothing below it.
    let found := n.placesBelow (Disk.maxPathBytes + 2)
    match found.findSome? (lookFault? d root) with
    | some fault => .error fault
    | none => loadFiles d root (found.mergeSort placeLE) (empty name)

end Artifacts

end Worksheet
