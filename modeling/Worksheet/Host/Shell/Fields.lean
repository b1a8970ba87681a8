-- From expanded words to fields: splitting at separators, and the names that patterns match.
import Worksheet.Host.Shell.State
import Worksheet.Host.Tools.Glob
import Worksheet.Text.Split

namespace Worksheet.Host.Shell

open Text (Octets)

/-- A piece of an expanded word: text as it was written, a result that is still to be split, or
all arguments. -/
inductive Piece
  | fixed (quoted : Bool) (text : Octets)
  | loose (text : Octets)
  | listed (quoted : Bool) (texts : List Octets)
  deriving Repr

/-- The text of a word that is not split. -/
def joined (separator : Octets) : List Piece → Octets
  | [] => []
  | .fixed _ t :: rest => t ++ joined separator rest
  | .loose t :: rest => t ++ joined separator rest
  | .listed _ ts :: rest => separator.intercalate ts ++ joined separator rest

/-- A word as a pattern: what was quoted stands for itself. -/
def patternOf (separator : Octets) : List Piece → Glob
  | [] => []
  | .fixed q t :: rest => (t.map fun c => (c, !q)) ++ patternOf separator rest
  | .loose t :: rest => (t.map fun c => (c, true)) ++ patternOf separator rest
  | .listed q ts :: rest =>
    ((separator.intercalate ts).map fun c => (c, !q)) ++ patternOf separator rest

/-! ## Splitting -/

/-- A field as it comes about: its characters, latest first, and whether there was a pair of quotes
in it, so that it is a field even if it is empty. -/
structure Field where
  text : Glob
  marked : Bool

namespace Field

def empty : Field := ⟨[], false⟩

def add (f : Field) (text : Glob) : Field := { f with text := text.reverse ++ f.text }

def isEmpty (f : Field) : Bool := f.text.isEmpty && !f.marked

def glob (f : Field) : Glob := f.text.reverse

end Field

/-- Fields that are complete (latest first), and the one at work. A blank separator may be followed
by one that is not blank, which then ends no other field. When only so many more separators count,
the rest is one field, without the separators at its end from a place on. In the first result right
behind all arguments between quotes a blank is a separator like any other. -/
structure Splitting where
  fields : List Field
  current : Field
  afterBlank : Bool
  left : Option Nat
  cut : Option Field
  listEnd : Bool
  afterList : Bool

namespace Splitting

def start (left : Option Nat) : Splitting := ⟨[], .empty, false, left, none, false, false⟩

def isBlank (c : Char) : Bool := c = ' ' || c = '\t' || c = '\n'

def keep (s : Splitting) (item : Char × Bool) : Splitting :=
  { s with current := s.current.add [item] }

/-- A separator behind all fields but the last one. -/
def trailing (s : Splitting) (isSeparator blank : Bool) (item : Char × Bool) : Splitting :=
  if blank then { s with cut := s.cut.orElse fun _ => some s.current }.keep item
  else
    let cut := if isSeparator && s.afterBlank then s.cut else none
    { s with cut := cut, afterBlank := false }.keep item

/-- A separator that ends a field, or belongs to the one before. -/
def separate (s : Splitting) (blank : Bool) (item : Char × Bool) : Splitting :=
  let s := { s with afterBlank := blank }
  if s.current.isEmpty && blank then { s with afterBlank := false }
  else match s.left with
    | some 1 => { s with left := some 0, cut := some s.current }.keep item
    | left =>
      { s with
        fields := s.current :: s.fields, current := .empty, left := left.map (· - 1) }

/-- One character of a result that is split. -/
def character (ifs : Octets) (s : Splitting) (c : Char) : Splitting :=
  let isSeparator := ifs.contains c || c = Char.ofNat 0
  let blank := isSeparator && !s.afterList && (isBlank c || c = Char.ofNat 0)
  let item := (c, true)
  if s.left = some 0 then s.trailing isSeparator blank item
  else if s.afterBlank then
    if blank then s
    else if isSeparator then { s with afterBlank := false }
    else { s with afterBlank := false }.keep item
  else if isSeparator then s.separate blank item
  else s.keep item

/-- The arguments, each a field of its own. -/
def list (quoted : Bool) : Splitting → List Octets → Splitting
  | s, [] => s
  | s, [t] => { s with current := s.current.add (t.map fun c => (c, !quoted)) }
  | s, t :: ts =>
    let s := { s with current := s.current.add (t.map fun c => (c, !quoted)) }
    list quoted { s with fields := s.current :: s.fields, current := .empty } ts

def piece (ifs : Octets) (s : Splitting) (p : Piece) : Splitting :=
  let s := { s with listEnd := false }
  let loose (t : Octets) : Splitting :=
    { t.foldl (character ifs) { s with afterBlank := false } with afterList := false }
  match p with
  | .fixed q t =>
    { s with current := { s.current.add (t.map fun c => (c, !q)) with
        marked := s.current.marked || q } }
  | .loose t => loose t
  | .listed true [] => s
  | .listed true ts =>
    { list true { s with afterBlank := false } ts with listEnd := true, afterList := true }
  | .listed false ts => loose ([Char.ofNat 0].intercalate ts)

/-- The last field counts if there is something in it, or if the arguments end with it. -/
def finish (s : Splitting) : List Field :=
  let last := match s.cut with
    | some f => f
    | none => s.current
  (if last.isEmpty && !s.listEnd then s.fields else last :: s.fields).reverse

end Splitting

def fieldsOf (ifs : Octets) (pieces : List Piece) : List Glob :=
  (pieces.foldl (Splitting.piece ifs) (.start none)).finish.map Field.glob

/-- At most so many fields; the last one is all that is left. -/
def fieldsUpTo (count : Nat) (ifs : Octets) (pieces : List Piece) : List Octets :=
  (pieces.foldl (Splitting.piece ifs) (.start (some count))).finish.map fun f => f.glob.text

/-! ## Names -/

def splitGlob (piece : Glob) : Glob → List Glob
  | [] => [piece.reverse]
  | (c, a) :: rest =>
    if c = '/' then piece.reverse :: splitGlob [] rest else splitGlob ((c, a) :: piece) rest

/-- The names in the tree that the components match, each behind what it starts with. -/
def matchNames (start : Octets) : List Glob → Sh (List Octets)
  | [] => pure [start]
  | g :: rest => do
    let more (name : Octets) : Octets := if rest.isEmpty then name else name ++ ['/']
    if !g.isActive then
      let path := start ++ more g.plain
      if rest.isEmpty then
        match ← call (.inspect path) with
        | .ok _ => return [path]
        | .error _ => return []
      else matchNames path rest
    else
      match ← call (.list (if start.isEmpty then ['.'] else start)) with
      | .error _ => return []
      | .ok (names : List Octets) =>
        let hidden := g.plain.head? = some '.'
        let names := if hidden then ['.'] :: ['.', '.'] :: names else names
        let fitting := names.filter fun n => g.covers n && (hidden || n.head? ≠ some '.')
        let found ← fitting.mapM fun n => matchNames (start ++ more n) rest
        return found.flatten

/-- A field that matches names becomes them, in order; any other is its own text. -/
def namesOf (g : Glob) : Sh (List Octets) := do
  if !g.isActive || (← get).options.contains "noglob" then return [g.text]
  match ← matchNames [] (splitGlob [] g) with
  | [] => return [g.text]
  | names => return names.mergeSort fun a b => decide (String.ofList a ≤ String.ofList b)

/-! ## Trimming -/

/-- A text up to the first boundary in it. -/
def upToBoundary (text : Octets) : Octets := text.takeWhile (· ≠ Char.ofNat 0)

/-- Takes away the shortest or the longest part at an end that a pattern covers. Where several
arguments are one text with boundaries in it, a part counts up to the first boundary, but all of it
goes away. -/
def trim (atEnd longest : Bool) (g : Glob) (text : Octets) : Octets :=
  let cuts := if atEnd = longest then List.range ((upToBoundary text).length + 1)
    else (List.range (text.length + 1)).reverse
  let part (n : Nat) : Octets := upToBoundary (if atEnd then text.drop n else text.take n)
  match cuts.find? fun n => g.covers (part n) with
  | none => text
  | some n => if atEnd then text.take n else text.drop n

end Worksheet.Host.Shell
