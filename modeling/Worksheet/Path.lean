-- Paths in normal form. Empty components and single points are dropped; two points are kept,
-- because only the disk knows what they lead to.
import Worksheet.Text.Split

namespace Worksheet

/-- What a path starts from: the current directory, the root, or the root written with exactly
two slashes. -/
inductive Anchor
  | current
  | root
  | doubleRoot
  deriving DecidableEq, Repr

def Anchor.text : Anchor → String
  | .current => ""
  | .root => "/"
  | .doubleRoot => "//"

structure Path where
  anchor : Anchor
  parts : List String
  deriving DecidableEq, Repr

namespace Path

/-! ## Reading and writing -/

def anchorOf (cs : List Char) : Anchor :=
  match (cs.takeWhile (· = '/')).length with
  | 0 => .current
  | 2 => .doubleRoot
  | _ => .root

def isComponent (part : List Char) : Bool := part ≠ [] && part ≠ ['.']

def ofChars (cs : List Char) : Path :=
  ⟨anchorOf cs, ((Text.split '/' cs).filter isComponent).map String.ofList⟩

def ofString (s : String) : Path := ofChars s.toList

/-- A path without components is a single point, unless it starts at the root. -/
def text (p : Path) : String :=
  if p.anchor = .current ∧ p.parts = [] then "." else p.anchor.text ++ "/".intercalate p.parts

/-! ## Parts of a path -/

def isAbsolute (p : Path) : Bool := p.anchor ≠ .current

/-- The last component, or nothing. -/
def name (p : Path) : String := p.parts.getLast?.getD ""

/-- The last component without its suffix. A point at an end of the name opens no suffix. -/
def stem (p : Path) : String :=
  let cs := p.name.toList
  let before := Text.beforeLast '.' cs
  if before = [] || cs.getLast? = some '.' then p.name else String.ofList before

/-- The path without its last component; one without components is its own parent. -/
def parent (p : Path) : Path := ⟨p.anchor, p.parts.dropLast⟩

/-- An absolute path takes the place of what it is joined to. -/
def join (p q : Path) : Path :=
  if q.isAbsolute then q else ⟨p.anchor, p.parts ++ q.parts⟩

def joinString (p : Path) (s : String) : Path := p.join (ofString s)

end Path

end Worksheet
