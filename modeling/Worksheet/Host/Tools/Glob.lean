-- Wildcard patterns: a star for any text, a question mark for one character, and brackets for
-- one of a set. Each character of a pattern is marked as active or as standing for itself.
import Worksheet.Text.Octets

namespace Worksheet.Host

open Text (Octets)

/-- The characters of a pattern; those with the flag can be special. -/
abbrev Glob := List (Char × Bool)

namespace Glob

def ofOctets (text : Octets) : Glob := text.map fun c => (c, true)

def text (g : Glob) : Octets := g.map (·.1)

/-- The text that a pattern without wildcards stands for. -/
def plain : Glob → Octets
  | ('\\', true) :: (c, _) :: g => c :: plain g
  | (c, _) :: g => c :: plain g
  | [] => []

/-- Some character of the pattern is special; an opening bracket only if it is closed. -/
def isActive : Glob → Bool
  | [] => false
  | ('\\', true) :: _ :: g => isActive g
  | (c, active) :: g =>
    active && (c = '*' || c = '?' || c = '[' && g.any fun d => d.1 = ']') || isActive g

def classes : List (String × (Char → Bool)) :=
  [("alpha", Char.isAlpha), ("digit", Char.isDigit), ("alnum", Char.isAlphanum),
    ("upper", Char.isUpper), ("lower", Char.isLower),
    ("space", fun c => c = ' ' || (9 ≤ c.toNat && c.toNat ≤ 13)),
    ("blank", fun c => c = ' ' || c = '\t'),
    ("punct", fun c => 33 ≤ c.toNat && c.toNat ≤ 126 && !c.isAlphanum),
    ("print", fun c => 32 ≤ c.toNat && c.toNat ≤ 126),
    ("graph", fun c => 33 ≤ c.toNat && c.toNat ≤ 126),
    ("cntrl", fun c => c.toNat < 32 || c.toNat = 127),
    ("xdigit", fun c => c.isDigit || ('a' ≤ c && c ≤ 'f') || ('A' ≤ c && c ≤ 'F'))]

/-- The test of a named class between brackets and colons, after the first bracket, with what
follows it. -/
def class? (g : Glob) : Option ((Char → Bool) × Glob) :=
  match g with
  | (':', _) :: g =>
    let name := (g.map (·.1)).takeWhile Char.isAlpha
    match classes.lookup (String.ofList name), g.drop name.length with
    | some test, (':', _) :: (']', _) :: rest => some (test, rest)
    | _, _ => none
  | _ => none

/-- One member of a set, where a backslash that is active stands before a plain character. -/
def member? : Glob → Option (Char × Glob)
  | ('\\', true) :: (c, _) :: g => some (c, g)
  | (c, _) :: g => some (c, g)
  | [] => none

/-- Whether a character is in a set between brackets, and what follows the set; nothing if the set
has no end. The first character is a member even if it is a closing bracket. -/
def members (x : Char) : Nat → (first hit : Bool) → Glob → Option (Bool × Glob)
  | 0, _, _, _ => none
  | n + 1, first, hit, g =>
    match g with
    | [] => none
    | (']', true) :: rest =>
      if first then range n hit ']' rest else some (hit, rest)
    | ('[', true) :: rest =>
      match class? rest with
      | some (test, rest) => members x n false (hit || test x) rest
      | none => range n hit '[' rest
    | g =>
      match member? g with
      | some (c, rest) => range n hit c rest
      | none => none
where
  /-- A member may be the lower end of a range. -/
  range (n : Nat) (hit : Bool) (low : Char) (rest : Glob) : Option (Bool × Glob) :=
    match rest with
    | ('-', true) :: (c, a) :: more =>
      if c = ']' && a then members x n false (hit || x = low) rest
      else match member? ((c, a) :: more) with
        | some (high, more) => members x n false (hit || (low ≤ x && x ≤ high)) more
        | none => none
    | rest => members x n false (hit || x = low) rest

/-- A set between brackets, after the opening one; a first mark turns it round. -/
def set? (x : Char) (g : Glob) : Option (Bool × Glob) :=
  match g with
  | ('!', true) :: rest => (members x (rest.length + 1) true false rest).map fun (b, r) => (!b, r)
  | rest => members x (rest.length + 1) true false rest

/-- The pattern covers the whole text. -/
def matchAll : Nat → Glob → Octets → Bool
  | 0, _, _ => false
  | _ + 1, [], cs => cs.isEmpty
  | n + 1, ('*', true) :: g, [] => matchAll n g []
  | n + 1, ('*', true) :: g, c :: cs => matchAll n g (c :: cs) || matchAll n (('*', true) :: g) cs
  | n + 1, ('?', true) :: g, _ :: cs => matchAll n g cs
  | n + 1, ('[', true) :: g, c :: cs =>
    match set? c g with
    | some (hit, rest) => hit && matchAll n rest cs
    | none => c = '[' && matchAll n g cs
  | n + 1, ('\\', true) :: (a, _) :: g, c :: cs => a = c && matchAll n g cs
  | n + 1, (a, _) :: g, c :: cs => a = c && matchAll n g cs
  | _ + 1, _ :: _, [] => false

def covers (g : Glob) (cs : Octets) : Bool := matchAll (2 * (g.length + cs.length) + 2) g cs

end Glob

end Worksheet.Host
