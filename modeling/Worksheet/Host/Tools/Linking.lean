-- Tools that make links, and find out where they lead.
import Worksheet.Host.Tools.Copying

namespace Worksheet.Host.Tools

open Text (Octets)

/-! ## Linking -/

/-- A way from one place to another: up to what both have in common, and down from there. -/
def wayFrom (directory target : Octets) : Octets :=
  let partsOf (p : Octets) : List Octets := (Text.split '/' p).filter fun c => !c.isEmpty
  let rec shared : List Octets → List Octets → Nat
    | a :: as, b :: bs => if a = b then shared as bs + 1 else 0
    | _, _ => 0
  let (a, b) := (partsOf directory, partsOf target)
  let n := shared a b
  let parts := List.replicate (a.length - n) (word "..") ++ b.drop n
  if parts.isEmpty then ['.'] else ['/'].intercalate parts

/-- The target of a link that is to be seen from the directory of the link. -/
def relativeTarget (source link : Octets) : Task Octets := do
  match ← Task.call (.resolve (directoryName link)), ← Task.call (.resolve source) with
  | .ok directory, .ok place => return wayFrom directory place
  | _, _ => return source

/-- How links are made. -/
structure LinkManner where
  symbolic : Bool
  backups : Backups
  suffix : Octets

/-- What a link that is to be made finds at its target. -/
inductive LinkTarget
  | free
  | taken (backup : Option Octets)
  | kept
  | refused

/-- Makes way for a link to a target that is there. -/
def clearLink (i : Invocation) (o : Options) (m : LinkManner) (source target : Octets) :
    Task LinkTarget := do
  let refuse (message : String) : Task LinkTarget := do
    complain i message
    return .refused
  match ← Task.call (.inspect target) with
  | .error .noEntry => return .free
  | .error e => refuse ("failed to access " ++ inPlainQuotes target ++ ": " ++ e.text)
  | .ok .directory => refuse (bare target ++ ": cannot overwrite directory")
  | .ok _ =>
    let names ← Copying.namesOf m.symbolic source
    let same := !names.isEmpty && names = (← Copying.namesOf false target)
    let careful := (o.lastOf ["f", "i"] = some "f" || (!m.symbolic && m.backups ≠ .none)) &&
      (m.backups = .none || !m.symbolic)
    if careful && same && (names.length = 1 || (← Copying.isSameEntry false source target)) then
      refuse (inPlainQuotes source ++ " and " ++ inPlainQuotes target ++ " are the same file")
    else
      if o.lastOf ["f", "i"] = some "i" then
        if !(← agrees i ("replace " ++ inPlainQuotes target)) then return .kept
      if m.backups = .none then return .taken none
      let backup : Octets ← m.backups.nameFor m.suffix target
      match ← Task.call (.rename target backup) with
      | .ok () => return .taken (some backup)
      | .error .noEntry => return .free
      | .error e => refuse ("cannot backup " ++ inPlainQuotes target ++ ": " ++ e.text)

/-- Makes one link. -/
def linkOne (i : Invocation) (o : Options) (m : LinkManner) (source target : Octets) :
    Task Bool := do
  let follows : Bool := o.lastOf ["L", "P"] = some "L"
  let sourceKind ← if follows then Task.call (.examine source) else Task.call (.inspect source)
  match m.symbolic, sourceKind with
  | false, .error e => told i ("failed to access " ++ inPlainQuotes source) (.error e)
  | false, .ok .directory =>
    complain i (bare source ++ ": hard link not allowed for directory")
    return false
  | _, _ =>
    let source ← if o.has "r" then relativeTarget source target else pure source
    let found ← if o.has "f" || o.has "i" || m.backups ≠ .none then clearLink i o m source target
      else pure .free
    let replaces := match found with
      | .taken _ => true
      | _ => false
    let backup := match found with
      | .taken b => b
      | _ => none
    let make : Task (Except Errno Unit) := do
      if m.symbolic then Copying.makeLink replaces source target
      else
        let place : Octets ← match follows, ← Task.call (.resolve source) with
          | true, .ok place => pure place
          | _, _ => pure source
        match ← Task.call (.addName place target) with
        | .error .alreadyExists =>
          if !replaces then return .error .alreadyExists
          else
            let _ ← Task.call (.remove target)
            Task.call (.addName place target)
        | r => return r
    match found with
    | .refused => return false
    | .kept => return true
    | _ =>
      match ← make with
      | .ok () =>
        announce i o ((match backup with
          | some b => inPlainQuotes b ++ " ~ "
          | none => "") ++ inPlainQuotes target ++ (if m.symbolic then " -> " else " => ") ++
          inPlainQuotes source)
        return true
      | .error e =>
        let short := e = .alreadyExists || e = .noSpace
        complain i ("failed to create " ++ (if m.symbolic then "symbolic link " else "hard link ") ++
          inPlainQuotes target ++
          (if m.symbolic then
            (if e ≠ .nameTooLong && !source.isEmpty then "" else " -> " ++ inPlainQuotes source)
          else if short then "" else " => " ++ inPlainQuotes source) ++ ": " ++ e.text)
        match backup with
        | some b =>
          let _ ← Task.call (.rename b target)
        | none => pure ()
        return false

/-- Makes links. A single operand is linked under its own name where the tool works. -/
def ln : Tool := fun i => do
  let o ← options (grammar "bdfFiLnPrst:vS:T" [("backup?", "b"), ("force", "f"),
    ("interactive", "i"), ("logical", "L"), ("no-dereference", "n"), ("no-target-directory", "T"),
    ("physical", "P"), ("relative", "r"), ("symbolic", "s"), ("suffix=", "S"),
    ("target-directory=", "t"), ("verbose", "v")]) i
  if o.operands.isEmpty then misuse i 1 "missing file operand"
  if o.has "r" && !o.has "s" then fail i 1 "cannot do --relative without --symbolic"
  let m : LinkManner := ⟨o.has "s", ← Backups.chosen i o, Backups.suffix i o⟩
  let o := match o.operands, o.has "t" || o.has "T" with
    | [_], false => o.choose "t" (some ['.'])
    | _, _ => o
  match ← Copying.destination i o (!o.has "n") with
  | .into directory names =>
    return codeOf (← forEach (fun name =>
      linkOne i o m name (under directory (baseName name))) names)
  | .onto source target => return codeOf (← linkOne i o m source target)

/-! ## Places -/

/-- Walks down components as they are written. -/
def walkWords : List Octets → List Octets → List Octets
  | found, [] => found
  | found, c :: rest =>
    if c.isEmpty || c = word "." then walkWords found rest
    else if c = word ".." then walkWords found.dropLast rest
    else walkWords (found ++ [c]) rest

def joinPlace (parts : List Octets) : Octets := '/' :: ['/'].intercalate parts

/-- The place of a name of which any component may be missing. -/
def anyPlace : Nat → Octets → Task Octets
  | 0, name => pure name
  | n + 1, name => do
    match ← Task.call (.resolve name) with
    | .ok place => return place
    | .error _ =>
      let parts := Text.split '/' (Way.trimSlashes name)
      let above : Octets := ['/'].intercalate parts.dropLast
      let above := if parts.length = 1 then ['.'] else if above.isEmpty then ['/'] else above
      let place ← anyPlace n above
      return joinPlace (walkWords ((Text.split '/' place).filter fun c => !c.isEmpty)
        (parts.drop (parts.length - 1)))

/-- How much of a name has to be there: all of it, all but its last component, or nothing. -/
inductive Presence
  | all
  | almost
  | none
  deriving DecidableEq, Repr

def placeOf (p : Presence) (name : Octets) : Task (Except Errno Octets) := do
  if name.isEmpty && p ≠ .none then return .error .noEntry
  match p with
  | .none => return .ok (← anyPlace (name.length + 1) name)
  | .almost => Task.call (.resolve (if (← isDirectory name) then name else Way.trimSlashes name))
  | .all =>
    match ← Task.call (.examine name) with
    | .error e => return .error e
    | .ok _ => Task.call (.resolve name)

/-- What a link leads to: its text, or a place that no link leads on from. -/
def readlink : Tool := fun i => do
  let o ← options (grammar "efmnqsvz" [("canonicalize", "f"), ("canonicalize-existing", "e"),
    ("canonicalize-missing", "m"), ("no-newline", "n"), ("quiet", "q"), ("silent", "s"),
    ("verbose", "v"), ("zero", "z")]) i
  needOperands i o 1
  let ended : Octets := if o.has "n" && o.operands.length = 1 then [] else [lineMark o]
  return codeOf (← forEach (fun name => do
    let found ← match o.lastOf ["e", "f", "m"] with
      | some "e" => placeOf .all name
      | some "f" => placeOf .almost name
      | some _ => placeOf .none name
      | none => Task.call (.readLink name)
    match found with
    | .ok place =>
      put i 1 (place ++ ended)
      return true
    | .error e =>
      if o.has "v" then complainOf i name e
      return false) o.operands)

/-- The place that a name leads to. -/
def realpath : Tool := fun i => do
  let o ← options (grammar "eLmPqsz" [("canonicalize-existing", "e"), ("canonicalize-missing", "m"),
    ("logical", "L"), ("physical", "P"), ("quiet", "q"), ("strip", "s"), ("no-symlinks", "s"),
    ("relative-to=", "t"), ("relative-base=", "b"), ("zero", "z")]) i
  needOperands i o 1
  let presence : Presence := match o.lastOf ["e", "m"] with
    | some "e" => .all
    | some _ => .none
    | none => .almost
  let here : Octets ← Task.call .whereabouts
  let partsOf (p : Octets) : List Octets := (Text.split '/' p).filter fun c => !c.isEmpty
  let written (name : Octets) : Octets :=
    joinPlace (walkWords (if name.head? = some '/' then [] else partsOf here) (Text.split '/' name))
  let find (name : Octets) : Task (Except Errno Octets) := do
    if o.has "s" then
      if name.isEmpty then return .error .noEntry else return .ok (written name)
    else if o.has "L" then placeOf presence (written name)
    else placeOf presence name
  let known (key : String) : Task (Option Octets) := do
    match o.value? key with
    | none => return none
    | some name =>
      match ← find name with
      | .ok place => return some place
      | .error e => fail i 1 (bare name ++ ": " ++ e.text)
  let start ← known "t"
  let base ← known "b"
  return codeOf (← forEach (fun name => do
    match ← find name with
    | .error e =>
      if !o.has "q" then complainOf i name e
      return false
    | .ok place =>
      let isIn (b p : Octets) : Bool := (partsOf b).isPrefixOf (partsOf p)
      let shown := match start, base with
        | none, none => place
        | some t, none => wayFrom t place
        | t, some b =>
          if isIn b place && t.all (isIn b) then wayFrom (t.getD b) place else place
      put i 1 (shown ++ [lineMark o])
      return true) o.operands)

end Worksheet.Host.Tools
