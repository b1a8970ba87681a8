-- Redirections: what they do to descriptors, and how that is taken back.
import Worksheet.Host.Shell.Expansion

namespace Worksheet.Host.Shell

open Text (Octets)

/-- A descriptor that a redirection has changed, and where its old target is kept. -/
abbrev Kept := Nat × Option Nat

/-- Descriptors from here on are the shell's own. -/
def firstSpare : Nat := 10

def isOpen (descriptor : Nat) : Sh Bool := call (.isOpen descriptor)

def spareAfter : Nat → Nat → Sh Nat
  | 0, k => pure k
  | n + 1, k => do
    if ← isOpen k then spareAfter n (k + 1) else return k

/-- Keeps the target of a descriptor, unless it is kept already; the descriptor is free then. -/
def keep (kept : List Kept) (descriptor : Nat) : Sh (List Kept) := do
  if (kept.lookup descriptor).isSome then return kept
  else if ← isOpen descriptor then
    let slot ← spareAfter 1000 firstSpare
    let _ ← call (.duplicate descriptor slot)
    call (.close descriptor)
    return (descriptor, some slot) :: kept
  else return (descriptor, none) :: kept

def giveBack : List Kept → Sh Unit
  | [] => pure ()
  | (descriptor, slot) :: rest => do
    match slot with
    | some slot =>
      let _ ← call (.duplicate slot descriptor)
      call (.close slot)
    | none => call (.close descriptor)
    giveBack rest

/-- Old targets that are not wanted any more. -/
def forget : List Kept → Sh Unit
  | [] => pure ()
  | (_, some slot) :: rest => do
    call (.close slot)
    forget rest
  | (_, none) :: rest => forget rest

def openReason (e : Errno) : String :=
  if e = .noEntry || e = .notDirectory then "No such file" else e.text

def createReason (e : Errno) : String :=
  if e = .noEntry || e = .notDirectory then "Directory nonexistent" else e.text

/-- Moves an opened file to the descriptor that it is meant for. -/
def place (opened descriptor : Nat) : Sh Unit := do
  if opened ≠ descriptor then
    let _ ← call (.duplicate opened descriptor)
    call (.close opened)

/-- A redirection whose word has been expanded. -/
inductive Source
  | file (opening : Opening) (creating exclusive : Bool) (name : Octets)
  | copy (descriptor : Nat)
  | none
  | text (text : Octets)

/-- What a redirection takes its target from. -/
def sourceOf (direction : Direction) (target : Octets) : Sh Source := do
  match direction with
  | .input => return .file .read false false target
  | .output => return .file .fresh true ((← get).options.contains "noclobber") target
  | .replace => return .file .fresh true false target
  | .append => return .file .append true false target
  | .both => return .file .both true false target
  | .copy =>
    match target with
    | ['-'] => return .none
    | [c] => if c.isDigit then return .copy (c.toNat - '0'.toNat) else fatal "Syntax error: Bad fd number"
    | _ => fatal "Syntax error: Bad fd number"
  | .text => return .text target

/-- What a redirection leads to, once files are opened. -/
inductive Opened
  | descriptor (k : Nat)
  | copy (k : Nat)
  | none

/-- Opens what a redirection needs, or tells what is in the way. -/
def openSource : Source → Sh (Except String Opened)
  | .file opening creating exclusive name => do
    let refused (e : Errno) : Except String Opened :=
      .error (if creating then "cannot create " ++ name.spelled ++ ": " ++ createReason e
        else "cannot open " ++ name.spelled ++ ": " ++ openReason e)
    let isTaken ← if exclusive then do
        match ← call (.examine name) with
        | .ok (.regular ..) => pure true
        | _ => pure false
      else pure false
    if isTaken then return refused .alreadyExists
    match ← call (.opened name opening) with
    | .ok k => return .ok (.descriptor k)
    | .error e => return refused e
  | .copy k => return .ok (.copy k)
  | .none => return .ok .none
  | .text text => do
    let ((reading, writing) : Nat × Nat) ← call .pipe
    if text.length ≤ 4096 then
      let _ ← lift (Task.write writing text)
    else
      let _ ← lift (Task.fork (Task.toProgram do
        Task.call (.close reading)
        let _ ← Task.write writing text
        return 0))
    call (.close writing)
    return .ok (.descriptor reading)

/-- Makes a descriptor lead to what has been opened. -/
def settle (descriptor : Nat) : Opened → Sh (Option String)
  | .descriptor k => do
    place k descriptor
    return none
  | .copy k => do
    if k = descriptor then return none
    match ← call (.duplicate k descriptor) with
    | .ok () => return none
    | .error e => return some (toString k ++ ": " ++ e.text)
  | .none => do
    call (.close descriptor)
    return none

/-- The descriptor leads to where it is meant to already. -/
def Opened.isAt (descriptor : Nat) : Opened → Bool
  | .descriptor k => k = descriptor
  | .copy k => k = descriptor
  | .none => false

/-- Expands redirections. -/
def expandAll (subst : Substitution) : List Redirection → Sh (List (Nat × Source))
  | [] => pure []
  | .redirection descriptor direction w :: rest => do
    let target ← single subst (if direction = .text then .no else .first) w
    let source ← sourceOf direction target
    return (descriptor, source) :: (← expandAll subst rest)

/-- A descriptor that is opened just where it is meant to be was closed before. -/
def keepAt (keeping : Bool) (descriptor : Nat) (o : Opened) (kept : List Kept) : Sh (List Kept) := do
  if !keeping then return kept
  else if o.isAt descriptor then
    return if (kept.lookup descriptor).isSome then kept else
      match o with
      | .descriptor _ => (descriptor, none) :: kept
      | _ => kept
  else keep kept descriptor

/-- Carries out redirections one by one. What is wrong is the answer. -/
def redirectAll (keeping : Bool) : List (Nat × Source) → List Kept → Sh (Option String × List Kept)
  | [], kept => pure (none, kept)
  | (descriptor, source) :: rest, kept => do
    match ← openSource source with
    | .error wrong => return (some wrong, kept)
    | .ok o =>
      let kept ← keepAt keeping descriptor o kept
      match ← settle descriptor o with
      | some wrong => return (some wrong, kept)
      | none => redirectAll keeping rest kept

end Worksheet.Host.Shell
