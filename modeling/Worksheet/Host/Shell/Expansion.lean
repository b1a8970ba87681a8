-- The expansion of words: parameters, commands, sums and home directories.
import Worksheet.Host.Shell.Arithmetic
import Worksheet.Host.Shell.Fields

namespace Worksheet.Host.Shell

open Text (Octets)

/-- Carries out a command and gives what it prints. -/
abbrev Substitution := Command → Sh Octets

/-! ## Home directories -/

/-- The users of the system with their home directories. -/
def homes : List (String × String) :=
  [("root", "/root"), ("daemon", "/usr/sbin"), ("bin", "/bin"), ("sys", "/dev"), ("sync", "/bin"),
    ("games", "/usr/games"), ("man", "/var/cache/man"), ("lp", "/var/spool/lpd"),
    ("mail", "/var/mail"), ("news", "/var/spool/news"), ("uucp", "/var/spool/uucp"),
    ("proxy", "/bin"), ("www-data", "/var/www"), ("backup", "/var/backups"),
    ("list", "/var/list"), ("irc", "/run/ircd"), ("_apt", "/nonexistent"),
    ("nobody", "/nonexistent")]

/-- The home directory of a user; the shell's own one needs no name. -/
def homeOf (s : State) (user : Octets) : Option Octets :=
  if user.isEmpty then value? s (word "HOME")
  else (homes.lookup user.spelled).map Octets.ofString

/-- Where home directories are looked for in a word: nowhere, at its start, or also behind each
colon. -/
inductive Homes
  | no
  | first
  | each
  deriving DecidableEq

/-- A plain text with home directories in it. One that runs to the end of the text is looked for
only if the word ends there. -/
def withHomes (s : State) (each isLast : Bool) : Nat → (fresh : Bool) → Octets → Word
  | 0, _, text => [.text false text]
  | n + 1, fresh, text =>
    let literal : Word :=
      if !each then [.text false text]
      else
        let before := text.takeWhile (· ≠ ':')
        if before.length = text.length then [.text false text]
        else .text false (before ++ [':']) ::
          withHomes s each isLast n true (text.drop (before.length + 1))
    match fresh, text with
    | _, [] => []
    | true, '~' :: more =>
      let user := more.takeWhile fun c => c ≠ '/' && !(each && c = ':')
      let after := more.drop user.length
      if after.isEmpty && !isLast then literal
      else match homeOf s user with
        | some home => .text true home :: withHomes s each isLast n false after
        | none => literal
    | _, _ => literal

def placeHomes (s : State) (h : Homes) : (fresh : Bool) → Word → Word
  | _, [] => []
  | fresh, .text false t :: rest =>
    let isLast := rest.isEmpty
    if h = .no then .text false t :: rest
    else withHomes s (h = .each) isLast (t.length + 2) fresh t ++ placeHomes s h false rest
  | _, p :: rest => p :: placeHomes s h false rest

/-! ## Parameters -/

/-- A value as it stands in a word. -/
def given (quoted : Bool) (text : Octets) : List Piece :=
  [if quoted then .fixed true text else .loose text]

/-- All arguments as they stand in a word. -/
def arguments (quoted : Bool) (name : Octets) (s : State) : List Piece :=
  if name = ['*'] && quoted then [.fixed true ((separator s).intercalate s.arguments)]
  else [.listed quoted s.arguments]

/-- The value of a parameter, as it stands in a word. -/
def present (quoted : Bool) (name : Octets) (s : State) : List Piece :=
  if isList name then arguments quoted name s
  else given quoted ((parameter? s name).getD [])

/-- A parameter that is missing may be a failure. -/
def requireSet (name : Octets) : Sh Unit := do
  let s ← get
  if (parameter? s name).isNone && s.options.contains "nounset" then
    fatal (name.spelled ++ ": parameter not set")

/-- Trims a parameter. All arguments are one text; where they are to become fields of their own
there are boundaries in it. -/
def trimmed (quoted splits : Bool) (name : Octets) (change : Octets → Octets) (s : State) :
    List Piece :=
  let boundary := Char.ofNat 0
  if splits && (name = ['@'] || name = ['*'] && !quoted) then
    [.listed quoted (Text.split boundary (change ([boundary].intercalate s.arguments)))]
  else if isList name then
    given quoted (change ((separator s).intercalate s.arguments))
  else given quoted (change ((parameter? s name).getD []))

/-! ## Words -/

/-- The signal of an operation without a result. -/
def haltSignal : Nat := 8

/-- The processor stops the shell, which can do nothing about it. -/
def halt {α : Type} : Sh α := do
  call (.react haltSignal .usual)
  let own : Nat ← call .identity
  let _ ← call (.signal own haltSignal)
  fatal "stopped"

mutual

/-- What a part of a word becomes, where the word is to be split or is not. -/
def part (subst : Substitution) (splits : Bool) : Nat → Part → Sh (List Piece)
  | 0, _ => fatal "too deep"
  | _ + 1, .text quoted text => pure [.fixed quoted text]
  | _ + 1, .command quoted c => do return given quoted (← subst c)
  | n + 1, .arithmetic quoted w => do
    let text := joined (separator (← get)) (← parts subst false .no n w)
    let known := (← get).bindings.filterMap fun (name, v) => v.value.map fun x => (name, x)
    match Arithmetic.eval text known with
    | .error (.said message) => fatal message
    | .error .halted => halt
    | .ok (v, changes) =>
      changes.forM fun (name, x) => assign name x
      return given quoted (Octets.ofInt v)
  | n + 1, .parameter quoted name use => do
    match use with
    | .wrong => fatal "Bad substitution"
    | .value => do
      requireSet name
      return present quoted name (← get)
    | .length => do
      requireSet name
      return given quoted (Octets.ofNat ((parameter? (← get) name).getD []).length)
    | .instead sign orEmpty w =>
      let s ← get
      let missing := match parameter? s name with
        | none => true
        | some text => orEmpty && text.isEmpty
      let written : Sh (List Piece) := do
        let pieces ← parts subst splits .first n w
        return pieces.map fun p => match p with
          | .fixed false text => if quoted then .fixed true text else .loose text
          | p => p
      if sign = '+' then
        if missing then return [] else written
      else if !missing then return present quoted name s
      else if sign = '-' then written
      else
        let text := joined (separator s) (← parts subst false .first n w)
        if sign = '=' then
          if !isName name then fatal (name.spelled ++ ": bad variable name")
          assign name text
          return given quoted text
        else
          let message := if w.isEmpty then
              (if orEmpty then "parameter not set or null" else "parameter not set")
            else text.spelled
          fatal (name.spelled ++ ": " ++ message)
    | .trim atEnd longest w => do
      requireSet name
      let pattern := patternOf (separator (← get)) (← parts subst false .first n w)
      return trimmed quoted splits name (trim atEnd longest pattern) (← get)

def parts (subst : Substitution) (splits : Bool) (h : Homes) : Nat → Word → Sh (List Piece)
  | 0, _ => fatal "too deep"
  | n + 1, w => do
    let pieces ← (placeHomes (← get) h true w).mapM (part subst splits n)
    return pieces.flatten

end

/-- How deep a word can be expanded. -/
def wordDepth : Nat := 1000000

/-- The fields of a word. -/
def fields (subst : Substitution) (w : Word) : Sh (List Octets) := do
  let pieces ← parts subst true .first wordDepth w
  let names ← (fieldsOf (separators (← get)) pieces).mapM namesOf
  return names.flatten

/-- A word as one text. -/
def single (subst : Substitution) (h : Homes) (w : Word) : Sh Octets := do
  let pieces ← parts subst false h wordDepth w
  return joined (separator (← get)) pieces

/-- A word as a pattern. -/
def pattern (subst : Substitution) (w : Word) : Sh Glob := do
  let pieces ← parts subst false .first wordDepth w
  return patternOf (separator (← get)) pieces

/-- The words of a command that take assignments are not split where they are such. -/
def argumentFields (subst : Substitution) (assigning : Bool) (w : Word) : Sh (List Octets) := do
  match if assigning then assignment? w else none with
  | some (name, value) => return [name ++ '=' :: (← single subst .each value)]
  | none => fields subst w

end Worksheet.Host.Shell
