-- The shell as a program: its command line, and where its script comes from.
import Worksheet.Host.Shell.Run

namespace Worksheet.Host.Shell

open Text (Octets)

/-- The state of a shell before it has looked at anything. -/
def initial (name : Octets) (environment : Environment) : State where
  name := name
  arguments := []
  bindings := environment.filterMap fun (k, v) =>
    if isName k then some (k, ⟨some v, true, false⟩) else none
  functions := []
  aliases := []
  status := 0
  process := 0
  lastJob := none
  jobs := []
  traps := []
  pending := []
  options := []
  loops := 0
  line := 0
  command := none
  tested := false
  unprinted := false
  substituted := 0
  hidden := []
  calls := 0
  held := none
  located := []
  optionIndex := 1
  optionOffset := 0
  directory := []
  deaf := []
  known := []

/-- Variables that every shell has. -/
def ownVariables : List (String × String) :=
  [("IFS", " \t\n"), ("OPTIND", "1"), ("PS1", "# "), ("PS2", "> "), ("PS4", "+ ")]

/-- The directory that the environment tells of counts if it is the one that the shell is in. -/
def startingDirectory : Sh Octets := do
  let place : Octets ← call .whereabouts
  match value? (← get) (word "PWD") with
  | some text =>
    if text.head? = some '/' then
      match ← call (.resolve text) with
      | .ok found => return if found = place then text else place
      | .error _ => return place
    else return place
  | none => return place

/-- Looks at the process and the directory. -/
def prepare : Sh Unit := do
  let own : Nat ← call .identity
  let parent : Nat ← call .parent
  modify fun s => { s with process := own }
  ownVariables.forM fun (name, value) => assign (word name) (word value)
  assign (word "PPID") (Octets.ofNat parent)
  noteDirectory (← startingDirectory) none

/-- The script comes from the input. -/
def runInput : Sh Unit := do
  let text ← lift (Task.readAll 0)
  modify fun s => { s with line := 1 }
  let _ ← script Task.limit false false (some text) (.ofText text 1 [])

/-- The script is a file. -/
def runFile (file : Octets) (arguments : List Octets) : Sh Unit := do
  let text ← match ← lift (Tools.readInput file) with
    | .ok text => pure text
    | .error .isDirectory => pure []
    | .error e => fatal ("cannot open " ++ file.spelled ++ ": " ++ openReason e)
  modify fun s => { s with name := file, line := 1 }
  setArguments arguments
  let _ ← script Task.limit false false (some text) (.ofText text 1 [])

/-- Reads the command line and does what it says. -/
def carryOut (words : List Octets) : Sh Unit := do
  let settings ← readSettings true (words.length + 1) false words
  let fromInput := (← get).options.contains "stdin"
  if settings.inWords then
    match settings.words with
    | [] => fatal "-c requires an argument"
    | text :: rest =>
      modify fun s => { s with name := rest.headD s.name, line := 1 }
      setArguments (rest.drop 1)
      let _ ← evalText Task.limit (!fromInput) text
      if fromInput then runInput
  else match settings.words with
    | [] =>
      turn "stdin" true
      runInput
    | file :: rest =>
      if fromInput then
        setArguments (file :: rest)
        runInput
      else runFile file rest

def start (words : List Octets) : Sh Nat := do
  let _ ← attempt do
    prepare
    carryOut words
  finish Task.limit

/-- The program of the shell; its first argument is its own name. -/
def program (arguments : List Octets) (environment : Environment) : Program :=
  start (arguments.drop 1) (initial (arguments.headD (word "sh")) environment) fun r =>
    .ended (match r.1 with
      | .ok code => code
      | .error _ => r.2.status)

end Worksheet.Host.Shell
