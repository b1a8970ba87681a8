-- The warnings of the process. One state says which warnings are shown and where they go, and all
-- that is at work shares it. A compilation puts a state of its own in the place of it while code is
-- made, keeps the warnings that it is shown, and then puts the old state back.
import Worksheet.Compile.Bytecode
import Worksheet.Evaluate.Script

namespace Worksheet

open Text (Bytes)

/-! ## The state -/

/-- What becomes of a warning: it is shown, or dropped, or raised as a fault of the source. -/
inductive WarningAction
  | shown
  | dropped
  | raised
  deriving DecidableEq, Repr

structure WarningFilter where
  concerns : CodeWarning → Bool
  action : WarningAction

/-- Who gets the warnings that are shown: a function that writes them out, or a list that keeps
them. -/
inductive WarningReceiver
  | writer (name : String)
  | list (number : Nat)
  deriving DecidableEq, Repr

/-- The first filter that concerns a warning decides about it. A hook gets what is shown in the
place of the receiver. -/
structure WarningState where
  filters : List WarningFilter
  hook : Option WarningReceiver
  receiver : WarningReceiver

/-- The state of the process, and all lists that have been made to keep warnings. -/
structure WarningDesk where
  state : WarningState
  lists : List (List CodeWarning)

namespace WarningState

/-- A warning that no filter concerns is shown. -/
def actionOn (s : WarningState) (w : CodeWarning) : WarningAction :=
  ((s.filters.find? fun f => f.concerns w).map WarningFilter.action).getD .shown

end WarningState

namespace WarningDesk

/-- A warning that is shown goes to the hook or to the receiver. -/
def deliver (d : WarningDesk) (w : CodeWarning) : WarningDesk :=
  match d.state.hook.getD d.state.receiver with
  | .writer _ => d
  | .list number => { d with lists := d.lists.modify number (· ++ [w]) }

end WarningDesk

/-! ## Work on the state -/

/-- Work on the warnings of the process. -/
abbrev Handling (α : Type) := Script Unit WarningDesk α

namespace Handling

variable {α : Type}

def look (f : WarningDesk → α) : Handling α := .ask () fun d => (f d, d)

def change (f : WarningState → WarningState) : Handling Unit :=
  .ask () fun d => ((), { d with state := f d.state })

/-- Makes a list that keeps nothing yet. -/
def newList : Handling Nat := .ask () fun d => (d.lists.length, { d with lists := d.lists ++ [[]] })

def setReceiver (receiver : WarningReceiver) : Handling Unit :=
  change fun s => { s with receiver := receiver }

def setHook (hook : Option WarningReceiver) : Handling Unit :=
  change fun s => { s with hook := hook }

def setFilters (filters : List WarningFilter) : Handling Unit :=
  change fun s => { s with filters := filters }

/-- Has all warnings shown, whatever the other filters say. -/
def showAll : Handling Unit :=
  change fun s => { s with filters := ⟨fun _ => true, .shown⟩ :: s.filters }

/-- Saves the state, and has all warnings go to a list of its own. -/
def enter : Handling (WarningState × Nat) :=
  (look fun d => d.state.filters).bind fun filters =>
    (look fun d => d.state.hook).bind fun hook =>
      (look fun d => d.state.receiver).bind fun receiver =>
        newList.bind fun number =>
          (setReceiver (.list number)).bind fun _ =>
            (setHook none).bind fun _ =>
              showAll.bind fun _ => .done (⟨filters, hook, receiver⟩, number)

/-- Issues a warning. If it is raised, the work that issued it ends with a fault. -/
def issue (w : CodeWarning) : Handling (Option Fault) :=
  (look fun d => d.state.actionOn w).bind fun
    | .dropped => .done none
    | .raised => .done (some (.source ⟨some w.message, none, some w.line, none⟩))
    | .shown => .ask () fun d => (none, d.deliver w)

/-- Issues warnings in order, and then comes to a result. -/
def issueAll (result : Except Fault Bytes) : List CodeWarning → Handling (Except Fault Bytes)
  | [] => .done result
  | w :: rest => (issue w).bind fun
    | some fault => .done (.error fault)
    | none => issueAll result rest

/-- Puts a saved state back. -/
def leave (saved : WarningState) : Handling Unit :=
  (setFilters saved.filters).bind fun _ =>
    (setHook saved.hook).bind fun _ => setReceiver saved.receiver

/-- Code is made, with a list that keeps the warnings of it. The state is put back whether code has
been made or a fault has come up. -/
def capture (p : CodeProduct) : Handling CodeProduct :=
  enter.bind fun (saved, number) =>
    (issueAll p.result p.warnings).bind fun result =>
      (look fun d => d.lists[number]?.getD []).bind fun warnings =>
        (leave saved).map fun _ => ⟨warnings, result⟩

end Handling

end Worksheet
