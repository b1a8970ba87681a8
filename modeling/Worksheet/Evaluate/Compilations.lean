-- Compilations at work at the same time. Each one reads its source, waits for the one lock of the
-- compiler, has code made under it while the warnings of the process go to its own list, and then
-- emits what has been made; the steps of different compilations come in any order.
import Worksheet.Compile.Capture
import Worksheet.Evaluate.Stepwise

namespace Worksheet

open Text (Bytes)

/-- What a compilation knows before it has code made: its options, and the source with its time of
last change. -/
structure CodeJob where
  settings : Settings
  source : Bytes
  modified : Int

def CodeJob.request (job : CodeJob) : CodeRequest :=
  ⟨job.source, job.settings.source.text, job.settings.optimize⟩

/-- How far a compilation has come. One that has finished knows its job, if its source has been
read. -/
inductive CompilationPhase (τ : Type)
  | outside
  | reading (settings : Settings) (rest : Steps τ (Except Fault (Bytes × Int)))
  | waiting (job : CodeJob)
  | capturing (job : CodeJob) (rest : Handling CodeProduct)
  | emitting (job : CodeJob) (rest : Steps τ (Except Fault (Report × Option Emission)))
  | finished (job : Option CodeJob) (result : Except Fault Report)

/-- A compilation: its command line, and what comes of a request for code. -/
structure Compilation (τ : Type) where
  arguments : List String
  generate : CodeRequest → CodeProduct
  phase : CompilationPhase τ

/-- The compilations, who of them holds the lock, the warnings of the process, and the site. -/
structure CompilerRoom (τ : Type) where
  calls : List (Compilation τ)
  holder : Option Nat
  desk : WarningDesk
  site : Site τ

namespace CompilationPhase

variable {τ : Type}

def isCapturing : CompilationPhase τ → Bool
  | capturing .. => true
  | _ => false

def isFinished : CompilationPhase τ → Bool
  | finished .. => true
  | _ => false

end CompilationPhase

namespace CompilerRoom

variable {τ : Type}

def setPhase (r : CompilerRoom τ) (i : Nat) (phase : CompilationPhase τ) : CompilerRoom τ :=
  { r with calls := r.calls.modify i fun c => { c with phase := phase } }

def setHolder (r : CompilerRoom τ) (holder : Option Nat) : CompilerRoom τ :=
  { r with holder := holder }

def setDesk (r : CompilerRoom τ) (desk : WarningDesk) : CompilerRoom τ := { r with desk := desk }

def setSite (r : CompilerRoom τ) (site : Site τ) : CompilerRoom τ := { r with site := site }

/-- The next step of one compilation. There is none while another one holds the lock that it waits
for, or when it has finished. -/
def step? (r : CompilerRoom τ) (i : Nat) : Option (CompilerRoom τ) :=
  match r.calls[i]? with
  | none => none
  | some c =>
    match c.phase with
    | .outside =>
      match Settings.ofArguments c.arguments with
      | .error e => some (r.setPhase i (.finished none (.error (.invocation (.settings e)))))
      | .ok s => some (r.setPhase i (.reading s (Assignment.readSource s.source)))
    | .reading _ (.done (.error fault)) => some (r.setPhase i (.finished none (.error fault)))
    | .reading s (.done (.ok (source, modified))) =>
      some (r.setPhase i (.waiting ⟨s, source, modified⟩))
    | .reading s (.act _ change next) =>
      some ((r.setPhase i (.reading s (next r.site))).setSite (change r.site))
    | .waiting job =>
      match r.holder with
      | some _ => none
      | none =>
        some ((r.setPhase i (.capturing job (Handling.capture (c.generate job.request)))).setHolder
          (some i))
    | .capturing job (.act _ change next) =>
      some ((r.setPhase i (.capturing job (next r.desk))).setDesk (change r.desk))
    | .capturing job (.done product) =>
      some ((r.setPhase i (.emitting job
        (Assignment.finish job.settings job.source job.modified product))).setHolder none)
    | .emitting job (.act _ change next) =>
      some ((r.setPhase i (.emitting job (next r.site))).setSite (change r.site))
    | .emitting job (.done result) =>
      some (r.setPhase i (.finished (some job) (result.map Prod.fst)))
    | .finished .. => none

/-- Compilations that have not begun. -/
def start (calls : List (List String × (CodeRequest → CodeProduct))) (desk : WarningDesk)
    (site : Site τ) : CompilerRoom τ :=
  ⟨calls.map fun (arguments, generate) => ⟨arguments, generate, .outside⟩, none, desk, site⟩

/-- Steps in a given order, when every one of them can be taken. -/
def steps? (r : CompilerRoom τ) (order : List Nat) : Option (CompilerRoom τ) :=
  order.foldlM step? r

/-- What any order of steps can lead to, when anything that `drift` allows may happen to the site
in between. Nobody else touches the warnings of the process. -/
inductive Reachable (drift : Site τ → Site τ → Prop) (first : CompilerRoom τ) :
    CompilerRoom τ → Prop
  | start : Reachable drift first first
  | step {r r' : CompilerRoom τ} {i : Nat} :
    Reachable drift first r → r.step? i = some r' → Reachable drift first r'
  | drift {r : CompilerRoom τ} {s : Site τ} :
    Reachable drift first r → drift r.site s → Reachable drift first (r.setSite s)

end CompilerRoom

end Worksheet
