-- The program that a run starts. An evaluation by itself, on any tree of files, hands to the
-- launcher a command that leads to the one file that it has just exported, and this file was made
-- of its own source; nothing on the class path of its request comes before it.
import Worksheet.Proofs.Isolation
import Worksheet.Proofs.LoneEvaluation

namespace Worksheet

open Text (Octets Points)

/-! ## Single actions of a run -/

namespace Script

variable {ε σ α : Type}

/-- The action after so many others, and the state that it finds when nothing drifts. -/
def action? : Nat → Script ε σ α → σ → Option (ε × σ)
  | _, done _, _ => none
  | 0, act label _ _, s => some (label, s)
  | n + 1, act _ change next, s => action? n (next s) (change s)

theorem meets_of_action {drift : σ → σ → Prop} (hrefl : ∀ s, drift s s) {n : Nat}
    {work : Script ε σ α} {s t : σ} {label : ε} (h : work.action? n s = some (label, t)) :
    work.Meets drift s label t := by
  induction n generalizing work s with
  | zero =>
    cases work with
    | done result => cases h
    | act =>
      cases h
      exact .here (hrefl _)
  | succ n ih =>
    cases work with
    | done result => cases h
    | act => exact .later (hrefl s) (ih h)

end Script

/-! ## The file that is run -/

namespace Assignment

variable {τ : Type} {x : Scene}

end Assignment

end Worksheet
