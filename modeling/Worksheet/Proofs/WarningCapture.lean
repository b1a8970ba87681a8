-- Compilations that are at work at the same time do not mix up their warnings. Whoever captures
-- warnings holds the lock, so what is left of its work comes to its own warnings and to the old
-- state of the process, and nobody else touches the state until the lock is free again.
import Worksheet.Evaluate.Compilations
import Worksheet.Proofs.CompilerRuns
import Worksheet.Proofs.StepwiseRuns

namespace Worksheet

open Text (Bytes)

/-! ## Ends of work -/

namespace Script

variable {ε σ α β : Type} {Q : α → Prop} {R : β → Prop}

/-- Whatever states the work finds, it ends in a result of this kind. -/
inductive Ends (Q : α → Prop) : Script ε σ α → Prop
  | done {result : α} : Q result → Ends Q (Script.done result)
  | act {label : ε} {change : σ → σ} {next : σ → Script ε σ α} :
    (∀ s, Ends Q (next s)) → Ends Q (Script.act label change next)

theorem Ends.result {result : α} (h : (Script.done result : Script ε σ α).Ends Q) : Q result := by
  cases h with
  | done h => exact h

theorem Ends.next {label : ε} {change : σ → σ} {next : σ → Script ε σ α}
    (h : (Script.act label change next).Ends Q) (s : σ) : (next s).Ends Q := by
  cases h with
  | act h => exact h s

theorem Ends.bind {work : Script ε σ α} {f : α → Script ε σ β} (h : work.Ends Q)
    (hf : ∀ a, Q a → (f a).Ends R) : (work.bind f).Ends R := by
  induction h with
  | done h => exact hf _ h
  | act _ ih => exact .act ih

theorem ends_true (work : Script ε σ α) : work.Ends fun _ => True := by
  induction work with
  | done result => exact .done trivial
  | act label change next ih => exact .act ih

/-- Work that goes on when no fault has come up ends with the fault, or as what follows ends. -/
theorem ends_andThen {work : Script ε σ (Except Fault α)} {f : α → Script ε σ (Except Fault β)}
    {R : Except Fault β → Prop} (hfault : ∀ fault, R (.error fault)) (hf : ∀ a, (f a).Ends R) :
    (work.andThen f).Ends R := by
  unfold andThen
  apply Ends.bind (ends_true work)
  intro r _
  cases r with
  | error fault => exact .done (hfault fault)
  | ok result => exact hf result

end Script

/-! ## Capturing alone -/

namespace Handling

variable {α : Type} {d : WarningDesk} {number : Nat}

@[simp]
theorem run_look (f : WarningDesk → α) (d : WarningDesk) : (look f).run d = (f d, d) := rfl

/-- Every warning is shown, and goes to the list with this number. -/
structure Keeps (d : WarningDesk) (number : Nat) : Prop where
  shown : ∀ w, d.state.actionOn w = .shown
  unhooked : d.state.hook = none
  receiver : d.state.receiver = .list number

theorem Keeps.deliver (h : Keeps d number) (w : CodeWarning) :
    d.deliver w = { d with lists := d.lists.modify number (· ++ [w]) } := by
  unfold WarningDesk.deliver
  rw [h.unhooked, h.receiver]
  rfl

theorem Keeps.run_issue (h : Keeps d number) (w : CodeWarning) :
    (issue w).run d = (none, { d with lists := d.lists.modify number (· ++ [w]) }) := by
  unfold issue
  simp only [Script.run_bind, run_look, h.shown w, Script.run_ask, h.deliver w]

/-- All warnings are kept in their order, and no result is changed. -/
theorem Keeps.run_issueAll (h : Keeps d number) (result : Except Fault Bytes)
    (warnings : List CodeWarning) : (issueAll result warnings).run d =
      (result, { d with lists := d.lists.modify number (· ++ warnings) }) := by
  induction warnings generalizing d with
  | nil =>
    have hsame : d.lists.modify number (· ++ []) = d.lists := by
      simp only [List.append_nil]
      exact List.modify_id number d.lists
    rw [hsame]
    rfl
  | cons w rest ih =>
    have hnext : Keeps { d with lists := d.lists.modify number (· ++ [w]) } number :=
      ⟨h.shown, h.unhooked, h.receiver⟩
    rw [issueAll, Script.run_bind, h.run_issue w]
    dsimp only
    rw [ih hnext]
    dsimp only
    rw [List.modify_modify_eq]
    have hboth : (fun kept : List CodeWarning => kept ++ rest) ∘ (fun kept => kept ++ [w]) =
        fun kept => kept ++ w :: rest := by
      funext kept
      simp
    rw [hboth]

theorem keeps_entered (d : WarningDesk) : Keeps (enter.run d).2 d.lists.length := by
  refine ⟨?_, rfl, rfl⟩
  intro w
  rfl

theorem modify_concat (lists : List (List CodeWarning)) (f : List CodeWarning → List CodeWarning)
    (kept : List CodeWarning) : (lists ++ [kept]).modify lists.length f = lists ++ [f kept] := by
  induction lists with
  | nil => rfl
  | cons first rest ih =>
    rw [List.cons_append, List.length_cons, List.modify_succ_cons, ih, List.cons_append]

/-- By itself a capture finds the warnings that have been issued in it, all of them in order, and
leaves the state of the process as it was. -/
theorem run_capture (p : CodeProduct) (d : WarningDesk) :
    (capture p).run d = (p, ⟨d.state, d.lists ++ [p.warnings]⟩) := by
  have henter : (enter.run d).1 = (d.state, d.lists.length) := rfl
  have hlists : (enter.run d).2.lists = d.lists ++ [[]] := rfl
  unfold capture
  rw [Script.run_bind, henter]
  dsimp only
  rw [Script.run_bind, (keeps_entered d).run_issueAll]
  dsimp only
  rw [hlists, modify_concat, List.nil_append, Script.run_bind, run_look]
  dsimp only
  rw [List.getElem?_concat_length]
  rfl

end Handling

/-! ## What a compilation may tell -/

namespace CodeJob

/-- A report tells the warnings of what has been made for the job, and after them the fault in the
source if there is one. -/
def Told (job : CodeJob) (product : CodeProduct) (report : Report) : Prop :=
  ∃ told last, Bytecode.TellsWarnings job.settings product.warnings told ∧
    report.diagnostics = told ++ last ∧
    ((∃ code, product.result = .ok code) ∧ last = [] ∨
      ∃ fault d, product.result = .error (.source fault) ∧ Bytecode.TellsFault fault d ∧ last = [d])

theorem told_of_conclude {job : CodeJob} {product : CodeProduct} {diagnostics : List Diagnostic}
    {code : Option Bytes} (h : Bytecode.conclude job.settings product = .ok (diagnostics, code))
    {report : Report} (hreport : report.diagnostics = diagnostics) : job.Told product report := by
  have htold : Bytecode.TellsWarnings job.settings product.warnings
      (Bytecode.warningDiagnostics job.settings product.warnings) :=
    Bytecode.tellsWarnings_iff.mpr rfl
  unfold Bytecode.conclude at h
  dsimp only at h
  split at h
  · next code' hresult =>
    cases h
    exact ⟨_, [], htold, by rw [hreport, List.append_nil], Or.inl ⟨⟨code', hresult⟩, rfl⟩⟩
  · next fault hresult =>
    cases h
    exact ⟨_, _, htold, hreport, Or.inr ⟨fault, _, hresult, Bytecode.tellsFault fault, rfl⟩⟩
  · split at h <;> cases h

/-- What may come of emitting: a report that tells what it should, or a fault. -/
def MayEnd (job : CodeJob) (product : CodeProduct) (r : Except Fault (Report × Option Emission)) :
    Prop :=
  ∀ report emission, r = .ok (report, emission) → job.Told product report

theorem mayEnd_error (job : CodeJob) (product : CodeProduct) (fault : Fault) :
    job.MayEnd product (.error fault) := by
  intro report emission hok
  cases hok

theorem mayEnd_ok {job : CodeJob} {product : CodeProduct} {report : Report}
    (h : job.Told product report) (emission : Option Emission) :
    job.MayEnd product (.ok (report, emission)) := by
  intro report' emission' hok
  cases hok
  exact h

variable {τ : Type}

theorem ends_emit {job : CodeJob} {product : CodeProduct} {report : Report}
    (hreport : job.Told product report) (data : Bytes) :
    (Assignment.emit job.settings report data : Steps τ _).Ends (job.MayEnd product) := by
  unfold Assignment.emit
  split
  · apply Script.Ends.done
    intro report' emission hok
    obtain ⟨artifacts, -, heq⟩ := exists_of_map_ok hok
    cases heq
    exact hreport
  · apply Script.ends_andThen (mayEnd_error job product)
    intro _
    exact .done (mayEnd_ok hreport _)

/-- Whatever else happens on the site, the report of a job tells what has been made for it. -/
theorem ends_finish (job : CodeJob) (product : CodeProduct) :
    (Assignment.finish job.settings job.source job.modified product : Steps τ _).Ends
      (job.MayEnd product) := by
  unfold Assignment.finish
  cases hconclude : Bytecode.conclude job.settings product with
  | error fault => exact .done (mayEnd_error job product fault)
  | ok concluded =>
    obtain ⟨diagnostics, code⟩ := concluded
    have htold : ∀ report : Report, report.diagnostics = diagnostics → job.Told product report :=
      fun report hreport => told_of_conclude hconclude hreport
    cases code with
    | none => exact .done (mayEnd_ok (htold _ rfl) none)
    | some code =>
      dsimp only
      split
      · exact .done (mayEnd_ok (htold _ rfl) none)
      · cases Bytecode.fileAt code job.source.length (Bytecode.secondsOf job.modified) with
        | error fault => exact .done (mayEnd_error job product fault)
        | ok data => exact ends_emit (htold _ rfl) data

end CodeJob

/-! ## Compilations in one room -/

namespace Compilation

variable {τ : Type} {c : Compilation τ} {first : WarningState} {desk desk' : WarningDesk}

/-- In this phase a compilation has done nothing wrong. The rest of a capture comes to its own
warnings and to the old state of the process. -/
def Sound (c : Compilation τ) (first : WarningState) (desk : WarningDesk) :
    CompilationPhase τ → Prop
  | .outside => True
  | .reading settings _ => Settings.ofArguments c.arguments = .ok settings
  | .waiting job => Settings.ofArguments c.arguments = .ok job.settings
  | .capturing job rest => Settings.ofArguments c.arguments = .ok job.settings ∧
      (rest.run desk).1 = c.generate job.request ∧ (rest.run desk).2.state = first
  | .emitting job rest => Settings.ofArguments c.arguments = .ok job.settings ∧
      rest.Ends (job.MayEnd (c.generate job.request))
  | .finished job? result => ∀ report, result = .ok report → ∃ job, job? = some job ∧
      Settings.ofArguments c.arguments = .ok job.settings ∧
        job.Told (c.generate job.request) report

/-- Only a compilation that captures depends on the warnings of the process. -/
theorem Sound.of_desk {p : CompilationPhase τ} (h : c.Sound first desk p)
    (hphase : p.isCapturing = false) : c.Sound first desk' p := by
  cases p with
  | capturing job rest => cases hphase
  | _ => exact h

theorem sound_failed (c : Compilation τ) (first : WarningState) (desk : WarningDesk)
    (fault : Fault) : c.Sound first desk (.finished none (.error fault)) := by
  intro report hok
  cases hok

end Compilation

namespace CompilerRoom

variable {τ : Type} {r r' : CompilerRoom τ} {i j : Nat} {c : Compilation τ}
  {first : WarningState}

/-- What a step of one compilation can be. -/
inductive Turn (r : CompilerRoom τ) (i : Nat) (c : Compilation τ) : CompilerRoom τ → Prop
  | refused (e : SettingsFault) :
    c.phase = .outside → Settings.ofArguments c.arguments = .error e →
    Turn r i c (r.setPhase i (.finished none (.error (.invocation (.settings e)))))
  | begins (settings : Settings) :
    c.phase = .outside → Settings.ofArguments c.arguments = .ok settings →
    Turn r i c (r.setPhase i (.reading settings (Assignment.readSource settings.source)))
  | reads (settings : Settings) (label : Event) (change : Site τ → Site τ)
      (next : Site τ → Steps τ (Except Fault (Bytes × Int))) :
    c.phase = .reading settings (.act label change next) →
    Turn r i c ((r.setPhase i (.reading settings (next r.site))).setSite (change r.site))
  | unreadable (settings : Settings) (fault : Fault) :
    c.phase = .reading settings (.done (.error fault)) →
    Turn r i c (r.setPhase i (.finished none (.error fault)))
  | waits (settings : Settings) (source : Bytes) (modified : Int) :
    c.phase = .reading settings (.done (.ok (source, modified))) →
    Turn r i c (r.setPhase i (.waiting ⟨settings, source, modified⟩))
  | takes (job : CodeJob) :
    c.phase = .waiting job → r.holder = none →
    Turn r i c ((r.setPhase i
      (.capturing job (Handling.capture (c.generate job.request)))).setHolder (some i))
  | captures (job : CodeJob) (label : Unit) (change : WarningDesk → WarningDesk)
      (next : WarningDesk → Handling CodeProduct) :
    c.phase = .capturing job (.act label change next) →
    Turn r i c ((r.setPhase i (.capturing job (next r.desk))).setDesk (change r.desk))
  | releases (job : CodeJob) (product : CodeProduct) :
    c.phase = .capturing job (.done product) →
    Turn r i c ((r.setPhase i (.emitting job
      (Assignment.finish job.settings job.source job.modified product))).setHolder none)
  | emits (job : CodeJob) (label : Event) (change : Site τ → Site τ)
      (next : Site τ → Steps τ (Except Fault (Report × Option Emission))) :
    c.phase = .emitting job (.act label change next) →
    Turn r i c ((r.setPhase i (.emitting job (next r.site))).setSite (change r.site))
  | ends (job : CodeJob) (result : Except Fault (Report × Option Emission)) :
    c.phase = .emitting job (.done result) →
    Turn r i c (r.setPhase i (.finished (some job) (result.map Prod.fst)))

theorem turn_of_step (h : r.step? i = some r') : ∃ c, r.calls[i]? = some c ∧ Turn r i c r' := by
  unfold step? at h
  cases hc : r.calls[i]? with
  | none => simp [hc] at h
  | some c =>
    refine ⟨c, rfl, ?_⟩
    simp only [hc] at h
    split at h
    · next hphase =>
      split at h
      · next hsettings =>
        cases h
        exact .refused _ hphase hsettings
      · next hsettings =>
        cases h
        exact .begins _ hphase hsettings
    · next hphase =>
      cases h
      exact .unreadable _ _ hphase
    · next hphase =>
      cases h
      exact .waits _ _ _ hphase
    · next hphase =>
      cases h
      exact .reads _ _ _ _ hphase
    · next hphase =>
      split at h
      · cases h
      · next hfree =>
        cases h
        exact .takes _ hphase hfree
    · next hphase =>
      cases h
      exact .captures _ _ _ _ hphase
    · next hphase =>
      cases h
      exact .releases _ _ hphase
    · next hphase =>
      cases h
      exact .emits _ _ _ _ hphase
    · next hphase =>
      cases h
      exact .ends _ _ hphase
    · cases h

/-! ## The lock and the state of the process -/

/-- Whoever captures holds the lock and has been right so far; while the lock is free, the state of
the process is the old one. -/
structure Untangled (first : WarningState) (r : CompilerRoom τ) : Prop where
  sound : ∀ {i : Nat} {c : Compilation τ}, r.calls[i]? = some c →
    c.Sound first r.desk c.phase
  holds : ∀ {i : Nat} {c : Compilation τ}, r.calls[i]? = some c →
    (c.phase.isCapturing = true ↔ r.holder = some i)
  present : ∀ {i : Nat}, r.holder = some i → ∃ c, r.calls[i]? = some c
  free : r.holder = none → r.desk.state = first

theorem calls_setPhase (r : CompilerRoom τ) (i j : Nat) (p : CompilationPhase τ) :
    (r.setPhase i p).calls[j]? =
      if i = j then r.calls[j]?.map fun c => { c with phase := p } else r.calls[j]? := by
  unfold setPhase
  rw [List.getElem?_modify]
  by_cases h : i = j <;> simp [h]

namespace Untangled

/-- The others stay sound when a compilation goes on to a phase, takes or gives the lock, and
changes the desk, as long as none of them captures or the desk stays the same. -/
theorem changes (h : Untangled first r) (hc : r.calls[i]? = some c) {p : CompilationPhase τ}
    (holder : Option Nat) {desk : WarningDesk} (hsound : c.Sound first desk p)
    (hholds : p.isCapturing = true ↔ holder = some i)
    (hsame : ∀ j, j ≠ i → (holder = some j ↔ r.holder = some j))
    (hdesk : desk = r.desk ∨ ∀ j, j ≠ i → r.holder ≠ some j)
    (hfree : holder = none → desk.state = first) :
    Untangled first (((r.setPhase i p).setHolder holder).setDesk desk) := by
  have hcalls : ∀ {j : Nat} {c' : Compilation τ}, (r.setPhase i p).calls[j]? = some c' →
      j = i ∧ c' = { c with phase := p } ∨ j ≠ i ∧ r.calls[j]? = some c' := by
    intro j c' hc'
    rw [calls_setPhase] at hc'
    by_cases hj : i = j
    · subst hj
      rw [if_pos rfl, hc] at hc'
      exact Or.inl ⟨rfl, (Option.some.inj hc').symm⟩
    · rw [if_neg hj] at hc'
      exact Or.inr ⟨Ne.symm hj, hc'⟩
  refine ⟨?_, ?_, ?_, hfree⟩
  · intro j c' hc'
    rcases hcalls hc' with ⟨-, rfl⟩ | ⟨hj, hold⟩
    · exact hsound
    · rcases hdesk with hdesk | hnobody
      · exact hdesk ▸ h.sound hold
      · apply (h.sound hold).of_desk
        rw [Bool.eq_false_iff]
        intro hcapturing
        exact hnobody j hj ((h.holds hold).mp hcapturing)
  · intro j c' hc'
    rcases hcalls hc' with ⟨rfl, rfl⟩ | ⟨hj, hold⟩
    · exact hholds
    · exact (h.holds hold).trans (hsame j hj).symm
  · intro j hj
    change ∃ c', (r.setPhase i p).calls[j]? = some c'
    rw [calls_setPhase]
    by_cases hij : i = j
    · subst hij
      exact ⟨{ c with phase := p }, by rw [if_pos rfl, hc]; rfl⟩
    · rw [if_neg hij]
      exact h.present ((hsame j (Ne.symm hij)).mp hj)

/-- Nothing is tangled by a compilation that does not capture before and after its step. -/
theorem moves (h : Untangled first r) (hc : r.calls[i]? = some c)
    (hbefore : c.phase.isCapturing = false) {p : CompilationPhase τ}
    (hafter : p.isCapturing = false) (hsound : c.Sound first r.desk p) :
    Untangled first (r.setPhase i p) := by
  have hnot : r.holder ≠ some i := by
    intro hi
    rw [(h.holds hc).mpr hi] at hbefore
    cases hbefore
  exact h.changes hc r.holder hsound (by simp [hafter, hnot]) (fun _ _ => Iff.rfl) (Or.inl rfl)
    h.free

/-- Nor by what happens on the site. -/
theorem drifts (h : Untangled first r) (s : Site τ) : Untangled first (r.setSite s) :=
  ⟨h.sound, h.holds, h.present, h.free⟩

/-- Who captures is the only one who holds the lock. -/
theorem ne_holder (h : Untangled first r) (hc : r.calls[i]? = some c)
    (hphase : c.phase.isCapturing = true) (j : Nat) (hj : j ≠ i) : r.holder ≠ some j := by
  rw [(h.holds hc).mp hphase]
  intro heq
  exact hj (Option.some.inj heq).symm

theorem takes (h : Untangled first r) (hc : r.calls[i]? = some c) {job : CodeJob}
    (hphase : c.phase = .waiting job) (hfree : r.holder = none) :
    Untangled first ((r.setPhase i
      (.capturing job (Handling.capture (c.generate job.request)))).setHolder (some i)) := by
  have hsound := h.sound hc
  rw [hphase] at hsound
  have hcapture := Handling.run_capture (c.generate job.request) r.desk
  have hnext : c.Sound first r.desk
      (.capturing job (Handling.capture (c.generate job.request))) := by
    refine ⟨hsound, ?_, ?_⟩
    · rw [hcapture]
    · rw [hcapture]
      exact h.free hfree
  refine h.changes hc (some i) hnext ⟨fun _ => rfl, fun _ => rfl⟩ ?_ (Or.inl rfl) nofun
  intro j hj
  rw [hfree]
  simp [Ne.symm hj]

theorem captures (h : Untangled first r) (hc : r.calls[i]? = some c) {job : CodeJob} {label : Unit}
    {change : WarningDesk → WarningDesk} {next : WarningDesk → Handling CodeProduct}
    (hphase : c.phase = .capturing job (.act label change next)) :
    Untangled first ((r.setPhase i (.capturing job (next r.desk))).setDesk (change r.desk)) := by
  have hsound := h.sound hc
  rw [hphase] at hsound
  have hcapturing : c.phase.isCapturing = true := by rw [hphase]; rfl
  have hholder := (h.holds hc).mp hcapturing
  have hnext : c.Sound first (change r.desk) (.capturing job (next r.desk)) := hsound
  refine h.changes hc r.holder hnext ⟨fun _ => hholder, fun _ => rfl⟩ (fun _ _ => Iff.rfl)
    (Or.inr (h.ne_holder hc hcapturing)) ?_
  intro hnone
  rw [hholder] at hnone
  cases hnone

theorem releases (h : Untangled first r) (hc : r.calls[i]? = some c) {job : CodeJob}
    {product : CodeProduct} (hphase : c.phase = .capturing job (.done product)) :
    Untangled first ((r.setPhase i (.emitting job
      (Assignment.finish job.settings job.source job.modified product))).setHolder none) := by
  have hsound := h.sound hc
  rw [hphase] at hsound
  obtain ⟨hsettings, hproduct, hstate⟩ := hsound
  have hown : product = c.generate job.request := hproduct
  have hcapturing : c.phase.isCapturing = true := by rw [hphase]; rfl
  have hnext : c.Sound first r.desk (.emitting job
      (Assignment.finish job.settings job.source job.modified product)) := by
    refine ⟨hsettings, ?_⟩
    rw [← hown]
    exact CodeJob.ends_finish job product
  refine h.changes hc none hnext (iff_of_false nofun nofun) ?_ (Or.inl rfl) fun _ => hstate
  intro j hj
  simp [h.ne_holder hc hcapturing j hj]

/-- What one step preserves. -/
theorem step (h : Untangled first r) (hstep : r.step? i = some r') : Untangled first r' := by
  obtain ⟨c, hc, hturn⟩ := turn_of_step hstep
  have hsound := h.sound hc
  cases hturn with
  | refused e hphase hsettings =>
    exact h.moves hc (by rw [hphase]; rfl) rfl (c.sound_failed _ _ _)
  | begins settings hphase hsettings =>
    have hnext : c.Sound first r.desk (.reading settings (Assignment.readSource settings.source)) :=
      hsettings
    exact h.moves hc (by rw [hphase]; rfl) rfl hnext
  | reads settings label change next hphase =>
    rw [hphase] at hsound
    have hnext : c.Sound first r.desk (.reading settings (next r.site)) := hsound
    exact (h.moves hc (by rw [hphase]; rfl) rfl hnext).drifts _
  | unreadable settings fault hphase =>
    exact h.moves hc (by rw [hphase]; rfl) rfl (c.sound_failed _ _ _)
  | waits settings source modified hphase =>
    rw [hphase] at hsound
    have hnext : c.Sound first r.desk (.waiting ⟨settings, source, modified⟩) := hsound
    exact h.moves hc (by rw [hphase]; rfl) rfl hnext
  | takes job hphase hfree => exact h.takes hc hphase hfree
  | captures job label change next hphase => exact h.captures hc hphase
  | releases job product hphase => exact h.releases hc hphase
  | emits job label change next hphase =>
    rw [hphase] at hsound
    have hnext : c.Sound first r.desk (.emitting job (next r.site)) :=
      ⟨hsound.1, hsound.2.next r.site⟩
    exact (h.moves hc (by rw [hphase]; rfl) rfl hnext).drifts _
  | ends job result hphase =>
    rw [hphase] at hsound
    have hnext : c.Sound first r.desk (.finished (some job) (result.map Prod.fst)) := by
      intro report hok
      obtain ⟨⟨told, emission⟩, hresult, heq⟩ := exists_of_map_ok hok
      cases heq
      exact ⟨job, rfl, hsound.1, hsound.2.result told emission hresult⟩
    exact h.moves hc (by rw [hphase]; rfl) rfl hnext

end Untangled

theorem untangled_start (calls : List (List String × (CodeRequest → CodeProduct)))
    (desk : WarningDesk) (site : Site τ) : Untangled desk.state (start calls desk site) := by
  have hphase : ∀ {i : Nat} {c : Compilation τ}, (start calls desk site).calls[i]? = some c →
      c.phase = .outside := by
    intro i c hc
    rw [start, List.getElem?_map, Option.map_eq_some_iff] at hc
    obtain ⟨call, -, rfl⟩ := hc
    rfl
  refine ⟨?_, ?_, nofun, fun _ => rfl⟩
  · intro i c hc
    rw [hphase hc]
    trivial
  · intro i c hc
    rw [hphase hc]
    exact iff_of_false nofun nofun

/-- What any order of steps preserves. -/
theorem untangled_of_reachable {drift : Site τ → Site τ → Prop} {begun : CompilerRoom τ}
    (hbegun : Untangled first begun) (h : Reachable drift begun r) : Untangled first r := by
  induction h with
  | start => exact hbegun
  | step _ hstep ih => exact ih.step hstep
  | drift _ _ ih => exact ih.drifts _

/-- The compilations keep their command lines and what comes of their requests. -/
theorem calls_of_step (h : r.step? i = some r') :
    r'.calls.map (fun c => (c.arguments, c.generate)) =
      r.calls.map fun c => (c.arguments, c.generate) := by
  have hset : ∀ p : CompilationPhase τ,
      (r.setPhase i p).calls.map (fun c => (c.arguments, c.generate)) =
        r.calls.map fun c => (c.arguments, c.generate) := by
    intro p
    apply List.ext_getElem?
    intro j
    rw [List.getElem?_map, List.getElem?_map, calls_setPhase]
    by_cases hj : i = j
    · subst hj
      cases r.calls[i]? <;> simp
    · simp [hj]
  obtain ⟨c, -, hturn⟩ := turn_of_step h
  cases hturn <;> exact hset _

theorem calls_of_reachable {drift : Site τ → Site τ → Prop} {begun : CompilerRoom τ}
    (h : Reachable drift begun r) :
    r.calls.map (fun c => (c.arguments, c.generate)) =
      begun.calls.map fun c => (c.arguments, c.generate) := by
  induction h with
  | start => rfl
  | step _ hstep ih => exact (calls_of_step hstep).trans ih
  | drift _ _ ih => exact ih

/-- Who captures can always go on. -/
theorem step_of_capturing (hc : r.calls[i]? = some c) (hphase : c.phase.isCapturing = true) :
    ∃ r', r.step? i = some r' := by
  unfold step?
  simp only [hc]
  cases hp : c.phase with
  | capturing job rest => cases rest <;> exact ⟨_, rfl⟩
  | _ =>
    rw [hp] at hphase
    cases hphase

/-- As long as a compilation has not finished, one of them can go on. -/
theorem Untangled.step_of_unfinished (h : Untangled first r) (hc : r.calls[i]? = some c)
    (hopen : c.phase.isFinished = false) : ∃ j r', r.step? j = some r' := by
  cases hstep : r.step? i with
  | some r' => exact ⟨i, r', hstep⟩
  | none =>
    unfold step? at hstep
    simp only [hc] at hstep
    split at hstep
    · split at hstep <;> cases hstep
    · cases hstep
    · cases hstep
    · cases hstep
    · split at hstep
      · -- The lock is taken, so the one that holds it can go on.
        next j hholder =>
        obtain ⟨c', hc'⟩ := h.present hholder
        obtain ⟨r', hstep'⟩ := step_of_capturing hc' ((h.holds hc').mpr hholder)
        exact ⟨j, r', hstep'⟩
      · cases hstep
    · cases hstep
    · cases hstep
    · cases hstep
    · cases hstep
    · next hphase =>
      rw [hphase] at hopen
      cases hopen

/-! ## A compilation by itself -/

/-- Work that a room does step by step is done to its end. -/
theorem reachable_run {ε σ α : Type} {drift : Site τ → Site τ → Prop} {begun : CompilerRoom τ}
    (room : Script ε σ α → σ → CompilerRoom τ)
    (hstep : ∀ label change next s,
      (room (.act label change next) s).step? 0 = some (room (next s) (change s)))
    (work : Script ε σ α) {s : σ} (h : Reachable drift begun (room work s)) :
    Reachable drift begun (room (.done (work.run s).1) (work.run s).2) := by
  induction work generalizing s with
  | done result => exact h
  | act label change next ih => exact ih s (h.step (hstep label change next s))

/-- A room with one compilation. -/
def ofOne (arguments : List String) (generate : CodeRequest → CodeProduct)
    (phase : CompilationPhase τ) (holder : Option Nat) (desk : WarningDesk) (site : Site τ) :
    CompilerRoom τ :=
  ⟨[⟨arguments, generate, phase⟩], holder, desk, site⟩

section
variable {arguments : List String} {generate : CodeRequest → CodeProduct} {desk : WarningDesk}
  {site : Site τ} {drift : Site τ → Site τ → Prop} {begun : CompilerRoom τ} {job : CodeJob}

/-- A compilation that waits alone has its code made and emitted. -/
theorem lone_job
    (h : Reachable drift begun (ofOne arguments generate (.waiting job) none desk site)) :
    ∃ lists, Reachable drift begun (ofOne arguments generate (.finished (some job)
        (Bytecode.finish job.settings job.source job.modified (generate job.request) site.disk).1)
      none ⟨desk.state, lists⟩
      { site with disk := (Bytecode.finish job.settings job.source job.modified
        (generate job.request) site.disk).2 }) := by
  have htaken : Reachable drift begun (ofOne arguments generate
      (.capturing job (Handling.capture (generate job.request))) (some 0) desk site) :=
    h.step (i := 0) rfl
  have hcaptured := reachable_run (fun rest d =>
    ofOne arguments generate (.capturing job rest) (some 0) d site) (fun _ _ _ _ => rfl) _ htaken
  rw [Handling.run_capture] at hcaptured
  refine ⟨desk.lists ++ [(generate job.request).warnings], ?_⟩
  have hreleased : Reachable drift begun (ofOne arguments generate (.emitting job
      (Assignment.finish job.settings job.source job.modified (generate job.request))) none
      ⟨desk.state, desk.lists ++ [(generate job.request).warnings]⟩ site) :=
    hcaptured.step (i := 0) rfl
  have hemitted := reachable_run (fun rest s => ofOne arguments generate (.emitting job rest) none
    ⟨desk.state, desk.lists ++ [(generate job.request).warnings]⟩ s) (fun _ _ _ _ => rfl) _
    hreleased
  have hfinish := Assignment.finish_run (τ := τ) job.settings job.source job.modified
    (generate job.request) site
  rw [Script.run_map] at hfinish
  obtain ⟨hresult, hsite⟩ := Prod.mk.inj hfinish
  rw [← hresult, ← hsite]
  exact hemitted.step (i := 0) rfl

end

/-- The steps of a compilation by itself come to a run of the compiler, and the warnings of the
process are what they were. -/
theorem lone_compilation (arguments : List String) (generate : CodeRequest → CodeProduct)
    (desk : WarningDesk) (site : Site τ) :
    ∃ job? lists, Reachable (fun _ _ => False) (start [(arguments, generate)] desk site)
      (ofOne arguments generate (.finished job?
          (Bytecode.runOnSite (fun request t => (generate request, t)) arguments site).1)
        none ⟨desk.state, lists⟩
        (Bytecode.runOnSite (fun request t => (generate request, t)) arguments site).2) := by
  have hstart : Reachable (fun _ _ => False) (start [(arguments, generate)] desk site)
      (ofOne arguments generate .outside none desk site) := .start
  cases hsettings : Settings.ofArguments arguments with
  | error e =>
    have hrun : Bytecode.runOnSite (fun request t => (generate request, t)) arguments site =
        (.error (.invocation (.settings e)), site) := by
      unfold Bytecode.runOnSite Bytecode.run
      simp only [hsettings]
    rw [hrun]
    refine ⟨none, desk.lists, hstart.step (i := 0) ?_⟩
    simp only [step?, ofOne, List.getElem?_cons_zero, hsettings]
    rfl
  | ok settings =>
    have hbegun : Reachable (fun _ _ => False) (start [(arguments, generate)] desk site)
        (ofOne arguments generate (.reading settings (Assignment.readSource settings.source)) none
          desk site) := by
      refine hstart.step (i := 0) ?_
      simp only [step?, ofOne, List.getElem?_cons_zero, hsettings]
      rfl
    have hread := reachable_run (fun rest s =>
      ofOne arguments generate (.reading settings rest) none desk s) (fun _ _ _ _ => rfl) _ hbegun
    rw [Assignment.readSource_run] at hread
    cases hfound : (Bytecode.readSource settings.source site.disk).1 with
    | error fault =>
      rw [hfound] at hread
      have hrun : Bytecode.runOnSite (fun request t => (generate request, t)) arguments site =
          (.error fault, site) := by
        have hsame := Assignment.readSource_snd settings.source site.disk
        unfold Bytecode.runOnSite Bytecode.run
        simp only [hsettings, Act.within, Act.run]
        cases hdisk : Bytecode.readSource settings.source site.disk with
        | mk r d =>
          rw [hdisk] at hfound hsame
          simp only at hfound hsame
          subst hfound hsame
          rfl
      rw [hrun]
      exact ⟨none, desk.lists, hread.step (i := 0) rfl⟩
    | ok found =>
      obtain ⟨source, modified⟩ := found
      rw [hfound] at hread
      have hwaiting : Reachable (fun _ _ => False) (start [(arguments, generate)] desk site)
          (ofOne arguments generate (.waiting ⟨settings, source, modified⟩) none desk site) :=
        hread.step (i := 0) rfl
      obtain ⟨lists, hended⟩ := lone_job hwaiting
      rw [Bytecode.runOnSite_eq (fun request t => (generate request, t)) hsettings hfound rfl]
      exact ⟨some ⟨settings, source, modified⟩, lists, hended⟩

/-! ## The warnings of each compilation -/

/-- For any compilations in any order of their steps, whatever happens on the site in between: a
report tells the warnings of what has been made for its own compilation, all of them in order, or
none if warnings are turned off, and after them the fault in the source if there is one; one
compilation at most captures warnings; while none of them holds the lock, and so when all have
finished, the warnings of the process are handled as they were before the first; and until all have
finished, one of them can go on. -/
theorem reports_tell_the_warnings_of_their_own_compilation {drift : Site τ → Site τ → Prop}
    {calls : List (List String × (CodeRequest → CodeProduct))} {desk : WarningDesk} {site : Site τ}
    (h : Reachable drift (start calls desk site) r) :
    r.calls.map (fun c => (c.arguments, c.generate)) = calls ∧
    (∀ c ∈ r.calls, ∀ job? report, c.phase = .finished job? (.ok report) →
      ∃ job told last, job? = some job ∧ Settings.ofArguments c.arguments = .ok job.settings ∧
        Bytecode.TellsWarnings job.settings (c.generate job.request).warnings told ∧
        report.diagnostics = told ++ last ∧
        ((∃ code, (c.generate job.request).result = .ok code) ∧ last = [] ∨
          ∃ fault d, (c.generate job.request).result = .error (.source fault) ∧
            Bytecode.TellsFault fault d ∧ last = [d])) ∧
    (∀ (i j : Nat) (c c' : Compilation τ), r.calls[i]? = some c → r.calls[j]? = some c' →
      c.phase.isCapturing = true → c'.phase.isCapturing = true → i = j) ∧
    ((∀ c ∈ r.calls, c.phase.isCapturing = false) → r.desk.state = desk.state) ∧
    ((∀ c ∈ r.calls, c.phase.isFinished = true) → r.holder = none ∧ r.desk.state = desk.state) ∧
    ((∃ c ∈ r.calls, c.phase.isFinished = false) → ∃ i r', r.step? i = some r') := by
  have hr : Untangled desk.state r := untangled_of_reachable (untangled_start calls desk site) h
  have hfree : (∀ c ∈ r.calls, c.phase.isCapturing = false) → r.holder = none := by
    intro hnone
    rw [Option.eq_none_iff_forall_ne_some]
    intro i hi
    obtain ⟨c, hc⟩ := hr.present hi
    have hidle := hnone c (List.mem_of_getElem? hc)
    rw [(hr.holds hc).mpr hi] at hidle
    cases hidle
  refine ⟨?_, ?_, ?_, fun hnone => hr.free (hfree hnone), ?_, ?_⟩
  · rw [calls_of_reachable h, start, List.map_map]
    exact List.map_id calls
  · intro c hc job? report hphase
    obtain ⟨i, hi⟩ := List.mem_iff_getElem?.mp hc
    have hsound := hr.sound hi
    rw [hphase] at hsound
    obtain ⟨job, rfl, hsettings, told, last, htold, hdiagnostics, hlast⟩ := hsound report rfl
    exact ⟨job, told, last, rfl, hsettings, htold, hdiagnostics, hlast⟩
  · intro i j c c' hi hj hc hc'
    have hholder := (hr.holds hi).mp hc
    rw [(hr.holds hj).mp hc'] at hholder
    exact (Option.some.inj hholder).symm
  · intro hdone
    have hidle : ∀ c ∈ r.calls, c.phase.isCapturing = false := by
      intro c hc
      have hfinished := hdone c hc
      cases hphase : c.phase with
      | finished job? result => rfl
      | _ =>
        rw [hphase] at hfinished
        cases hfinished
    exact ⟨hfree hidle, hr.free (hfree hidle)⟩
  · rintro ⟨c, hc, hopen⟩
    obtain ⟨i, hi⟩ := List.mem_iff_getElem?.mp hc
    exact hr.step_of_unfinished hi hopen

/-- The diagnostics of the reports of those that have finished with one. -/
def told (r : CompilerRoom τ) : List (Option (List Diagnostic)) :=
  r.calls.map fun c =>
    match c.phase with
    | .finished _ (.ok report) => some report.diagnostics
    | _ => none

theorem reachable_of_order {drift : Site τ → Site τ → Prop} {begun : CompilerRoom τ}
    (order : List Nat) (h : Reachable drift begun r) (hsteps : r.steps? order = some r') :
    Reachable drift begun r' := by
  induction order generalizing r with
  | nil =>
    cases hsteps
    exact h
  | cons i order ih =>
    rw [steps?, List.foldlM_cons] at hsteps
    obtain ⟨r₁, hfirst, hrest⟩ := Option.bind_eq_some_iff.mp hsteps
    exact ih (h.step hfirst) hrest

/-- A process that drops all warnings. -/
def sampleDesk : WarningDesk := ⟨⟨[⟨fun _ => true, .dropped⟩], none, .writer "stderr"⟩, []⟩

/-- One source is accepted with a warning, and one is not and has two. -/
def sampleRoom : CompilerRoom Unit :=
  start [(["m.py"], fun _ => ⟨[⟨"a", 1⟩], .ok [7]⟩),
      (["m.py"], fun _ => ⟨[⟨"b", 2⟩, ⟨"b", 2⟩], .error (.source ⟨some "c", none, none, none⟩)⟩)]
    sampleDesk ⟨Bytecode.sampleDisk, ()⟩

/-- The second one captures its warnings before the first one has told its own. -/
def sampleOrder : List Nat :=
  [0, 1, 0, 1, 0, 1, 0, 1] ++ List.replicate 15 0 ++ List.replicate 17 1 ++ [0, 1]

/-- Each of two compilations tells its own warnings, and warnings are dropped again afterwards. -/
theorem two_compilations_tell_their_own_warnings :
    ∃ r, sampleRoom.steps? sampleOrder = some r ∧
      r.told = [some [⟨.warning, "a", some ⟨1, none⟩⟩],
        some [⟨.warning, "b", some ⟨2, none⟩⟩, ⟨.warning, "b", some ⟨2, none⟩⟩,
          ⟨.error, "c", none⟩]] ∧
      r.desk.state = sampleDesk.state := by
  have htold : ((sampleRoom.steps? sampleOrder).map fun r =>
      (r.told, r.calls.all fun c => c.phase.isFinished)) =
        some ([some [⟨.warning, "a", some ⟨1, none⟩⟩],
          some [⟨.warning, "b", some ⟨2, none⟩⟩, ⟨.warning, "b", some ⟨2, none⟩⟩,
            ⟨.error, "c", none⟩]], true) := by
    decide +kernel
  obtain ⟨r, hsteps, hr⟩ := Option.map_eq_some_iff.mp htold
  obtain ⟨hown, hall⟩ := Prod.mk.inj hr
  have hreach : Reachable (fun _ _ => False) sampleRoom r := reachable_of_order _ .start hsteps
  have hfinished : ∀ c ∈ r.calls, c.phase.isFinished = true := List.all_eq_true.mp hall
  exact ⟨r, hsteps, hown,
    ((reports_tell_the_warnings_of_their_own_compilation hreach).2.2.2.2.1 hfinished).2⟩

/-- With warnings turned off, a report tells none of those that its compilation has issued. -/
theorem warnings_that_are_turned_off_are_not_told :
    ∃ r, (start [(["-nowarn", "m.py"], fun _ => ⟨[⟨"a", 1⟩], .ok [7]⟩)] sampleDesk
        (⟨Bytecode.sampleDisk, ()⟩ : Site Unit)).steps? (List.replicate 20 0) = some r ∧
      r.told = [some []] := by
  have htold : ((start [(["-nowarn", "m.py"], fun _ => ⟨[⟨"a", 1⟩], .ok [7]⟩)] sampleDesk
      (⟨Bytecode.sampleDisk, ()⟩ : Site Unit)).steps? (List.replicate 20 0)).map told =
        some [some []] := by
    decide +kernel
  obtain ⟨r, hsteps, hr⟩ := Option.map_eq_some_iff.mp htold
  exact ⟨r, hsteps, hr⟩

end CompilerRoom

end Worksheet
