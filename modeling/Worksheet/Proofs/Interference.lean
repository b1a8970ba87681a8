-- Work among the work of others. An evaluation relies on what the others leave alone, and leaves
-- alone what they rely on; then all that is known of it when it is by itself holds among others,
-- as long as those that could disturb each other share a lock.
import Worksheet.Proofs.LockTable

namespace Worksheet

/-! ## What one evaluation does -/

/-- What holds of every shared state, and the numbers that are given out, each one once. -/
structure Ground (σ : Type) where
  sane : σ → Prop
  count : σ → Nat

/-- What an evaluation relies on while others act, what it does itself, and what each of its
actions asks of the state that it finds. The number that it has taken plays a part in this. -/
structure Conduct (ε σ : Type) where
  relies : Option Nat → σ → σ → Prop
  does : Option Nat → σ → σ → Prop
  asks : ε → σ → Prop

namespace Ground

variable {σ : Type} {g : Ground σ} {s s' : σ}

/-- An evaluation goes on with its number, or takes the next one. -/
def Takes (g : Ground σ) (own own' : Option Nat) (s s' : σ) : Prop :=
  own' = own ∨ own' = some (g.count s) ∧ g.count s < g.count s'

/-- The numbers that have been taken, by evaluation. No number is taken twice. -/
structure Numbered (g : Ground σ) (own : Nat → Option Nat) (s : σ) : Prop where
  given : ∀ {i n}, own i = some n → n < g.count s
  once : ∀ {i j n}, own i = some n → own j = some n → i = j

variable {own : Nat → Option Nat} {mine : Option Nat} {i : Nat}

theorem Numbered.later (h : g.Numbered own s) (hcount : g.count s ≤ g.count s') :
    g.Numbered own s' :=
  ⟨fun hown => Nat.lt_of_lt_of_le (h.given hown) hcount, h.once⟩

theorem Numbered.fresh (h : g.Numbered own s) (htakes : g.Takes (own i) mine s s') {j n : Nat}
    (hj : j ≠ i) (hown : own j = some n) : mine ≠ some n := by
  intro hmine
  rcases htakes with heq | ⟨heq, -⟩
  · exact hj (h.once hown (heq ▸ hmine))
  · rw [heq] at hmine
    cases hmine
    exact absurd (h.given hown) (Nat.lt_irrefl _)

theorem Numbered.takes (h : g.Numbered own s) (htakes : g.Takes (own i) mine s s')
    (hcount : g.count s ≤ g.count s') :
    g.Numbered (fun j => if j = i then mine else own j) s' := by
  refine ⟨?_, ?_⟩
  · intro j n hown
    by_cases hj : j = i
    · rw [if_pos hj] at hown
      rcases htakes with heq | ⟨heq, hlt⟩
      · exact Nat.lt_of_lt_of_le (h.given (heq ▸ hown)) hcount
      · rw [heq] at hown
        cases hown
        exact hlt
    · rw [if_neg hj] at hown
      exact Nat.lt_of_lt_of_le (h.given hown) hcount
  · intro j k n hjown hkown
    by_cases hj : j = i <;> by_cases hk : k = i
    · exact hj.trans hk.symm
    · rw [if_pos hj] at hjown
      rw [if_neg hk] at hkown
      exact absurd hjown (h.fresh htakes hk hkown)
    · rw [if_neg hj] at hjown
      rw [if_pos hk] at hkown
      exact absurd hkown (h.fresh htakes hj hjown)
    · rw [if_neg hj] at hjown
      rw [if_neg hk] at hkown
      exact h.once hjown hkown

end Ground

namespace Conduct

variable {ε σ α β : Type}

/-- Work that keeps to a conduct, wherever others act in between, and ends in `Q`. -/
def Behaves (c : Conduct ε σ) (g : Ground σ) :
    Script ε σ α → Option Nat → σ → (Q : α → Option Nat → σ → Prop) → Prop
  | .done result, own, s, Q => Q result own s
  | .act label change next, own, s, Q => ∀ s', c.relies own s s' → g.sane s' →
      c.asks label s' ∧ ∃ own', g.Takes own own' s' (change s') ∧ c.does own s' (change s') ∧
        Behaves c g (next s') own' (change s') Q

namespace Behaves

variable {c : Conduct ε σ} {g : Ground σ} {own : Option Nat} {s : σ}
  {Q Q' : α → Option Nat → σ → Prop} {R : β → Option Nat → σ → Prop}

theorem done_iff {result : α} : c.Behaves g (.done result) own s Q ↔ Q result own s := Iff.rfl

theorem act_iff {label : ε} {change : σ → σ} {next : σ → Script ε σ α} :
    c.Behaves g (.act label change next) own s Q ↔
      ∀ s', c.relies own s s' → g.sane s' → c.asks label s' ∧
        ∃ own', g.Takes own own' s' (change s') ∧ c.does own s' (change s') ∧
          c.Behaves g (next s') own' (change s') Q := Iff.rfl

-- Work is looked at by these two laws only; to unfold it further would be to run it.
attribute [irreducible] Behaves

theorem done {result : α} (h : Q result own s) : c.Behaves g (.done result) own s Q :=
  done_iff.mpr h

theorem bind {work : Script ε σ α} {f : α → Script ε σ β} (h : c.Behaves g work own s Q)
    (hnext : ∀ a own' s', Q a own' s' → c.Behaves g (f a) own' s' R) :
    c.Behaves g (work.bind f) own s R := by
  induction work generalizing own s with
  | done result => exact hnext _ _ _ (done_iff.mp h)
  | act label change next ih =>
    refine act_iff.mpr fun s' hrelies hsane => ?_
    obtain ⟨hasks, own', htakes, hdoes, hrest⟩ := act_iff.mp h s' hrelies hsane
    exact ⟨hasks, own', htakes, hdoes, ih s' hrest⟩

theorem mono {work : Script ε σ α} (h : c.Behaves g work own s Q)
    (hmono : ∀ a own' s', Q a own' s' → Q' a own' s') : c.Behaves g work own s Q' := by
  induction work generalizing own s with
  | done result => exact done (hmono _ _ _ (done_iff.mp h))
  | act label change next ih =>
    refine act_iff.mpr fun s' hrelies hsane => ?_
    obtain ⟨hasks, own', htakes, hdoes, hrest⟩ := act_iff.mp h s' hrelies hsane
    exact ⟨hasks, own', htakes, hdoes, ih s' hrest⟩

theorem map {work : Script ε σ α} {f : α → β} (h : c.Behaves g work own s Q)
    (hnext : ∀ a own' s', Q a own' s' → R (f a) own' s') : c.Behaves g (work.map f) own s R :=
  h.bind fun a own' s' hQ => done (hnext a own' s' hQ)

/-- A fault ends the work, so only the way that goes on is left to be looked at. -/
theorem andThen {work : Script ε σ (Except Fault α)} {f : α → Script ε σ (Except Fault β)}
    {Q : Except Fault α → Option Nat → σ → Prop} {R : Except Fault β → Option Nat → σ → Prop}
    (h : c.Behaves g work own s Q)
    (hnext : ∀ a own' s', Q (.ok a) own' s' → c.Behaves g (f a) own' s' R)
    (hfault : ∀ fault own' s', Q (.error fault) own' s' → R (.error fault) own' s') :
    c.Behaves g (work.andThen f) own s R := by
  refine h.bind fun r own' s' hQ => ?_
  cases r with
  | ok a => exact hnext a own' s' hQ
  | error fault => exact done (hfault fault own' s' hQ)

/-- A single action in which no number is taken. -/
theorem ask {label : ε} {action : σ → α × σ}
    (h : ∀ s', c.relies own s s' → g.sane s' →
      c.asks label s' ∧ c.does own s' (action s').2 ∧ Q (action s').1 own (action s').2) :
    c.Behaves g (.ask label action) own s Q := by
  refine act_iff.mpr fun s' hrelies hsane => ?_
  obtain ⟨hasks, hdoes, hQ⟩ := h s' hrelies hsane
  exact ⟨hasks, own, Or.inl rfl, hdoes, done hQ⟩

/-- What others do before the next action does not matter. -/
theorem after (htrans : ∀ {own s₁ s₂ s₃}, c.relies own s₁ s₂ → c.relies own s₂ s₃ →
    c.relies own s₁ s₃) {work : Script ε σ α} {s' : σ} (hrelies : c.relies own s s')
    (h : c.Behaves g work own s fun _ _ _ => True) :
    c.Behaves g work own s' fun _ _ _ => True := by
  cases work with
  | done result => exact done trivial
  | act label change next =>
    exact act_iff.mpr fun s'' hlater => act_iff.mp h s'' (htrans hrelies hlater)

end Behaves

end Conduct

/-! ## Parties -/

/-- An evaluation with its conduct, and the key that it finds on sane states. -/
structure Party (ε σ α : Type) where
  key : σ → Except Fault LockKey
  work : Script ε σ α
  lock : LockKey
  conduct : Conduct ε σ

/-- A party whose work keeps to its conduct. -/
structure Party.Fair {ε σ α : Type} (g : Ground σ) (p : Party ε σ α) : Prop where
  finds : ∀ s key, g.sane s → p.key s = .ok key → key = p.lock
  behaves : ∀ s, g.sane s → p.conduct.Behaves g p.work none s fun _ _ _ => True
  refl : ∀ own s, p.conduct.relies own s s
  trans : ∀ {own s₁ s₂ s₃}, p.conduct.relies own s₁ s₂ → p.conduct.relies own s₂ s₃ →
    p.conduct.relies own s₁ s₃
  sound : ∀ {own s s'}, p.conduct.does own s s' → g.sane s → g.sane s' ∧ g.count s ≤ g.count s'

/-- Parties that do what the others rely on, unless they share a lock. -/
structure Peace {ε σ α : Type} (g : Ground σ) (drift : σ → σ → Prop)
    (parties : List (Party ε σ α)) : Prop where
  fair : ∀ p ∈ parties, p.Fair g
  apart : ∀ p ∈ parties, ∀ q ∈ parties, p.lock ≠ q.lock → ∀ own own',
    (∀ n, own = some n → own' ≠ some n) → ∀ s s', g.sane s → q.conduct.does own' s s' →
      p.conduct.relies own s s'
  drifts : ∀ s s', drift s s' → g.sane s → g.sane s' ∧ g.count s ≤ g.count s' ∧
    ∀ p ∈ parties, ∀ own, p.conduct.relies own s s'

namespace Workplace

variable {ε σ α : Type} {g : Ground σ} {drift : σ → σ → Prop} {parties : List (Party ε σ α)}
  {w : Workplace ε σ α} {i : Nat}

/-- What is known of a party by its phase. Its number is taken inside. -/
def PhaseHolds (g : Ground σ) (p : Party ε σ α) (own : Option Nat) (s : σ) : Phase ε σ α → Prop
  | .outside => own = none
  | .arriving key => own = none ∧ key = p.lock
  | .waiting key _ => own = none ∧ key = p.lock
  | .inside key _ rest => key = p.lock ∧ p.conduct.Behaves g rest own s fun _ _ _ => True
  | .leaving _ _ _ => True
  | .finished _ => True

/-- Everybody is where its phase says, with a number of its own. -/
structure Peaceful (g : Ground σ) (parties : List (Party ε σ α)) (w : Workplace ε σ α)
    (own : Nat → Option Nat) : Prop where
  sane : g.sane w.shared
  numbered : g.Numbered own w.shared
  known : ∀ {i e}, w.workers[i]? = some e → ∃ p, parties[i]? = some p ∧ e.key = p.key ∧
    e.work = p.work ∧ PhaseHolds g p (own i) w.shared e.phase

/-- What is known of a party stays known as long as what it relies on is left alone. Only inside
does it rely on anything. -/
theorem PhaseHolds.after {p : Party ε σ α} (hp : p.Fair g) {own : Option Nat} {s s' : σ}
    {phase : Phase ε σ α} (h : PhaseHolds g p own s phase)
    (hrelies : phase.holding?.isSome → p.conduct.relies own s s') :
    PhaseHolds g p own s' phase := by
  cases phase with
  | inside key number rest =>
    exact ⟨h.1, h.2.after hp.trans (hrelies rfl)⟩
  | _ => exact h

theorem PhaseHolds.holdingAt {q : Party ε σ α} {own : Option Nat} {s : σ} {e : Worker ε σ α}
    (h : PhaseHolds g q own s e.phase) (he : w.workers[i]? = some e)
    (hinside : e.phase.holding?.isSome) : ∃ number, w.holdingAt i = some (q.lock, number) := by
  cases hphase : e.phase with
  | inside key number rest =>
    rw [hphase] at h
    exact ⟨number, holdingAt_of he (by rw [hphase, h.1]; rfl)⟩
  | _ => simp [hphase, Phase.holding?] at hinside

namespace Peaceful

variable {own : Nat → Option Nat} {e : Worker ε σ α}

/-- A change of phase on its own. -/
theorem moves (h : Peaceful g parties w own) (he : w.workers[i]? = some e) (phase : Phase ε σ α)
    (hphase : ∀ p ∈ parties, e.key = p.key → e.work = p.work →
      PhaseHolds g p (own i) w.shared e.phase → PhaseHolds g p (own i) w.shared phase) :
    Peaceful g parties (w.setPhase i phase) own := by
  refine ⟨h.sane, h.numbered, ?_⟩
  intro j e' he'
  rw [workers_setPhase] at he'
  by_cases hij : i = j
  · subst hij
    rw [if_pos rfl, he] at he'
    cases he'
    obtain ⟨p, hp, hkey, hwork, hholds⟩ := h.known he
    exact ⟨p, hp, hkey, hwork, hphase p (List.mem_of_getElem? hp) hkey hwork hholds⟩
  · rw [if_neg hij] at he'
    exact h.known he'

theorem locked (h : Peaceful g parties w own) (l : Locks) :
    Peaceful g parties (w.setLocks l) own :=
  ⟨h.sane, h.numbered, h.known⟩

theorem drifts (h : Peaceful g parties w own) (hpeace : Peace g drift parties) {s : σ}
    (hdrift : drift w.shared s) : Peaceful g parties (w.setShared s) own := by
  obtain ⟨hsane, hcount, hrelies⟩ := hpeace.drifts _ _ hdrift h.sane
  refine ⟨hsane, h.numbered.later hcount, ?_⟩
  intro j e' he'
  obtain ⟨p, hp, hkey, hwork, hholds⟩ := h.known he'
  have hmem := List.mem_of_getElem? hp
  exact ⟨p, hp, hkey, hwork, hholds.after (hpeace.fair p hmem) fun _ => hrelies p hmem _⟩

/-- An action inside. Whoever else is inside has another lock, so it relies on nothing that the
action changes. -/
theorem acts (h : Peaceful g parties w own) (horderly : Orderly w)
    (hpeace : Peace g drift parties) (he : w.workers[i]? = some e) {key : LockKey} {number : Nat}
    {label : ε} {change : σ → σ} {next : σ → Script ε σ α}
    (hphase : e.phase = .inside key number (.act label change next)) :
    ∃ own', Peaceful g parties
      ((w.setPhase i (.inside key number (next w.shared))).setShared (change w.shared)) own' := by
  obtain ⟨p, hp, hkey, hwork, hholds⟩ := h.known he
  rw [hphase] at hholds
  obtain ⟨hlock, hbehaves⟩ := hholds
  have hpmem := List.mem_of_getElem? hp
  have hfair := hpeace.fair p hpmem
  obtain ⟨-, mine, htakes, hdoes, hrest⟩ :=
    Conduct.Behaves.act_iff.mp hbehaves w.shared (hfair.refl _ _) h.sane
  obtain ⟨hsane, hcount⟩ := hfair.sound hdoes h.sane
  refine ⟨fun j => if j = i then mine else own j, hsane, h.numbered.takes htakes hcount, ?_⟩
  intro j e' he'
  have hworkers : (w.setPhase i (.inside key number (next w.shared))).workers[j]? = some e' := he'
  rw [workers_setPhase] at hworkers
  by_cases hij : i = j
  · subst hij
    rw [if_pos rfl, he] at hworkers
    cases hworkers
    refine ⟨p, hp, hkey, hwork, hlock, ?_⟩
    rw [if_pos rfl]
    exact hrest
  · rw [if_neg hij] at hworkers
    obtain ⟨q, hq, hqkey, hqwork, hqholds⟩ := h.known hworkers
    have hqmem := List.mem_of_getElem? hq
    refine ⟨q, hq, hqkey, hqwork, ?_⟩
    rw [if_neg (Ne.symm hij)]
    refine hqholds.after (hpeace.fair q hqmem) fun hinside => ?_
    have hholding : w.holdingAt i = some (p.lock, number) :=
      holdingAt_of he (by rw [hphase, hlock]; rfl)
    obtain ⟨m, hqholding⟩ := hqholds.holdingAt hworkers hinside
    have hne : q.lock ≠ p.lock := fun heq =>
      hij (horderly.alone hholding (heq ▸ hqholding))
    refine hpeace.apart q hqmem p hpmem hne _ _ (fun n hown hown' => ?_) _ _ h.sane hdoes
    exact hij (h.numbered.once hown' hown)

theorem step (h : Peaceful g parties w own) (horderly : Orderly w)
    (hpeace : Peace g drift parties) {w' : Workplace ε σ α} (hstep : w.step? i = some w') :
    ∃ own', Peaceful g parties w' own' := by
  obtain ⟨e, he, hturn⟩ := turn_of_step hstep
  cases hturn with
  | refused fault hphase hkey => exact ⟨own, h.moves he _ fun _ _ _ _ _ => trivial⟩
  | arrives key hphase hkey =>
    refine ⟨own, h.moves he _ fun p hp hsame _ hholds => ?_⟩
    rw [hphase] at hholds
    exact ⟨hholds, (hpeace.fair p hp).finds _ _ h.sane (hsame ▸ hkey)⟩
  | registers key hphase =>
    refine ⟨own, (h.moves he _ fun p hp _ _ hholds => ?_).locked _⟩
    rw [hphase] at hholds
    exact hholds
  | takes key number hphase hfree =>
    refine ⟨own, (h.moves he _ fun p hp _ hwork hholds => ?_).locked _⟩
    rw [hphase] at hholds
    refine ⟨hholds.2, ?_⟩
    rw [hwork, hholds.1]
    exact (hpeace.fair p hp).behaves _ h.sane
  | acts key number label change next hphase => exact h.acts horderly hpeace he hphase
  | ends key number result hphase =>
    exact ⟨own, (h.moves he (.leaving key number result) fun _ _ _ _ _ => trivial).locked _⟩
  | leaves key number result hphase =>
    exact ⟨own, (h.moves he (.finished (.ok result)) fun _ _ _ _ _ => trivial).locked _⟩

end Peaceful

theorem peaceful_start {s : σ} (hs : g.sane s) :
    Peaceful g parties (start (parties.map fun p => (p.key, p.work)) s) fun _ => none := by
  refine ⟨hs, ⟨nofun, nofun⟩, ?_⟩
  intro i e he
  rw [start, List.map_map, List.getElem?_map, Option.map_eq_some_iff] at he
  obtain ⟨p, hp, rfl⟩ := he
  exact ⟨p, hp, rfl, rfl, rfl⟩

theorem peaceful_of_reachable (hpeace : Peace g drift parties) {s : σ} (hs : g.sane s)
    (h : Reachable drift (start (parties.map fun p => (p.key, p.work)) s) w) :
    ∃ own, Peaceful g parties w own := by
  have hfirst := orderly_start (parties.map fun p => (p.key, p.work)) s
  induction h with
  | start => exact ⟨_, peaceful_start hs⟩
  | step hreach hstep ih =>
    obtain ⟨own, hown⟩ := ih
    exact hown.step (orderly_of_reachable hfirst hreach) hpeace hstep
  | drift hreach hdrift ih =>
    obtain ⟨own, hown⟩ := ih
    exact ⟨own, hown.drifts hpeace hdrift⟩

/-- Whatever the order of steps, what the next action of a party asks of the shared state is there,
and stays there until the action is taken. -/
theorem asks_of_reachable (hpeace : Peace g drift parties) {s : σ} (hs : g.sane s)
    (h : Reachable drift (start (parties.map fun p => (p.key, p.work)) s) w) {e : Worker ε σ α}
    (he : w.workers[i]? = some e) {label : ε} (hlabel : e.phase.label? = some label) :
    ∃ p, parties[i]? = some p ∧ p.conduct.asks label w.shared := by
  obtain ⟨own, hown⟩ := peaceful_of_reachable hpeace hs h
  obtain ⟨p, hp, -, -, hholds⟩ := hown.known he
  refine ⟨p, hp, ?_⟩
  cases hphase : e.phase with
  | inside key number rest =>
    rw [hphase] at hholds hlabel
    cases rest with
    | done result => cases hlabel
    | act label' change next =>
      cases hlabel
      have hrefl := (hpeace.fair p (List.mem_of_getElem? hp)).refl (own i) w.shared
      exact (Conduct.Behaves.act_iff.mp hholds.2 w.shared hrefl hown.sane).1
  | _ =>
    rw [hphase] at hlabel
    cases hlabel

end Workplace

end Worksheet
