-- The locks while evaluations are at work at the same time. Whatever the order of their steps, a
-- key has a lock exactly as long as an evaluation is registered under it, every evaluation of a
-- key waits for the same lock, and nobody waits forever.
import Worksheet.Evaluate.Interleaving

namespace Worksheet

/-! ## The table -/

namespace Locks

theorem lookup_append_fresh (table : List (LockKey × Nat)) (key other : LockKey) (number : Nat)
    (hfresh : table.lookup key = none) :
    (table ++ [(key, number)]).lookup other =
      if other = key then some number else table.lookup other := by
  rw [List.lookup_append]
  by_cases hother : other = key
  · subst hother
    simp [hfresh]
  · have hbeq : (other == key) = false := by simpa using hother
    simp [List.lookup_cons, hbeq, hother]

theorem lookup_eraseKey (table : List (LockKey × Nat)) (key other : LockKey) :
    (eraseKey key table).lookup other = if other = key then none else table.lookup other := by
  unfold eraseKey
  induction table with
  | nil => simp
  | cons entry rest ih =>
    obtain ⟨k, n⟩ := entry
    by_cases hk : k = key
    · subst hk
      rw [List.filter_cons_of_neg (by simp), ih]
      by_cases hother : other = k
      · simp [hother]
      · have hbeq : (other == k) = false := by simpa using hother
        simp [List.lookup_cons, hbeq, hother]
    · rw [List.filter_cons_of_pos (by simpa using hk), List.lookup_cons, List.lookup_cons, ih]
      by_cases hother : other = key
      · subst hother
        have hbeq : (other == k) = false := by simpa using Ne.symm hk
        simp [hbeq]
      · simp [hother]

theorem table_eq_nil {table : List (LockKey × Nat)} (h : ∀ key, table.lookup key = none) :
    table = [] := by
  cases table with
  | nil => rfl
  | cons entry rest =>
    have hhead := h entry.1
    simp at hhead

theorem made_change (l : Locks) (number other : Nat) (f : EntryLock → EntryLock) :
    (l.change number f).made[other]? =
      if number = other then l.made[other]?.map f else l.made[other]? := by
  unfold change
  rw [List.getElem?_modify]
  by_cases h : number = other <;> simp [h]

@[simp]
theorem table_change (l : Locks) (number : Nat) (f : EntryLock → EntryLock) :
    (l.change number f).table = l.table := rfl

end Locks

/-! ## Who is registered -/

namespace Workplace

variable {ε σ α : Type} {w : Workplace ε σ α} {i j : Nat} {e : Worker ε σ α}
  {key : LockKey} {number : Nat}

theorem workers_setPhase (w : Workplace ε σ α) (i j : Nat) (p : Phase ε σ α) :
    (w.setPhase i p).workers[j]? =
      if i = j then w.workers[j]?.map fun e => { e with phase := p } else w.workers[j]? := by
  unfold setPhase
  rw [List.getElem?_modify]
  by_cases h : i = j <;> simp [h]

theorem registrationAt_setPhase (he : w.workers[i]? = some e) (p : Phase ε σ α) (j : Nat) :
    (w.setPhase i p).registrationAt j =
      if i = j then p.registration? else w.registrationAt j := by
  unfold registrationAt
  rw [workers_setPhase]
  by_cases h : i = j
  · subst h
    simp [he]
  · simp [h]

theorem holdingAt_setPhase (he : w.workers[i]? = some e) (p : Phase ε σ α) (j : Nat) :
    (w.setPhase i p).holdingAt j = if i = j then p.holding? else w.holdingAt j := by
  unfold holdingAt
  rw [workers_setPhase]
  by_cases h : i = j
  · subst h
    simp [he]
  · simp [h]

@[simp]
theorem registrationAt_setLocks (w : Workplace ε σ α) (l : Locks) (j : Nat) :
    (w.setLocks l).registrationAt j = w.registrationAt j := rfl

@[simp]
theorem holdingAt_setLocks (w : Workplace ε σ α) (l : Locks) (j : Nat) :
    (w.setLocks l).holdingAt j = w.holdingAt j := rfl

@[simp]
theorem registered_setLocks (w : Workplace ε σ α) (l : Locks) (key : LockKey) :
    (w.setLocks l).registered key = w.registered key := rfl

@[simp]
theorem locks_setLocks (w : Workplace ε σ α) (l : Locks) : (w.setLocks l).locks = l := rfl

theorem registrationAt_of (he : w.workers[i]? = some e) {entry : LockKey × Nat}
    (hr : e.phase.registration? = some entry) : w.registrationAt i = some entry := by
  unfold registrationAt
  rw [he]
  exact hr

theorem holdingAt_of (he : w.workers[i]? = some e) {entry : LockKey × Nat}
    (hh : e.phase.holding? = some entry) : w.holdingAt i = some entry := by
  unfold holdingAt
  rw [he]
  exact hh

theorem registrationAt_of_holdingAt (h : w.holdingAt i = some (key, number)) :
    w.registrationAt i = some (key, number) := by
  unfold holdingAt at h
  obtain ⟨e, he, hp⟩ := Option.bind_eq_some_iff.mp h
  unfold registrationAt
  rw [he]
  cases hphase : e.phase with
  | inside k n rest =>
    simpa [hphase, Phase.registration?, Phase.holding?] using hp
  | _ => simp [hphase, Phase.holding?] at hp

theorem registered_pos_iff :
    0 < w.registered key ↔ ∃ i number, w.registrationAt i = some (key, number) := by
  unfold registered registrationAt
  rw [List.countP_pos_iff]
  constructor
  · rintro ⟨e, he, hany⟩
    obtain ⟨i, hi⟩ := List.mem_iff_getElem?.mp he
    cases hr : e.phase.registration? with
    | none => simp [hr] at hany
    | some entry =>
      obtain ⟨k, number⟩ := entry
      rw [hr] at hany
      have hk : k = key := by simpa using hany
      subst hk
      exact ⟨i, number, by simp [hi, hr]⟩
  · rintro ⟨i, number, h⟩
    obtain ⟨e, he, hr⟩ := Option.bind_eq_some_iff.mp h
    exact ⟨e, List.mem_of_getElem? he, by simp [hr]⟩

theorem countP_modify {β : Type} (p : β → Bool) (l : List β) (f : β → β) {i : Nat} {b : β}
    (hi : l[i]? = some b) :
    (l.modify i f).countP p + (if p b then 1 else 0) =
      l.countP p + (if p (f b) then 1 else 0) := by
  induction l generalizing i with
  | nil => simp at hi
  | cons c l ih =>
    cases i with
    | zero =>
      have hc : c = b := by simpa using hi
      subst hc
      simp only [List.modify_zero_cons, List.countP_cons]
      omega
    | succ i =>
      have htail := ih (by simpa using hi)
      simp only [List.modify_succ_cons, List.countP_cons]
      omega

/-- A change of phase counts once less for the old key and once more for the new one. -/
theorem registered_setPhase (he : w.workers[i]? = some e) (p : Phase ε σ α) (key : LockKey) :
    (w.setPhase i p).registered key +
        (if e.phase.registration?.any (fun (k, _) => k = key) then 1 else 0) =
      w.registered key + (if p.registration?.any (fun (k, _) => k = key) then 1 else 0) :=
  countP_modify _ w.workers _ he

theorem holdingAt_stays (he : w.workers[i]? = some e) {p : Phase ε σ α}
    (hhold : p.holding? = e.phase.holding?) : (w.setPhase i p).holdingAt = w.holdingAt := by
  funext j
  rw [holdingAt_setPhase he]
  by_cases hj : i = j
  · subst hj
    simp [hhold, holdingAt, he]
  · simp [hj]

theorem registrationAt_stays (he : w.workers[i]? = some e) {p : Phase ε σ α}
    (hreg : p.registration? = e.phase.registration?) :
    (w.setPhase i p).registrationAt = w.registrationAt := by
  funext j
  rw [registrationAt_setPhase he]
  by_cases hj : i = j
  · subst hj
    simp [hreg, registrationAt, he]
  · simp [hj]

theorem registered_stays (he : w.workers[i]? = some e) {p : Phase ε σ α}
    (hreg : p.registration? = e.phase.registration?) :
    (w.setPhase i p).registered = w.registered := by
  funext key
  have hset := registered_setPhase he p key
  rw [hreg] at hset
  omega

/-- A phase that is registered under no other key, nor with another number. -/
def Under (key : LockKey) (number : Nat) (p : Phase ε σ α) : Prop :=
  ∀ entry, p.registration? = some entry → entry = (key, number)

theorem holding_of_under {p : Phase ε σ α} (h : Under key number p) (entry : LockKey × Nat)
    (hp : p.holding? = some entry) : entry = (key, number) := by
  cases p with
  | inside k n rest => exact h entry hp
  | _ => cases hp

/-- What a phase under one key becomes under the same key counts for no other key. -/
theorem registered_setPhase_of_ne (he : w.workers[i]? = some e) {p : Phase ε σ α}
    (hfrom : Under key number e.phase) (hto : Under key number p) {other : LockKey}
    (hother : other ≠ key) : (w.setPhase i p).registered other = w.registered other := by
  have hset := registered_setPhase he p other
  have hnone : ∀ q : Phase ε σ α, Under key number q →
      q.registration?.any (fun (k, _) => decide (k = other)) = false := by
    intro q hq
    cases hr : q.registration? with
    | none => rfl
    | some entry => simp [hq entry hr, Ne.symm hother]
  rw [hnone _ hfrom, hnone _ hto] at hset
  simpa using hset

theorem holdingAt_setPhase_of_ne (he : w.workers[i]? = some e) {p : Phase ε σ α}
    (hfrom : Under key number e.phase) (hto : Under key number p) (j : Nat) {other : LockKey}
    (hother : other ≠ key) (n : Nat) :
    (w.setPhase i p).holdingAt j = some (other, n) ↔ w.holdingAt j = some (other, n) := by
  rw [holdingAt_setPhase he]
  by_cases hij : i = j
  · subst hij
    have hnever : ∀ q : Phase ε σ α, Under key number q → q.holding? ≠ some (other, n) := by
      intro q hq hr
      exact hother (congrArg Prod.fst (holding_of_under hq _ hr))
    simp [holdingAt, he, hnever _ hfrom, hnever _ hto]
  · simp [hij]

/-! ## What every step keeps -/

/-- The numbers of the registered evaluations are those of the table, no two keys share a lock, a
lock counts the evaluations of its key, and the holder of a lock is the one that is at work. -/
structure Orderly (w : Workplace ε σ α) : Prop where
  named : ∀ {i key number}, w.registrationAt i = some (key, number) →
    w.locks.table.lookup key = some number
  apart : ∀ {key key' number}, w.locks.table.lookup key = some number →
    w.locks.table.lookup key' = some number → key = key'
  counted : ∀ {key number}, w.locks.table.lookup key = some number →
    0 < w.registered key ∧ ∃ holder, w.locks.made[number]? = some ⟨w.registered key, holder⟩
  held : ∀ {key number lock}, w.locks.table.lookup key = some number →
    w.locks.made[number]? = some lock →
    ∀ i, lock.holder = some i ↔ w.holdingAt i = some (key, number)

namespace Orderly

theorem registered_eq_zero (h : Orderly w) (hkey : w.locks.table.lookup key = none) :
    w.registered key = 0 := by
  refine Nat.eq_zero_of_not_pos fun hpos => ?_
  obtain ⟨i, number, hi⟩ := registered_pos_iff.mp hpos
  rw [h.named hi] at hkey
  cases hkey

theorem number_lt (h : Orderly w) (hkey : w.locks.table.lookup key = some number) :
    number < w.locks.made.length := by
  obtain ⟨_, holder, hmade⟩ := h.counted hkey
  exact (List.getElem?_eq_some_iff.mp hmade).1

theorem number_ne (h : Orderly w) (hkey : w.locks.table.lookup key = some number)
    {other : LockKey} {n : Nat} (hother : w.locks.table.lookup other = some n)
    (hne : other ≠ key) : number ≠ n := by
  rintro rfl
  exact hne (h.apart hother hkey)

theorem drifts (h : Orderly w) (s : σ) : Orderly (w.setShared s) :=
  ⟨h.named, h.apart, h.counted, h.held⟩

/-- A change of phase in which nobody registers, leaves, takes or gives back a lock. -/
theorem moves (h : Orderly w) (he : w.workers[i]? = some e) {p : Phase ε σ α}
    (hreg : p.registration? = e.phase.registration?) (hhold : p.holding? = e.phase.holding?) :
    Orderly (w.setPhase i p) := by
  refine ⟨?_, h.apart, ?_, ?_⟩
  · rw [registrationAt_stays he hreg]
    exact h.named
  · rw [registered_stays he hreg]
    exact h.counted
  · rw [holdingAt_stays he hhold]
    exact h.held

/-- A step that changes one lock and the phase of one of its users, so that the count and the
holder of the lock are right again. -/
theorem changes (h : Orderly w) (he : w.workers[i]? = some e) {p : Phase ε σ α}
    (hkey : w.locks.table.lookup key = some number) (hfrom : Under key number e.phase)
    (hto : Under key number p) {f : EntryLock → EntryLock} (holder : Option Nat)
    (hlock : w.locks.made[number]?.map f = some ⟨(w.setPhase i p).registered key, holder⟩)
    (hpos : 0 < (w.setPhase i p).registered key)
    (hholder : ∀ j, holder = some j ↔ (w.setPhase i p).holdingAt j = some (key, number)) :
    Orderly ((w.setPhase i p).setLocks (w.locks.change number f)) := by
  refine ⟨?_, ?_, ?_, ?_⟩
  · intro j k n hj
    rw [registrationAt_setLocks, registrationAt_setPhase he] at hj
    rw [locks_setLocks, Locks.table_change]
    by_cases hij : i = j
    · rw [if_pos hij] at hj
      cases hto _ hj
      exact hkey
    · rw [if_neg hij] at hj
      exact h.named hj
  · intro k k' n hk hk'
    rw [locks_setLocks, Locks.table_change] at hk hk'
    exact h.apart hk hk'
  · intro k n hk
    rw [locks_setLocks, Locks.table_change] at hk
    rw [registered_setLocks, locks_setLocks, Locks.made_change]
    by_cases hkk : k = key
    · subst hkk
      cases hkey.symm.trans hk
      rw [if_pos rfl]
      exact ⟨hpos, holder, hlock⟩
    · rw [if_neg (h.number_ne hkey hk hkk), registered_setPhase_of_ne he hfrom hto hkk]
      exact h.counted hk
  · intro k n lock hk hmade j
    rw [locks_setLocks, Locks.table_change] at hk
    rw [locks_setLocks, Locks.made_change] at hmade
    rw [holdingAt_setLocks]
    by_cases hkk : k = key
    · subst hkk
      cases hkey.symm.trans hk
      rw [if_pos rfl, hlock] at hmade
      cases hmade
      exact hholder j
    · rw [if_neg (h.number_ne hkey hk hkk)] at hmade
      rw [holdingAt_setPhase_of_ne he hfrom hto j hkk]
      exact h.held hk hmade j

/-- The first evaluation of a key makes its lock, with a number that no other key has. -/
theorem registers_first (h : Orderly w) (he : w.workers[i]? = some e)
    (hphase : e.phase = .arriving key) (hkey : w.locks.table.lookup key = none) :
    Orderly ((w.setPhase i (.waiting key w.locks.made.length)).setLocks
      ⟨w.locks.table ++ [(key, w.locks.made.length)], w.locks.made ++ [⟨1, none⟩]⟩) := by
  have hfrom : Under key w.locks.made.length e.phase := by simp [Under, hphase, Phase.registration?]
  have hto : Under key w.locks.made.length
      (.waiting key w.locks.made.length : Phase ε σ α) := by
    simp [Under, Phase.registration?]
  refine ⟨?_, ?_, ?_, ?_⟩
  · intro j k n hj
    rw [registrationAt_setLocks, registrationAt_setPhase he] at hj
    rw [locks_setLocks, Locks.lookup_append_fresh _ _ _ _ hkey]
    by_cases hij : i = j
    · rw [if_pos hij] at hj
      cases hto _ hj
      exact if_pos rfl
    · rw [if_neg hij] at hj
      have hk : k ≠ key := by
        rintro rfl
        rw [h.named hj] at hkey
        cases hkey
      rw [if_neg hk]
      exact h.named hj
  · intro k k' n hk hk'
    rw [locks_setLocks, Locks.lookup_append_fresh _ _ _ _ hkey] at hk hk'
    split at hk <;> split at hk'
    · simp_all
    · cases hk
      exact absurd (h.number_lt hk') (Nat.lt_irrefl _)
    · cases hk'
      exact absurd (h.number_lt hk) (Nat.lt_irrefl _)
    · exact h.apart hk hk'
  · intro k n hk
    rw [locks_setLocks, Locks.lookup_append_fresh _ _ _ _ hkey] at hk
    rw [registered_setLocks, locks_setLocks]
    by_cases hkk : k = key
    · subst hkk
      rw [if_pos rfl] at hk
      cases hk
      have hset := registered_setPhase he (.waiting k w.locks.made.length) k
      simp [hphase, Phase.registration?, h.registered_eq_zero hkey] at hset
      rw [hset]
      exact ⟨Nat.one_pos, none, by simp⟩
    · rw [if_neg hkk] at hk
      rw [registered_setPhase_of_ne he hfrom hto hkk,
        List.getElem?_append_left (h.number_lt hk)]
      exact h.counted hk
  · intro k n lock hk hlock j
    rw [locks_setLocks, Locks.lookup_append_fresh _ _ _ _ hkey] at hk
    rw [locks_setLocks] at hlock
    rw [holdingAt_setLocks]
    by_cases hkk : k = key
    · subst hkk
      rw [if_pos rfl] at hk
      cases hk
      have hnew : lock = ⟨1, none⟩ := by simpa using hlock.symm
      have hnobody : w.holdingAt j ≠ some (k, w.locks.made.length) := by
        intro hj
        rw [h.named (registrationAt_of_holdingAt hj)] at hkey
        cases hkey
      rw [hnew, holdingAt_setPhase he]
      by_cases hij : i = j <;> simp [hij, Phase.holding?, hnobody]
    · rw [if_neg hkk] at hk
      rw [List.getElem?_append_left (h.number_lt hk)] at hlock
      rw [holdingAt_setPhase_of_ne he hfrom hto j hkk]
      exact h.held hk hlock j

theorem registers_again (h : Orderly w) (he : w.workers[i]? = some e)
    (hphase : e.phase = .arriving key) (hkey : w.locks.table.lookup key = some number) :
    Orderly ((w.setPhase i (.waiting key number)).setLocks
      (w.locks.change number fun lock => { lock with users := lock.users + 1 })) := by
  have hset := registered_setPhase he (.waiting key number) key
  simp [hphase, Phase.registration?] at hset
  obtain ⟨_, holder, hmade⟩ := h.counted hkey
  refine h.changes he hkey ?_ ?_ holder ?_ ?_ ?_
  · simp [Under, hphase, Phase.registration?]
  · simp [Under, Phase.registration?]
  · rw [hmade, hset]
    rfl
  · omega
  · rw [holdingAt_stays he (by rw [hphase]; rfl)]
    exact h.held hkey hmade

theorem takes (h : Orderly w) (he : w.workers[i]? = some e)
    (hphase : e.phase = .waiting key number) (hfree : w.locks.isFree number = true)
    (work : Script ε σ α) :
    Orderly ((w.setPhase i (.inside key number work)).setLocks (w.locks.acquire number i)) := by
  have hkey : w.locks.table.lookup key = some number :=
    h.named (registrationAt_of he (by rw [hphase]; rfl))
  obtain ⟨hpos, holder, hmade⟩ := h.counted hkey
  have hnone : holder = none := by simpa [Locks.isFree, hmade] using hfree
  subst hnone
  have hsame : (w.setPhase i (.inside key number work)).registered = w.registered :=
    registered_stays he (by rw [hphase]; rfl)
  refine h.changes he hkey ?_ ?_ (some i) ?_ ?_ ?_
  · simp [Under, hphase, Phase.registration?]
  · simp [Under, Phase.registration?]
  · rw [hmade, hsame]
    rfl
  · rw [hsame]
    exact hpos
  · intro j
    have hnobody := h.held hkey hmade j
    rw [holdingAt_setPhase he]
    by_cases hij : i = j
    · simp [hij, Phase.holding?]
    · simp [hij, ← hnobody]

theorem ends (h : Orderly w) (he : w.workers[i]? = some e) {result : α}
    (hphase : e.phase = .inside key number (.done result)) :
    Orderly ((w.setPhase i (.leaving key number result)).setLocks (w.locks.release number)) := by
  have hkey : w.locks.table.lookup key = some number :=
    h.named (registrationAt_of he (by rw [hphase]; rfl))
  obtain ⟨hpos, holder, hmade⟩ := h.counted hkey
  have hmine : holder = some i := (h.held hkey hmade i).mpr (holdingAt_of he (by rw [hphase]; rfl))
  have hsame : (w.setPhase i (.leaving key number result)).registered = w.registered :=
    registered_stays he (by rw [hphase]; rfl)
  refine h.changes he hkey ?_ ?_ none ?_ ?_ ?_
  · simp [Under, hphase, Phase.registration?]
  · simp [Under, Phase.registration?]
  · rw [hmade, hsame]
    rfl
  · rw [hsame]
    exact hpos
  · intro j
    have hheld := h.held hkey hmade j
    rw [holdingAt_setPhase he]
    by_cases hij : i = j
    · simp [hij, Phase.holding?]
    · have hnot : holder ≠ some j := by
        rw [hmine]
        simpa using hij
      simp [hij, ← hheld, hnot]

/-- The last evaluation of a key takes the key out of the table, and no other key. -/
theorem leaves_last (h : Orderly w) (he : w.workers[i]? = some e) {p : Phase ε σ α}
    (hkey : w.locks.table.lookup key = some number) (hfrom : Under key number e.phase)
    (hto : p.registration? = none) (hlast : (w.setPhase i p).registered key = 0)
    (f : EntryLock → EntryLock) :
    Orderly ((w.setPhase i p).setLocks
      { w.locks.change number f with table := Locks.eraseKey key w.locks.table }) := by
  have hunder : Under key number p := by simp [Under, hto]
  have hkept : ∀ {k n}, (Locks.eraseKey key w.locks.table).lookup k = some n →
      k ≠ key ∧ w.locks.table.lookup k = some n := by
    intro k n hk
    rw [Locks.lookup_eraseKey] at hk
    split at hk
    · cases hk
    · exact ⟨‹_›, hk⟩
  refine ⟨?_, ?_, ?_, ?_⟩
  · intro j k n hj
    have hk : k ≠ key := by
      rintro rfl
      have hpos := registered_pos_iff.mpr ⟨j, n, hj⟩
      rw [registered_setLocks] at hpos
      omega
    rw [registrationAt_setLocks, registrationAt_setPhase he] at hj
    rw [locks_setLocks, Locks.lookup_eraseKey, if_neg hk]
    by_cases hij : i = j
    · rw [if_pos hij, hto] at hj
      cases hj
    · rw [if_neg hij] at hj
      exact h.named hj
  · intro k k' n hk hk'
    exact h.apart (hkept hk).2 (hkept hk').2
  · intro k n hk
    obtain ⟨hkk, hold⟩ := hkept hk
    rw [registered_setLocks, registered_setPhase_of_ne he hfrom hunder hkk, locks_setLocks]
    have hsame := Locks.made_change w.locks number n f
    rw [if_neg (h.number_ne hkey hold hkk)] at hsame
    rw [hsame]
    exact h.counted hold
  · intro k n lock hk hmade j
    obtain ⟨hkk, hold⟩ := hkept hk
    have hsame := Locks.made_change w.locks number n f
    rw [if_neg (h.number_ne hkey hold hkk)] at hsame
    rw [locks_setLocks, hsame] at hmade
    rw [holdingAt_setLocks, holdingAt_setPhase_of_ne he hfrom hunder j hkk]
    exact h.held hold hmade j

theorem leaves (h : Orderly w) (he : w.workers[i]? = some e) {result : α}
    (hphase : e.phase = .leaving key number result) :
    Orderly ((w.setPhase i (.finished (.ok result))).setLocks (w.locks.deregister key number)) := by
  have hkey : w.locks.table.lookup key = some number :=
    h.named (registrationAt_of he (by rw [hphase]; rfl))
  obtain ⟨hpos, holder, hmade⟩ := h.counted hkey
  have hset := registered_setPhase he (.finished (.ok result)) key
  simp [hphase, Phase.registration?] at hset
  have hfrom : Under key number e.phase := by simp [Under, hphase, Phase.registration?]
  have hleft : (w.locks.made[number]?.map fun lock => { lock with users := lock.users - 1 }) =
      some ⟨(w.setPhase i (.finished (.ok result))).registered key, holder⟩ := by
    rw [hmade, ← hset]
    rfl
  unfold Locks.deregister
  simp only [Locks.made_change, ↓reduceIte, hleft]
  by_cases hlast : (w.setPhase i (.finished (.ok result))).registered key = 0
  · rw [if_pos hlast]
    exact h.leaves_last he hkey hfrom rfl hlast _
  · rw [if_neg hlast]
    refine h.changes he hkey hfrom ?_ holder hleft (Nat.pos_of_ne_zero hlast) ?_
    · simp [Under, Phase.registration?]
    · rw [holdingAt_stays he (by rw [hphase]; rfl)]
      exact h.held hkey hmade

end Orderly

/-! ## Every order of steps -/

/-- The steps of an evaluation, one for each phase. -/
inductive Turn (w : Workplace ε σ α) (i : Nat) (e : Worker ε σ α) : Workplace ε σ α → Prop
  | refused (fault : Fault) : e.phase = .outside → e.key w.shared = .error fault →
    Turn w i e (w.setPhase i (.finished (.error fault)))
  | arrives (key : LockKey) : e.phase = .outside → e.key w.shared = .ok key →
    Turn w i e (w.setPhase i (.arriving key))
  | registers (key : LockKey) : e.phase = .arriving key →
    Turn w i e ((w.setPhase i (.waiting key (w.locks.register key).1)).setLocks
      (w.locks.register key).2)
  | takes (key : LockKey) (number : Nat) : e.phase = .waiting key number →
    w.locks.isFree number = true →
    Turn w i e ((w.setPhase i (.inside key number e.work)).setLocks (w.locks.acquire number i))
  | acts (key : LockKey) (number : Nat) (label : ε) (change : σ → σ)
    (next : σ → Script ε σ α) : e.phase = .inside key number (.act label change next) →
    Turn w i e ((w.setPhase i (.inside key number (next w.shared))).setShared (change w.shared))
  | ends (key : LockKey) (number : Nat) (result : α) :
    e.phase = .inside key number (.done result) →
    Turn w i e ((w.setPhase i (.leaving key number result)).setLocks (w.locks.release number))
  | leaves (key : LockKey) (number : Nat) (result : α) : e.phase = .leaving key number result →
    Turn w i e ((w.setPhase i (.finished (.ok result))).setLocks
      (w.locks.deregister key number))

theorem turn_of_step {w' : Workplace ε σ α} (h : w.step? i = some w') :
    ∃ e, w.workers[i]? = some e ∧ Turn w i e w' := by
  unfold step? at h
  cases he : w.workers[i]? with
  | none => simp [he] at h
  | some e =>
    refine ⟨e, rfl, ?_⟩
    simp only [he] at h
    split at h
    · rename_i hphase
      split at h <;> rename_i hkey <;> cases h
      · exact .refused _ hphase hkey
      · exact .arrives _ hphase hkey
    · rename_i hphase
      cases h
      exact .registers _ hphase
    · rename_i hphase
      split at h
      · cases h
        exact .takes _ _ hphase ‹_›
      · cases h
    · rename_i hphase
      cases h
      exact .ends _ _ _ hphase
    · rename_i hphase
      cases h
      exact .acts _ _ _ _ _ hphase
    · rename_i hphase
      cases h
      exact .leaves _ _ _ hphase
    · cases h

theorem Orderly.step {w' : Workplace ε σ α} (h : Orderly w) (hstep : w.step? i = some w') :
    Orderly w' := by
  obtain ⟨e, he, hturn⟩ := turn_of_step hstep
  cases hturn with
  | refused fault hphase hkey => exact h.moves he (by rw [hphase]; rfl) (by rw [hphase]; rfl)
  | arrives key hphase hkey => exact h.moves he (by rw [hphase]; rfl) (by rw [hphase]; rfl)
  | registers key hphase =>
    unfold Locks.register
    cases hkey : w.locks.table.lookup key with
    | none => exact h.registers_first he hphase hkey
    | some number => exact h.registers_again he hphase hkey
  | takes key number hphase hfree => exact h.takes he hphase hfree e.work
  | acts key number label change next hphase =>
    exact (h.moves he (by rw [hphase]; rfl) (by rw [hphase]; rfl)).drifts _
  | ends key number result hphase => exact h.ends he hphase
  | leaves key number result hphase => exact h.leaves he hphase

theorem orderly_start (evaluations : List ((σ → Except Fault LockKey) × Script ε σ α)) (s : σ) :
    Orderly (start evaluations s) := by
  refine ⟨?_, ?_, ?_, ?_⟩
  · intro i key number hi
    obtain ⟨e, he, hr⟩ := Option.bind_eq_some_iff.mp hi
    rw [start, List.getElem?_map, Option.map_eq_some_iff] at he
    obtain ⟨evaluation, _, rfl⟩ := he
    cases hr
  · intro key key' number hkey
    simp [start, Locks.empty] at hkey
  · intro key number hkey
    simp [start, Locks.empty] at hkey
  · intro key number lock hkey
    simp [start, Locks.empty] at hkey

theorem orderly_of_reachable {drift : σ → σ → Prop} {first : Workplace ε σ α}
    (hfirst : Orderly first) (h : Reachable drift first w) : Orderly w := by
  induction h with
  | start => exact hfirst
  | step _ hstep ih => exact ih.step hstep
  | drift _ _ ih => exact ih.drifts _

theorem reachable_of_steps {drift : σ → σ → Prop} {first : Workplace ε σ α} (order : List Nat)
    {w w' : Workplace ε σ α} (h : Reachable drift first w) (hsteps : w.steps? order = some w') :
    Reachable drift first w' := by
  induction order generalizing w with
  | nil =>
    cases hsteps
    exact h
  | cons i order ih =>
    rw [steps?, List.foldlM_cons] at hsteps
    obtain ⟨w₁, hfirst, hrest⟩ := Option.bind_eq_some_iff.mp hsteps
    exact ih (h.step hfirst) hrest

namespace Orderly

theorem lookup_isSome_iff (h : Orderly w) (key : LockKey) :
    (w.locks.table.lookup key).isSome ↔ 0 < w.registered key := by
  rw [Option.isSome_iff_exists, registered_pos_iff]
  constructor
  · rintro ⟨number, hkey⟩
    exact registered_pos_iff.mp (h.counted hkey).1
  · rintro ⟨i, number, hi⟩
    exact ⟨number, h.named hi⟩

/-- At most one evaluation of a key is at work. -/
theorem alone (h : Orderly w) {m n : Nat} (hi : w.holdingAt i = some (key, m))
    (hj : w.holdingAt j = some (key, n)) : i = j := by
  have hm := h.named (registrationAt_of_holdingAt hi)
  have hn := h.named (registrationAt_of_holdingAt hj)
  cases hm.symm.trans hn
  obtain ⟨_, holder, hmade⟩ := h.counted hm
  have hholder := (h.held hm hmade i).mpr hi
  rw [(h.held hm hmade j).mpr hj] at hholder
  exact (Option.some.inj hholder).symm

/-- Who leaves finds its own lock under its key. The key goes only with the last user, and no
other key goes with it. -/
theorem lookup_deregister (h : Orderly w) (hkey : w.locks.table.lookup key = some number)
    (other : LockKey) :
    (w.locks.deregister key number).table.lookup other =
      if other = key ∧ w.registered key = 1 then none else w.locks.table.lookup other := by
  obtain ⟨hpos, holder, hmade⟩ := h.counted hkey
  unfold Locks.deregister
  simp only [Locks.made_change, ↓reduceIte, hmade, Option.map_some]
  by_cases hlast : w.registered key = 1
  · rw [if_pos (by omega), Locks.table_change, Locks.lookup_eraseKey]
    simp [hlast]
  · rw [if_neg (by omega)]
    simp [hlast]

/-- Who is at work can always go on. -/
theorem step_of_holdingAt (h : w.holdingAt j = some (key, number)) :
    ∃ w', w.step? j = some w' := by
  obtain ⟨f, hf, hh⟩ := Option.bind_eq_some_iff.mp h
  unfold step?
  simp only [hf]
  cases hphase : f.phase with
  | inside k n rest => cases rest <;> exact ⟨_, rfl⟩
  | _ => simp [hphase, Phase.holding?] at hh

theorem step_of_unfinished (h : Orderly w) (he : w.workers[i]? = some e)
    (hopen : e.phase.isFinished = false) : ∃ j w', w.step? j = some w' := by
  cases hstep : w.step? i with
  | some w' => exact ⟨i, w', hstep⟩
  | none =>
    unfold step? at hstep
    simp only [he] at hstep
    split at hstep
    · split at hstep <;> cases hstep
    · cases hstep
    · rename_i key number hphase
      split at hstep
      · cases hstep
      · -- Its lock is taken, so the one that holds the lock can go on.
        rename_i hbusy
        have hkey := h.named (registrationAt_of he (by rw [hphase]; rfl))
        obtain ⟨_, holder, hmade⟩ := h.counted hkey
        cases holder with
        | none => simp [Locks.isFree, hmade] at hbusy
        | some j => exact ⟨j, step_of_holdingAt ((h.held hkey hmade j).mp rfl)⟩
    · cases hstep
    · cases hstep
    · cases hstep
    · rename_i hphase
      simp [hphase, Phase.isFinished] at hopen

theorem table_eq_nil_of_finished (h : Orderly w)
    (hdone : ∀ e ∈ w.workers, e.phase.isFinished = true) : w.locks.table = [] := by
  refine Locks.table_eq_nil fun key => ?_
  cases hkey : w.locks.table.lookup key with
  | none => rfl
  | some number =>
    obtain ⟨i, n, hi⟩ := registered_pos_iff.mp (h.counted hkey).1
    obtain ⟨e, he, hr⟩ := Option.bind_eq_some_iff.mp hi
    have hfinished := hdone e (List.mem_of_getElem? he)
    cases hphase : e.phase with
    | finished result => simp [hphase, Phase.registration?] at hr
    | _ => simp [hphase, Phase.isFinished] at hfinished

end Orderly

/-- For any evaluations and any order of their steps, whatever happens to the shared state in
between: a key has a lock exactly while an evaluation is registered under it, and the lock counts
these evaluations; all of them have the same lock, and one at most is at work; who leaves finds its
own lock, and takes it away only as the last; somebody can go on until all have finished; and then
no lock is left. -/
theorem locks_last_as_long_as_their_evaluations {drift : σ → σ → Prop}
    {evaluations : List ((σ → Except Fault LockKey) × Script ε σ α)} {s : σ}
    (h : Reachable drift (start evaluations s) w) :
    (∀ key, (w.locks.table.lookup key).isSome ↔ 0 < w.registered key) ∧
    (∀ key number, w.locks.table.lookup key = some number →
      ∃ lock, w.locks.made[number]? = some lock ∧ lock.users = w.registered key) ∧
    (∀ i j key m n, w.registrationAt i = some (key, m) → w.registrationAt j = some (key, n) →
      m = n) ∧
    (∀ i j key m n, w.holdingAt i = some (key, m) → w.holdingAt j = some (key, n) → i = j) ∧
    (∀ (i : Nat) (e : Worker ε σ α) key number result, w.workers[i]? = some e →
      e.phase = .leaving key number result →
      w.locks.table.lookup key = some number ∧
      ∀ other, (w.locks.deregister key number).table.lookup other =
        if other = key ∧ w.registered key = 1 then none else w.locks.table.lookup other) ∧
    ((∃ e ∈ w.workers, e.phase.isFinished = false) → ∃ i w', w.step? i = some w') ∧
    ((∀ e ∈ w.workers, e.phase.isFinished = true) → w.locks.table = []) := by
  have hw : Orderly w := orderly_of_reachable (orderly_start evaluations s) h
  refine ⟨hw.lookup_isSome_iff, ?_, ?_, ?_, ?_, ?_, hw.table_eq_nil_of_finished⟩
  · intro key number hkey
    obtain ⟨_, holder, hmade⟩ := hw.counted hkey
    exact ⟨_, hmade, rfl⟩
  · intro i j key m n hi hj
    exact Option.some.inj ((hw.named hi).symm.trans (hw.named hj))
  · intro i j key m n hi hj
    exact hw.alone hi hj
  · intro i e key number result he hphase
    have hkey := hw.named (registrationAt_of he (by rw [hphase]; rfl))
    exact ⟨hkey, hw.lookup_deregister hkey⟩
  · rintro ⟨e, he, hopen⟩
    obtain ⟨i, hi⟩ := List.mem_iff_getElem?.mp he
    exact hw.step_of_unfinished hi hopen

/-- Two evaluations of one file, with nothing to do. -/
def twoOfOneFile : Workplace Unit Unit Unit :=
  start [(fun _ => .ok ⟨"/w", "Main.py"⟩, .done ()), (fun _ => .ok ⟨"/w", "Main.py"⟩, .done ())] ()

/-- Both are registered, and while the first is at work the second is not. -/
theorem two_evaluations_share_a_lock :
    ∃ w, twoOfOneFile.steps? [0, 1, 0, 1, 0] = some w ∧ w.registered ⟨"/w", "Main.py"⟩ = 2 ∧
      w.holdingAt 0 = some (⟨"/w", "Main.py"⟩, 0) ∧
      ∀ j n, w.holdingAt j = some (⟨"/w", "Main.py"⟩, n) → 0 = j := by
  obtain ⟨w, hsteps, hcount, hfirst⟩ :
      ∃ w, twoOfOneFile.steps? [0, 1, 0, 1, 0] = some w ∧ w.registered ⟨"/w", "Main.py"⟩ = 2 ∧
        w.holdingAt 0 = some (⟨"/w", "Main.py"⟩, 0) := ⟨_, rfl, rfl, rfl⟩
  have hreach : Reachable (fun _ _ => False) twoOfOneFile w :=
    reachable_of_steps _ .start hsteps
  refine ⟨w, hsteps, hcount, hfirst, fun j n hj => ?_⟩
  exact (locks_last_as_long_as_their_evaluations hreach).2.2.2.1 0 j _ 0 n hfirst hj

end Workplace

end Worksheet
