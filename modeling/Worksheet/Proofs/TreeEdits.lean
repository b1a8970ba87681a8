-- What a change at one place of a tree of files leaves as it is. A leaf that is put at a place, and
-- a place that is taken away with all below it, concern no file elsewhere.
import Worksheet.Disk.Node

namespace Worksheet

open Text (Octets)

/-- Exactly the keys of a table are found in it. -/
theorem isSome_lookup_iff {α β : Type} [BEq α] [LawfulBEq α] {k : α} {table : List (α × β)} :
    (table.lookup k).isSome = true ↔ k ∈ table.map (·.1) := by
  rw [List.lookup_isSome_iff]
  refine Iff.trans ?_ List.mem_map.symm
  exact exists_congr fun entry => and_congr_right fun _ => beq_iff_eq.trans eq_comm

/-- In a table with no key twice, a key leads to what it stands with. -/
theorem lookup_eq_some_iff_mem {α β : Type} [BEq α] [LawfulBEq α] {k : α} {value : β}
    {table : List (α × β)} (h : (table.map (·.1)).Nodup) :
    table.lookup k = some value ↔ (k, value) ∈ table := by
  induction table with
  | nil => simp
  | cons entry rest ih =>
    obtain ⟨hnew, hrest⟩ := List.nodup_cons.mp h
    obtain ⟨k', value'⟩ := entry
    rw [List.lookup_cons, List.mem_cons]
    by_cases hk : k = k'
    · subst hk
      have hout : (k, value) ∉ rest := fun hmem => hnew (List.mem_map.mpr ⟨_, hmem, rfl⟩)
      simp [hout, eq_comm]
    · rw [beq_false_of_ne hk]
      simp [ih hrest, hk]

/-- Two tables with the same entries, in whatever order, find the same. -/
theorem lookup_eq_of_mem_iff {α β : Type} [BEq α] [LawfulBEq α] {table table' : List (α × β)}
    (h : (table.map (·.1)).Nodup) (h' : (table'.map (·.1)).Nodup)
    (hsame : ∀ entry, entry ∈ table ↔ entry ∈ table') (k : α) :
    table.lookup k = table'.lookup k :=
  Option.ext fun value => by
    rw [lookup_eq_some_iff_mem h, lookup_eq_some_iff_mem h', hsame]

namespace Node

/-! ## Entries -/

theorem lookup_setEntry (name k : Octets) (node : Node) (entries : List (Octets × Node)) :
    (setEntry name node entries).lookup k =
      if k = name then some node else entries.lookup k := by
  induction entries with
  | nil =>
    by_cases hk : k = name
    · simp [setEntry, hk]
    · have hbeq : (k == name) = false := by simpa using hk
      simp [setEntry, List.lookup_cons, hbeq, hk]
  | cons entry rest ih =>
    obtain ⟨j, n⟩ := entry
    unfold setEntry
    by_cases hj : j = name
    · subst hj
      by_cases hk : k = j
      · simp [hk]
      · have hbeq : (k == j) = false := by simpa using hk
        simp [List.lookup_cons, hbeq, hk]
    · rw [if_neg hj, List.lookup_cons, List.lookup_cons, ih]
      by_cases hkj : k = j
      · subst hkj
        simp [hj]
      · have hbeq : (k == j) = false := by simpa using hkj
        rw [hbeq]

theorem lookup_eraseEntry (name k : Octets) (entries : List (Octets × Node)) :
    (eraseEntry name entries).lookup k = if k = name then none else entries.lookup k := by
  induction entries with
  | nil => simp [eraseEntry]
  | cons entry rest ih =>
    obtain ⟨j, n⟩ := entry
    unfold eraseEntry at ih ⊢
    by_cases hj : j = name
    · subst hj
      rw [List.filter_cons_of_neg (by simp), ih, List.lookup_cons]
      by_cases hk : k = j
      · simp [hk]
      · have hbeq : (k == j) = false := by simpa using hk
        simp [hbeq]
    · rw [List.filter_cons_of_pos (by simpa using hj), List.lookup_cons, List.lookup_cons, ih]
      by_cases hkj : k = j
      · subst hkj
        simp [hj]
      · have hbeq : (k == j) = false := by simpa using hkj
        rw [hbeq]

/-! ## Places -/

variable {now : Int} {node root n : Node} {p q : Place}

theorem at?_cons (root : Node) (c : Octets) (p : Place) :
    root.at? (c :: p) = (root.child? c).bind fun m => m.at? p := by
  rw [at?]
  cases root.child? c <;> rfl

theorem at?_append (root : Node) (p q : Place) :
    root.at? (p ++ q) = (root.at? p).bind fun m => m.at? q := by
  induction p generalizing root with
  | nil => rfl
  | cons c p ih =>
    rw [List.cons_append, at?_cons, at?_cons]
    cases root.child? c with
    | none => rfl
    | some m => exact ih m

/-- Nothing stands below what is no directory. -/
theorem at?_of_not_directory (h : root.isDirectory = false) (hp : p ≠ []) : root.at? p = none := by
  cases p with
  | nil => exact absurd rfl hp
  | cons c p =>
    rw [at?_cons]
    cases root <;> first | rfl | cases h

theorem isDirectory_of_at? (h : root.at? (p ++ q) = some n) (hq : q ≠ []) :
    ∃ m, root.at? p = some m ∧ m.isDirectory = true := by
  rw [at?_append] at h
  obtain ⟨m, hm, hbelow⟩ := Option.bind_eq_some_iff.mp h
  refine ⟨m, hm, ?_⟩
  cases hdir : m.isDirectory with
  | true => rfl
  | false => rw [at?_of_not_directory hdir hq] at hbelow; cases hbelow

/-! ## Putting a leaf -/

/-- A node that nothing stands below. -/
def IsLeaf (node : Node) : Prop := ∀ p, p ≠ [] → node.at? p = none

theorem put_directory (mode : Mode) (modified : Int) (entries : List (Octets × Node)) (c : Octets)
    (rest : Place) :
    put now node (c :: rest) (.directory mode modified entries) =
      match entries.lookup c, rest with
      | some m, rest => .directory mode modified (setEntry c (put now node rest m) entries)
      | none, [] => .directory mode now (setEntry c node entries)
      | none, _ => .directory mode modified entries := by
  conv => lhs; unfold put
  cases entries.lookup c <;> cases rest <;> rfl

/-- The children of a directory after something has been put at a place in it. -/
theorem child?_put (mode : Mode) (modified : Int) (entries : List (Octets × Node)) (c k : Octets)
    (rest : Place) :
    (put now node (c :: rest) (.directory mode modified entries)).child? k =
      if k = c then
        match entries.lookup c with
        | some m => some (put now node rest m)
        | none => if rest = [] then some node else none
      else entries.lookup k := by
  rw [put_directory]
  cases hc : entries.lookup c with
  | some m => simp only [child?, Node.entries, lookup_setEntry]
  | none =>
    cases rest with
    | nil => simp only [child?, Node.entries, lookup_setEntry, ↓reduceIte]
    | cons b rest =>
      by_cases hk : k = c
      · subst hk
        simp [child?, Node.entries, hc]
      · simp [child?, Node.entries, hk]

/-- What stands at a place afterwards and is no directory is what has been put, or has stood there
before. -/
theorem at?_of_at?_put (hleaf : IsLeaf node) (h : (put now node q root).at? p = some n)
    (hn : n.isDirectory = false) : (p = q ∧ n = node) ∨ root.at? p = some n := by
  induction q generalizing root p with
  | nil =>
    rw [put] at h
    cases p with
    | nil => exact Or.inl ⟨rfl, (Option.some.inj h).symm⟩
    | cons c p =>
      rw [hleaf _ (by simp)] at h
      cases h
  | cons c q ih =>
    cases root with
    | directory mode modified entries =>
      cases p with
      | nil =>
        -- The directory itself is there before and afterwards.
        rw [put_directory] at h
        split at h <;> cases h <;> cases hn
      | cons k p =>
        rw [at?_cons, child?_put] at h
        rw [at?_cons]
        by_cases hk : k = c
        · subst hk
          rw [if_pos rfl] at h
          cases hold : entries.lookup k with
          | some m =>
            simp only [hold, Option.bind_some] at h
            rcases ih h with ⟨rfl, rfl⟩ | hbefore
            · exact Or.inl ⟨rfl, rfl⟩
            · exact Or.inr (by simpa [child?, Node.entries, hold] using hbefore)
          | none =>
            simp only [hold] at h
            split at h
            · rename_i hq
              subst hq
              cases p with
              | nil => exact Or.inl ⟨rfl, (Option.some.inj h).symm⟩
              | cons b p =>
                rw [Option.bind_some, hleaf _ (by simp)] at h
                cases h
            · cases h
        · rw [if_neg hk] at h
          exact Or.inr h
    | _ => exact Or.inr h

/-- What is no directory stays where it is, unless something is put there or above. -/
theorem at?_put_of_not_prefix (hq : ¬q <+: p) (h : root.at? p = some n)
    (hn : n.isDirectory = false) : (put now node q root).at? p = some n := by
  induction q generalizing root p with
  | nil => exact absurd (List.nil_prefix) hq
  | cons c q ih =>
    cases root with
    | directory mode modified entries =>
      cases p with
      | nil =>
        cases h
        cases hn
      | cons k p =>
        rw [at?_cons] at h
        rw [at?_cons, child?_put]
        by_cases hk : k = c
        · subst hk
          have hbelow : ¬q <+: p := fun hpre => hq (List.cons_prefix_cons.mpr ⟨rfl, hpre⟩)
          cases hold : entries.lookup k with
          | some m =>
            have hm : m.at? p = some n := by simpa [child?, Node.entries, hold] using h
            simpa [hold] using ih hbelow hm
          | none => simp [child?, Node.entries, hold] at h
        · rw [if_neg hk]
          exact h
    | _ => exact h

/-- A leaf that takes the place of something stands there. -/
theorem at?_put_of_isSome (h : (root.at? q).isSome = true) :
    (put now node q root).at? q = some node := by
  induction q generalizing root with
  | nil => rw [put]; rfl
  | cons c q ih =>
    cases root with
    | directory mode modified entries =>
      rw [at?_cons] at h
      rw [at?_cons, child?_put, if_pos rfl]
      cases hold : entries.lookup c with
      | some m => exact ih (by simpa [child?, Node.entries, hold] using h)
      | none => simp [child?, Node.entries, hold] at h
    | _ => cases h

/-- A leaf that is put into a directory stands there. -/
theorem at?_put_of_directory {directory : Node} (hnone : root.at? q = none)
    (habove : root.at? q.dropLast = some directory) (hdir : directory.isDirectory = true) :
    (put now node q root).at? q = some node := by
  induction q generalizing root with
  | nil => cases hnone
  | cons c q ih =>
    cases root with
    | directory mode modified entries =>
      rw [at?_cons] at hnone
      rw [at?_cons, child?_put, if_pos rfl]
      cases hold : entries.lookup c with
      | none =>
        cases q with
        | nil => rfl
        | cons b q =>
          rw [List.dropLast_cons_cons, at?_cons] at habove
          simp [child?, Node.entries, hold] at habove
      | some m =>
        have hm : m.at? q = none := by simpa [child?, Node.entries, hold] using hnone
        cases q with
        | nil => cases hm
        | cons b q =>
          rw [List.dropLast_cons_cons, at?_cons] at habove
          exact ih hm (by simpa [child?, Node.entries, hold] using habove)
    | _ =>
      cases q with
      | nil =>
        cases habove
        cases hdir
      | cons b q =>
        rw [List.dropLast_cons_cons, at?_cons] at habove
        cases habove

/-! ## Taking away -/

theorem erase_directory (mode : Mode) (modified : Int) (entries : List (Octets × Node)) (c : Octets)
    (rest : Place) :
    erase now (c :: rest) (.directory mode modified entries) =
      match entries.lookup c, rest with
      | some _, [] => .directory mode now (eraseEntry c entries)
      | some m, rest => .directory mode modified (setEntry c (erase now rest m) entries)
      | none, _ => .directory mode modified entries := by
  conv => lhs; unfold erase
  cases entries.lookup c <;> cases rest <;> rfl

/-- The children of a directory after something below it has been taken away. -/
theorem child?_erase (mode : Mode) (modified : Int) (entries : List (Octets × Node)) (c k : Octets)
    (rest : Place) :
    (erase now (c :: rest) (.directory mode modified entries)).child? k =
      if k = c then
        if rest = [] then none else (entries.lookup c).map (erase now rest)
      else entries.lookup k := by
  rw [erase_directory]
  cases hc : entries.lookup c with
  | none =>
    by_cases hk : k = c
    · subst hk
      simp [child?, Node.entries, hc]
    · simp [child?, Node.entries, hk]
  | some m =>
    cases rest with
    | nil => simp only [child?, Node.entries, lookup_eraseEntry, ↓reduceIte]
    | cons b rest => simp [child?, Node.entries, lookup_setEntry]

theorem isDirectory_erase (now : Int) (c : Octets) (rest : Place) (mode : Mode) (modified : Int)
    (entries : List (Octets × Node)) :
    (erase now (c :: rest) (.directory mode modified entries)).isDirectory = true := by
  rw [erase_directory]
  split <;> rfl

/-- Nothing new comes of taking away, but for the entries of directories. -/
theorem at?_of_at?_erase (h : (erase now q root).at? p = some n) (hn : n.isDirectory = false) :
    root.at? p = some n := by
  induction q generalizing root p with
  | nil => cases root <;> exact h
  | cons c q ih =>
    cases root with
    | directory mode modified entries =>
      cases p with
      | nil =>
        have hdir := isDirectory_erase now c q mode modified entries
        cases h
        rw [hdir] at hn
        cases hn
      | cons k p =>
        rw [at?_cons, child?_erase] at h
        rw [at?_cons]
        by_cases hk : k = c
        · subst hk
          rw [if_pos rfl] at h
          by_cases hq : q = []
          · rw [if_pos hq] at h
            cases h
          · rw [if_neg hq] at h
            cases hold : entries.lookup k with
            | none => simp [hold] at h
            | some m =>
              have hm : m.at? p = some n := ih (by simpa [hold] using h)
              simpa [child?, Node.entries, hold] using hm
        · rw [if_neg hk] at h
          exact h
    | _ => exact h

/-- What is no directory stays where it is, unless it is taken away or something above it. -/
theorem at?_erase_of_not_prefix (hq : ¬q <+: p) (h : root.at? p = some n)
    (hn : n.isDirectory = false) : (erase now q root).at? p = some n := by
  induction q generalizing root p with
  | nil => exact absurd (List.nil_prefix) hq
  | cons c q ih =>
    cases root with
    | directory mode modified entries =>
      cases p with
      | nil =>
        cases h
        cases hn
      | cons k p =>
        rw [at?_cons] at h
        rw [at?_cons, child?_erase]
        by_cases hk : k = c
        · subst hk
          have hbelow : ¬q <+: p := fun hpre => hq (List.cons_prefix_cons.mpr ⟨rfl, hpre⟩)
          have hne : q ≠ [] := by
            rintro rfl
            exact hbelow List.nil_prefix
          rw [if_pos rfl, if_neg hne]
          cases hold : entries.lookup k with
          | none => simp [child?, Node.entries, hold] at h
          | some m =>
            have hm : m.at? p = some n := by simpa [child?, Node.entries, hold] using h
            exact ih hbelow hm
        · rw [if_neg hk]
          exact h
    | _ => exact h

end Node

end Worksheet
