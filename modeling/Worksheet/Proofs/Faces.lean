-- What is seen at each place of a disk: of a directory its mode, and all of anything else. What is
-- put is seen at its place, and every other place looks as it has looked before.
import Worksheet.Proofs.Footprints

namespace Worksheet

open Text (Bytes Octets)

/-! ## Faces of nodes -/

namespace Node

variable {now : Int} {node root n m : Node} {p q : Place}

/-- A node as it is seen by itself, without the entries of a directory and their last change. -/
def face : Node → Node
  | .directory mode _ _ => .directory mode 0 []
  | n => n

@[simp]
theorem isDirectory_face (n : Node) : n.face.isDirectory = n.isDirectory := by
  cases n <;> rfl

@[simp]
theorem allows_face (n : Node) (right : Right) : n.face.allows right = n.allows right := by
  cases n <;> rfl

theorem face_eq_self (h : n.isDirectory = false) : n.face = n := by
  cases n <;> first | rfl | cases h

theorem isDirectory_eq_of_face (h : n.face = m.face) : n.isDirectory = m.isDirectory := by
  rw [← isDirectory_face, h, isDirectory_face]

theorem allows_eq_of_face (h : n.face = m.face) (right : Right) :
    n.allows right = m.allows right := by
  rw [← allows_face, h, allows_face]

/-- What no directory looks like but itself. -/
theorem eq_of_face (h : n.face = m.face) (hdir : m.isDirectory = false) : n = m := by
  have hn : n.isDirectory = false := (isDirectory_eq_of_face h).trans hdir
  rw [← face_eq_self hn, h, face_eq_self hdir]

/-- A leaf can be put at a place: something that is no directory stands there, or nothing but its
directory. -/
def Fits (root : Node) (q : Place) : Prop :=
  (∃ n, root.at? q = some n ∧ n.isDirectory = false) ∨
    (root.at? q = none ∧ ∃ n, root.at? q.dropLast = some n ∧ n.isDirectory = true)

theorem child?_put_last (mode : Mode) (modified : Int) (entries : List (Octets × Node))
    (c k : Octets) :
    (put now node [c] (.directory mode modified entries)).child? k =
      if k = c then some node else entries.lookup k := by
  rw [child?_put]
  split
  · cases entries.lookup c <;> rfl
  · rfl

theorem Fits.last {c : Octets} (h : Fits root [c]) (hm : root.child? c = some m) :
    m.isDirectory = false := by
  have hat : root.at? [c] = some m := by
    rw [at?_cons, hm]
    rfl
  rcases h with ⟨n, hn, hfile⟩ | ⟨hnone, -⟩
  · cases hat.symm.trans hn
    exact hfile
  · cases hat.symm.trans hnone

theorem Fits.tail {mode : Mode} {modified : Int} {entries : List (Octets × Node)} {c b : Octets}
    (h : Fits (.directory mode modified entries) (c :: b :: q)) :
    ∃ m, entries.lookup c = some m ∧ Fits m (b :: q) := by
  unfold Fits at h
  simp only [List.dropLast_cons_cons, at?_cons (.directory mode modified entries)] at h
  rcases h with ⟨n, hn, hfile⟩ | ⟨hnone, n, hn, hdir⟩
  · obtain ⟨m, hm, hbelow⟩ := Option.bind_eq_some_iff.mp hn
    exact ⟨m, hm, Or.inl ⟨n, hbelow, hfile⟩⟩
  · obtain ⟨m, hm, hbelow⟩ := Option.bind_eq_some_iff.mp hn
    rw [hm] at hnone
    exact ⟨m, hm, Or.inr ⟨hnone, n, hbelow, hdir⟩⟩

/-- A leaf that is put where it fits is seen there, and all else is seen as before. -/
theorem face_at?_put (hleaf : IsLeaf node) (hfits : Fits root q) (p : Place) :
    ((put now node q root).at? p).map face =
      if p = q then some node.face else (root.at? p).map face := by
  induction q generalizing root p with
  | nil =>
    obtain ⟨n, hn, hfile⟩ | ⟨hnone, -⟩ := hfits
    · cases hn
      rw [put]
      by_cases hp : p = []
      · rw [if_pos hp, hp]
        rfl
      · rw [if_neg hp, hleaf p hp, at?_of_not_directory hfile hp]
    · cases hnone
  | cons c q ih =>
    obtain ⟨mode, modified, entries, rfl⟩ :
        ∃ mode modified entries, root = .directory mode modified entries := by
      cases root with
      | directory mode modified entries => exact ⟨_, _, _, rfl⟩
      | _ =>
        rcases hfits with ⟨n, hn, -⟩ | ⟨-, n, hn, hdir⟩
        · cases hn
        · cases q with
          | nil =>
            cases hn
            cases hdir
          | cons b q => cases hn
    cases p with
    | nil =>
      rw [if_neg (List.cons_ne_nil c q).symm, put_directory]
      split <;> rfl
    | cons k p =>
      rw [at?_cons, at?_cons]
      by_cases hk : k = c
      · subst hk
        cases q with
        | nil =>
          rw [child?_put_last, if_pos rfl, Option.bind_some]
          by_cases hp : p = []
          · rw [hp, if_pos rfl]
            rfl
          · rw [hleaf p hp, if_neg (by simp [hp])]
            cases hchild : (directory mode modified entries).child? k with
            | none => rfl
            | some m => rw [Option.bind_some, at?_of_not_directory (hfits.last hchild) hp]
        | cons b q =>
          obtain ⟨m, hm, hbelow⟩ := hfits.tail
          have hchild : (directory mode modified entries).child? k = some m := hm
          rw [child?_put, if_pos rfl, hchild, hm, Option.bind_some, Option.bind_some, ih hbelow]
          simp
      · rw [child?_put, if_neg hk, if_neg (by simp [hk])]
        rfl

/-! ## Names of entries -/

/-- The names that a directory lists. -/
def names (n : Node) : List Octets := n.entries.map (·.1)

theorem IsNew.names (h : node.IsNew) : node.names = [] := by
  cases node with
  | directory mode modified entries =>
    cases h
    rfl
  | file => rfl
  | _ => cases h

theorem eq_or_mem_of_mem_setEntry {c k : Octets} {entries : List (Octets × Node)}
    (h : k ∈ (setEntry c node entries).map (·.1)) : k = c ∨ k ∈ entries.map (·.1) := by
  rw [← isSome_lookup_iff, lookup_setEntry] at h
  by_cases hk : k = c
  · exact Or.inl hk
  · rw [if_neg hk] at h
    exact Or.inr (isSome_lookup_iff.mp h)

theorem nodup_setEntry {entries : List (Octets × Node)} (h : (entries.map (·.1)).Nodup)
    (c : Octets) (node : Node) : ((setEntry c node entries).map (·.1)).Nodup := by
  induction entries with
  | nil => exact List.nodup_cons.mpr ⟨List.not_mem_nil, List.nodup_nil⟩
  | cons entry rest ih =>
    obtain ⟨hfirst, hrest⟩ := List.nodup_cons.mp h
    unfold setEntry
    split
    · exact h
    · next hne =>
      refine List.nodup_cons.mpr ⟨fun hback => ?_, ih hrest⟩
      exact (eq_or_mem_of_mem_setEntry hback).elim hne hfirst

/-- Where no name has been listed twice, none is after something has been put. -/
theorem nodup_names_put (hnode : node.IsNew)
    (h : ∀ n, root.at? p = some n → n.names.Nodup) (hn : (put now node q root).at? p = some n) :
    n.names.Nodup := by
  have hnew : ∀ {p : Place} {n : Node}, node.at? p = some n → n.names.Nodup := by
    intro p n hn
    by_cases hp : p = []
    · subst hp
      cases hn
      rw [hnode.names]
      exact List.nodup_nil
    · rw [hnode.isLeaf p hp] at hn
      cases hn
  induction q generalizing root p n with
  | nil => exact hnew hn
  | cons c q ih =>
    cases root with
    | directory mode modified entries =>
      cases p with
      | nil =>
        have hold : (entries.map (·.1)).Nodup := h _ rfl
        rw [put_directory] at hn
        split at hn <;> cases hn
        · exact nodup_setEntry hold _ _
        · exact nodup_setEntry hold _ _
        · exact hold
      | cons k p =>
        simp only [at?_cons (.directory mode modified entries)] at h
        rw [at?_cons, child?_put] at hn
        split at hn
        · cases hold : entries.lookup c with
          | some m =>
            subst k
            rw [hold] at hn
            refine ih (fun n' hn' => h n' ?_) hn
            rw [show (directory mode modified entries).child? c = some m from hold]
            exact hn'
          | none =>
            simp only [hold] at hn
            split at hn
            · exact hnew hn
            · cases hn
        · exact h n hn
    | _ => exact h n hn

end Node

/-! ## Faces of places -/

namespace Disk

variable {d d' : Disk} {p q : Place} {n : Node}

/-- What is seen at a place. -/
def face? (d : Disk) (p : Place) : Option Node := (d.node? p).map Node.face

theorem face?_of_node? (h : d.node? p = some n) : d.face? p = some n.face := by
  unfold face?
  rw [h]
  rfl

theorem face?_eq_none_iff : d.face? p = none ↔ d.node? p = none := Option.map_eq_none_iff

theorem exists_of_face? (h : d.face? p = some n) : ∃ m, d.node? p = some m ∧ m.face = n :=
  Option.map_eq_some_iff.mp h

/-- What is seen and is no directory stands there. -/
theorem node?_of_face? (hdir : n.isDirectory = false) :
    d.face? p = some n ↔ d.node? p = some n := by
  constructor
  · intro h
    obtain ⟨m, hm, hface⟩ := exists_of_face? h
    rw [← Node.face_eq_self hdir] at hface
    rw [hm, Node.eq_of_face hface hdir]
  · intro h
    rw [face?_of_node? h, Node.face_eq_self hdir]

/-- What is put where it fits is seen there, and all else is seen as before. -/
theorem face?_put {node : Node} (hnode : node.IsNew) (hfits : d.Fits q) (p : Place) :
    (d.put q node).face? p = if p = q then some node.face else d.face? p := by
  unfold face? node?
  rw [root_put hnode]
  exact Node.face_at?_put hnode.isLeaf hfits p

/-! ## Additions -/

/-- No directory at the place lists a name twice. -/
def ListsOnce (d : Disk) (p : Place) : Prop := ∀ n, d.node? p = some n → n.names.Nodup

/-- Something is new at some places where nothing has stood, and all else is seen as before. -/
structure Adds (new : Place → Option Node) (d d' : Disk) : Prop where
  current : d'.current = d.current
  scratch : d'.scratch = d.scratch
  now : d'.now = d.now
  faces : ∀ p, d'.face? p = (d.face? p).or (new p)
  lists : ∀ p, d.ListsOnce p → d'.ListsOnce p

variable {new new' : Place → Option Node} {d'' : Disk}

theorem Adds.refl (d : Disk) : Adds (fun _ => none) d d :=
  ⟨rfl, rfl, rfl, fun _ => Option.or_none.symm, fun _ => id⟩

theorem Adds.trans (h : Adds new d d') (h' : Adds new' d' d'') :
    Adds (fun p => (new p).or (new' p)) d d'' :=
  ⟨h'.current.trans h.current, h'.scratch.trans h.scratch, h'.now.trans h.now,
    fun p => by rw [h'.faces, h.faces, Option.or_assoc], fun p hp => h'.lists p (h.lists p hp)⟩

/-- Only what is new where nothing has stood counts. -/
theorem Adds.congr (h : Adds new d d') (hsame : ∀ p, d.node? p = none → new p = new' p) :
    Adds new' d d' := by
  refine ⟨h.current, h.scratch, h.now, fun p => ?_, h.lists⟩
  rw [h.faces]
  cases hp : d.face? p with
  | none => rw [hsame p (face?_eq_none_iff.mp hp)]
  | some n => rfl

theorem Adds.changeTime (h : Adds new d d') : d'.changeTime = d.changeTime := by
  unfold Disk.changeTime
  rw [h.now]

theorem Adds.face?_of_some (h : Adds new d d') (hp : d.face? p = some n) : d'.face? p = some n := by
  rw [h.faces, hp]
  rfl

/-- A tree grows when no link is new. -/
theorem Adds.grows (h : Adds new d d')
    (hlink : ∀ p target time, new p ≠ some (.link target time)) : d.root.Grows d'.root := by
  refine ⟨fun p n hn => ?_, fun p target time hnone hnew => ?_⟩
  · obtain ⟨n', hn', hface⟩ := exists_of_face? (h.face?_of_some (face?_of_node? hn))
    refine ⟨n', hn', ?_⟩
    cases n <;> cases n' <;> cases hface <;> rfl
  · have hface := h.faces p
    rw [face?_of_node? hnew, face?_eq_none_iff.mpr hnone, Option.none_or] at hface
    exact hlink p target time hface.symm

/-- What is put where nothing has stood but its directory. -/
theorem adds_put {node : Node} (hnode : node.IsNew) (hnone : d.node? q = none)
    (habove : ∃ n, d.node? q.dropLast = some n ∧ n.isDirectory = true) :
    Adds (fun p => if p = q then some node.face else none) d (d.put q node) := by
  refine ⟨rfl, rfl, rfl, fun p => ?_, fun p hp n hn => ?_⟩
  · rw [face?_put hnode (Or.inr ⟨hnone, habove⟩)]
    split
    · next heq =>
      rw [heq, face?_eq_none_iff.mpr hnone]
      rfl
    · exact Option.or_none.symm
  · unfold node? at hn
    rw [root_put hnode] at hn
    exact Node.nodup_names_put hnode hp hn

end Disk

end Worksheet
