-- What an export leaves on the disk. Below a root in which everything may be done, the directories
-- on the way to a file are made when they are missing, and then the file; files that are not in
-- each other's way can be exported one after the other.
import Mathlib.Data.List.Induction
import Mathlib.Data.List.Pairwise
import Worksheet.Proofs.RootedPaths

namespace Worksheet

open Text (Bytes Octets Points)

/-- A directory in which everything may be done. -/
def Node.IsFree (n : Node) : Prop := n.isDirectory = true ∧ ∀ right, n.allows right = true

theorem Node.IsFree.of_face {n m : Node} (h : n.IsFree) (hface : m.face = n.face) : m.IsFree :=
  ⟨(isDirectory_eq_of_face hface).trans h.1, fun right =>
    (allows_eq_of_face hface right).trans (h.2 right)⟩

namespace Disk

variable {d d' : Disk} {root : Path} {base p q : Place} {names further : List Octets} {n : Node}

theorem isSome_above (h : (d.node? q).isSome = true) (hp : p <+: q) :
    (d.node? p).isSome = true := by
  obtain ⟨further, rfl⟩ := hp
  unfold node? at h ⊢
  rw [Node.at?_append] at h
  cases hat : d.root.at? p with
  | none =>
    rw [hat] at h
    cases h
  | some n => rfl

/-! ## What is new -/

/-- A directory that is made on the way to a file. -/
def newDirectory : Node := .directory (Mode.ofDirectory.without Mode.usualMask) 0 []

/-- A file that is made on a disk. -/
def newFile (d : Disk) (data : Bytes) : Node :=
  .file data (Mode.ofFile.without Mode.usualMask) d.changeTime 0

/-- A way below a directory brings directories. -/
def wayBrings (base : Place) (names : List Octets) (p : Place) : Option Node :=
  if base <+: p ∧ p <+: base ++ names then some newDirectory else none

/-- A file below a directory brings itself, and the way to it. -/
def fileBrings (base : Place) (names : List Octets) (file : Node) (p : Place) : Option Node :=
  if p = base ++ names then some file else wayBrings base names.dropLast p

theorem isFree_newDirectory : newDirectory.IsFree := ⟨rfl, fun right => by cases right <;> rfl⟩

theorem wayBrings_eq_some (h : wayBrings base names p = some n) :
    n = newDirectory ∧ ∃ above, above <+: names ∧ p = base ++ above := by
  unfold wayBrings at h
  split at h
  · next hway =>
    obtain ⟨⟨above, rfl⟩, hup⟩ := hway
    exact ⟨(Option.some.inj h).symm, above, (List.prefix_append_right_inj base).mp hup, rfl⟩
  · cases h

theorem wayBrings_above (h : further <+: names) :
    wayBrings base names (base ++ further) = some newDirectory :=
  if_pos ⟨List.prefix_append .., (List.prefix_append_right_inj base).mpr h⟩

theorem fileBrings_eq_some {file : Node} (h : fileBrings base names file p = some n) :
    p = base ++ names ∧ n = file ∨
      n = newDirectory ∧ ∃ above, above <+: names.dropLast ∧ p = base ++ above := by
  unfold fileBrings at h
  split at h
  · next heq => exact Or.inl ⟨heq, (Option.some.inj h).symm⟩
  · exact Or.inr (wayBrings_eq_some h)

/-! ## Clear ways -/

/-- On the way from a directory to some names, nothing stands but directories in which everything
may be done. -/
def Clear (d : Disk) (base : Place) (names : List Octets) : Prop :=
  ∀ above n, above <+: names → d.node? (base ++ above) = some n → n.IsFree

theorem Clear.above (h : d.Clear base names) (hfurther : further <+: names) :
    d.Clear base further := fun above n habove hn => h above n (habove.trans hfurther) hn

/-- A clear way to something that stands can be passed. -/
theorem Clear.onward {init : List Octets} {c : Octets} (h : d.Clear base init)
    (hstands : (d.node? (base ++ init)).isSome = true) : d.Onward base (init ++ [c]) := by
  intro front x back hsplit
  have hfront : front <+: init := by
    rcases List.eq_nil_or_concat back with rfl | ⟨back, last, rfl⟩
    · obtain ⟨rfl, -⟩ := List.append_inj' hsplit rfl
      exact List.prefix_refl _
    · rw [List.concat_eq_append, ← List.cons_append, ← List.append_assoc] at hsplit
      obtain ⟨rfl, -⟩ := List.append_inj' hsplit rfl
      exact List.prefix_append ..
  obtain ⟨n, hn⟩ := Option.isSome_iff_exists.mp
    (isSome_above hstands ((List.prefix_append_right_inj base).mpr hfront))
  have hfree := h front n hfront hn
  exact ⟨n, hn, hfree.1, hfree.2 .run⟩

theorem Clear.mayChange (h : d.Clear base names)
    (hstands : (d.node? (base ++ names)).isSome = true) :
    d.mayChange (base ++ names) = .ok () := by
  obtain ⟨n, hn⟩ := Option.isSome_iff_exists.mp hstands
  obtain ⟨hdir, hrights⟩ := h names n (List.prefix_refl _) hn
  unfold Disk.mayChange
  simp [hn, hdir, hrights]

/-- A way stays clear when only directories are new on it. -/
theorem Adds.clear {new : Place → Option Node} (h : Adds new d d') (hclear : d.Clear base names)
    (hnew : ∀ above n, above <+: names → new (base ++ above) = some n → n.IsFree) :
    d'.Clear base names := by
  intro above n habove hn
  have hface := h.faces (base ++ above)
  rw [face?_of_node? hn] at hface
  cases hold : d.face? (base ++ above) with
  | some m =>
    obtain ⟨m', hm', rfl⟩ := exists_of_face? hold
    rw [hold] at hface
    exact (hclear above m' habove hm').of_face (Option.some.inj hface)
  | none =>
    rw [hold, Option.none_or] at hface
    obtain ⟨hdir, hrights⟩ := hnew above _ habove hface.symm
    exact ⟨by rwa [Node.isDirectory_face] at hdir, fun right => by
      have hright := hrights right
      rwa [Node.allows_face] at hright⟩

/-- What is put again where it has just been put. -/
theorem Adds.put_again {new : Place → Option Node} (h : Adds new d d') {node : Node}
    (hnode : node.IsNew) (hnone : d.node? q = none) (hn : d'.node? q = some n)
    (hdir : n.isDirectory = false) :
    Adds (fun p => if p = q then some node.face else new p) d (d'.put q node) := by
  refine ⟨h.current, h.scratch, h.now, fun p => ?_, fun p hp m hm => ?_⟩
  · rw [face?_put hnode (Or.inl ⟨n, hn, hdir⟩), h.faces]
    split
    · next heq =>
      rw [heq, face?_eq_none_iff.mpr hnone]
      rfl
    · rfl
  · unfold node? at hm
    rw [root_put hnode] at hm
    exact Node.nodup_names_put hnode (h.lists p hp) hm

/-! ## Directories on the way -/

section Paving

variable {init : List Octets} {c : Octets}

theorem LeadsTo.makeDirectory_new (h : d.LeadsTo root base)
    (hnames : ∀ x ∈ init ++ [c], IsLegal x)
    (hshort : (Artifacts.wayBelow root (init ++ [c])).octets.length ≤ maxPathBytes)
    (hclear : d.Clear base init) (hstands : (d.node? (base ++ init)).isSome = true)
    (hnone : d.node? (base ++ (init ++ [c])) = none) :
    d.makeDirectory d.current Mode.usualMask (Artifacts.wayBelow root (init ++ [c])).octets =
      .ok (d.put (base ++ (init ++ [c]))
        (.directory (Mode.ofDirectory.without Mode.usualMask) d.changeTime [])) := by
  have hlocate : d.locateWith false d.current _ = .ok _ :=
    h.locateWith_onward hnames (by simp) hshort (hclear.onward hstands) fun _ _ _ => rfl
  unfold makeDirectory freePlace
  rw [locateWith_trimSlashes (named_wayBelow h.normal hnames), hlocate]
  simp only [hnone]
  rw [← List.append_assoc, List.dropLast_concat, hclear.mayChange hstands]
  rfl

/-- Where only a directory is missing, it is made. -/
theorem LeadsTo.adds_ensureDirectory (h : d.LeadsTo root base)
    (hnames : ∀ x ∈ init ++ [c], IsLegal x)
    (hshort : (Artifacts.wayBelow root (init ++ [c])).octets.length ≤ maxPathBytes)
    (hclear : d.Clear base init) (hstands : (d.node? (base ++ init)).isSome = true)
    (hnone : d.node? (base ++ (init ++ [c])) = none) :
    ∃ d', d.ensureDirectory (Artifacts.wayBelow root (init ++ [c])) = (.ok (), d') ∧
      Adds (wayBrings base (init ++ [c])) d d' := by
  have hnew : (Node.directory (Mode.ofDirectory.without Mode.usualMask) d.changeTime []).IsNew :=
    rfl
  refine ⟨_, by unfold ensureDirectory; rw [h.makeDirectory_new hnames hshort hclear hstands hnone],
    (adds_put hnew hnone ?_).congr fun p hp => ?_⟩
  · obtain ⟨n, hn⟩ := Option.isSome_iff_exists.mp hstands
    rw [← List.append_assoc, List.dropLast_concat]
    exact ⟨n, hn, (hclear init n (List.prefix_refl _) hn).1⟩
  · split
    · next heq =>
      rw [heq, wayBrings_above (List.prefix_refl _)]
      rfl
    · next hne =>
      cases hway : wayBrings base (init ++ [c]) p with
      | none => rfl
      | some n =>
        obtain ⟨-, above, habove, rfl⟩ := wayBrings_eq_some hway
        rcases List.prefix_concat_iff.mp habove with rfl | hbefore
        · exact absurd rfl hne
        · have hup := isSome_above hstands ((List.prefix_append_right_inj base).mpr hbefore)
          rw [hp] at hup
          cases hup

/-- Below a place at which something stands and above one at which nothing does, there is a first
one at which nothing does. -/
theorem exists_missing (hbase : (d.node? base).isSome = true)
    (hnone : d.node? (base ++ names) = none) :
    ∃ front x back, names = front ++ x :: back ∧ (d.node? (base ++ front)).isSome = true ∧
      d.node? (base ++ (front ++ [x])) = none := by
  induction names using List.reverseRecOn with
  | nil =>
    rw [List.append_nil] at hnone
    rw [hnone] at hbase
    cases hbase
  | append_singleton init c ih =>
    cases hinit : d.node? (base ++ init) with
    | none =>
      obtain ⟨front, x, back, rfl, hfront, hx⟩ := ih hinit
      exact ⟨front, x, back ++ [c], by simp, hfront, hx⟩
    | some n => exact ⟨init, c, [], rfl, Option.isSome_of_eq_some hinit, hnone⟩

theorem LeadsTo.makeDirectory_broken (h : d.LeadsTo root base)
    (hnames : ∀ x ∈ init ++ [c], IsLegal x)
    (hshort : (Artifacts.wayBelow root (init ++ [c])).octets.length ≤ maxPathBytes)
    (hclear : d.Clear base init) (hnone : d.node? (base ++ init) = none) :
    d.makeDirectory d.current Mode.usualMask (Artifacts.wayBelow root (init ++ [c])).octets =
      .error .noEntry := by
  obtain ⟨n, hn, -⟩ := h.stands
  obtain ⟨front, x, back, rfl, hfront, hx⟩ := exists_missing (Option.isSome_of_eq_some hn) hnone
  have hall : front ++ x :: back ++ [c] = front ++ x :: (back ++ [c]) := by simp
  obtain ⟨b, back', hback⟩ := List.exists_cons_of_ne_nil
    (List.append_ne_nil_of_right_ne_nil back (List.cons_ne_nil c []))
  rw [hall, hback] at hnames hshort ⊢
  have hon := (hclear.above (List.prefix_append front _)).onward (c := x) hfront
  unfold makeDirectory freePlace
  rw [locateWith_trimSlashes (named_wayBelow h.normal hnames),
    h.locateWith_broken hnames hshort hon hx]
  rfl

/-- The path of a directory is no longer than that of what is below it. -/
theorem length_wayBelow_le (hup : further <+: names) (hnames : ∀ x ∈ names, IsLegal x) :
    (Artifacts.wayBelow root further).octets.length ≤
      (Artifacts.wayBelow root names).octets.length := by
  obtain ⟨rest, rfl⟩ := hup
  by_cases hnil : rest = []
  · simp [hnil]
  have hle := (length_octets_le root.anchor (root.way.parts ++ further) hnil
    fun b hb => (hnames b (List.mem_append_right further hb)).named).1
  rwa [List.append_assoc] at hle

/-- Where something stands, its way brings nothing. -/
theorem adds_wayBrings_of_stands (h : (d.node? (base ++ names)).isSome = true) :
    Adds (wayBrings base names) d d := by
  refine (Adds.refl d).congr fun p hp => ?_
  cases hway : wayBrings base names p with
  | none => rfl
  | some m =>
    obtain ⟨-, above, habove, rfl⟩ := wayBrings_eq_some hway
    have hup := isSome_above h ((List.prefix_append_right_inj base).mpr habove)
    rw [hp] at hup
    cases hup

theorem LeadsTo.of_wayBrings (h : d.LeadsTo root base) (hadds : Adds (wayBrings base names) d d') :
    d'.LeadsTo root base := by
  refine h.grows (hadds.grows fun p target time hp => ?_) hadds.current
  cases (wayBrings_eq_some hp).1

theorem Clear.of_wayBrings (hclear : d.Clear base further)
    (hadds : Adds (wayBrings base names) d d') : d'.Clear base further :=
  hadds.clear hclear fun _ _ _ hp => (wayBrings_eq_some hp).1 ▸ isFree_newDirectory

/-- Where a way has been brought, something stands. -/
theorem isSome_of_wayBrings (hadds : Adds (wayBrings base names) d d') :
    (d'.node? (base ++ names)).isSome = true := by
  have hface := hadds.faces (base ++ names)
  rw [wayBrings_above (List.prefix_refl _)] at hface
  cases hn : d'.node? (base ++ names) with
  | some n => rfl
  | none =>
    rw [face?_eq_none_iff.mpr hn] at hface
    cases (Option.or_eq_none_iff.mp hface.symm).2

/-- A way brings nothing below its end. -/
theorem node?_eq_none_of_wayBrings (hadds : Adds (wayBrings base init) d d')
    (hnone : d.node? (base ++ (init ++ [c])) = none) :
    d'.node? (base ++ (init ++ [c])) = none := by
  rw [← face?_eq_none_iff, hadds.faces, face?_eq_none_iff.mpr hnone]
  refine if_neg fun hway => ?_
  have hlength := hway.2.length_le
  simp only [List.length_append, List.length_singleton] at hlength
  omega

/-- After the directories above it, a directory is made. -/
theorem LeadsTo.adds_ensureDirectory_after (h : d.LeadsTo root base)
    (hnames : ∀ x ∈ init ++ [c], IsLegal x)
    (hshort : (Artifacts.wayBelow root (init ++ [c])).octets.length ≤ maxPathBytes)
    (hclear : d.Clear base init) (hnone : d.node? (base ++ init) = none)
    (hadds : Adds (wayBrings base init) d d') :
    ∃ d'', d'.ensureDirectory (Artifacts.wayBelow root (init ++ [c])) = (.ok (), d'') ∧
      Adds (wayBrings base (init ++ [c])) d d'' := by
  have hmissing : d.node? (base ++ (init ++ [c])) = none := by
    cases hn : d.node? (base ++ (init ++ [c])) with
    | none => rfl
    | some n =>
      have hup := isSome_above (Option.isSome_of_eq_some hn)
        ((List.prefix_append_right_inj base).mpr (List.prefix_append init [c]))
      rw [hnone] at hup
      cases hup
  obtain ⟨d'', hensure, hlast⟩ := (h.of_wayBrings hadds).adds_ensureDirectory hnames hshort
    (hclear.of_wayBrings hadds) (isSome_of_wayBrings hadds)
    (node?_eq_none_of_wayBrings hadds hmissing)
  refine ⟨d'', hensure, (hadds.trans hlast).congr fun p _ => ?_⟩
  cases hfirst : wayBrings base init p with
  | none => rfl
  | some n =>
    obtain ⟨rfl, above, habove, rfl⟩ := wayBrings_eq_some hfirst
    exact (wayBrings_above (habove.trans (List.prefix_append init [c]))).symm

theorem makeDirectories_below (root : Path) (room : Nat) (init : List Octets) (c : Octets) :
    d.makeDirectories root.anchor (room + 1) (root.way.parts ++ (init ++ [c])).reverse =
      match d.makeDirectory d.current Mode.usualMask
        (Artifacts.wayBelow root (init ++ [c])).octets with
      | .error .noEntry =>
        match d.makeDirectories root.anchor room (root.way.parts ++ init).reverse with
        | (.ok (), d') => d'.ensureDirectory (Artifacts.wayBelow root (init ++ [c]))
        | (.error e, d') => (.error e, d')
      | _ => d.ensureDirectory (Artifacts.wayBelow root (init ++ [c])) := by
  rw [← List.append_assoc, makeDirectories_concat, List.append_assoc]
  rfl

/-- On a clear way, all directories are made that are missing. -/
theorem LeadsTo.adds_makeDirectories (h : d.LeadsTo root base) (hnames : ∀ x ∈ names, IsLegal x)
    (hshort : (Artifacts.wayBelow root names).octets.length ≤ maxPathBytes)
    (hclear : d.Clear base names) {room : Nat} (hroom : names.length ≤ room) (hsome : room ≠ 0) :
    ∃ d', d.makeDirectories root.anchor room (root.way.parts ++ names).reverse = (.ok (), d') ∧
      Adds (wayBrings base names) d d' := by
  induction names using List.reverseRecOn generalizing room with
  | nil =>
    obtain ⟨n, hn, hdir⟩ := h.stands
    refine ⟨d, ?_, adds_wayBrings_of_stands ?_⟩
    · rw [List.append_nil]
      exact makeDirectories_of_stands (w := root.way) (Path.named_way h.normal) h.leads hn hdir hsome
    · rw [List.append_nil]
      exact Option.isSome_of_eq_some hn
  | append_singleton init c ih =>
    obtain ⟨room, rfl⟩ := Nat.exists_eq_succ_of_ne_zero hsome
    rw [List.length_append, List.length_singleton] at hroom
    have hinit : d.Clear base init := hclear.above (List.prefix_append init [c])
    cases hn : d.node? (base ++ (init ++ [c])) with
    | some n =>
      have hstands := Option.isSome_of_eq_some hn
      have hup := isSome_above hstands
        ((List.prefix_append_right_inj base).mpr (List.prefix_append init [c]))
      have hdir := (hclear _ n (List.prefix_refl _) hn).1
      have hlocate : d.locateWith true d.current _ = .ok _ :=
        h.locateWith_onward hnames (by simp) hshort (hinit.onward hup) fun target time hlink => by
          cases hn.symm.trans hlink
          cases hdir
      exact ⟨d, makeDirectories_of_stands (w := Artifacts.wayBelow root (init ++ [c]))
        (named_wayBelow h.normal hnames) hlocate hn hdir hsome, adds_wayBrings_of_stands hstands⟩
    | none =>
      rw [makeDirectories_below]
      cases hup : d.node? (base ++ init) with
      | some n =>
        have hstands := Option.isSome_of_eq_some hup
        rw [h.makeDirectory_new hnames hshort hinit hstands hn]
        exact h.adds_ensureDirectory hnames hshort hinit hstands hn
      | none =>
        have hlong : init.length ≠ 0 := fun hnil => by
          obtain ⟨n, hbase, -⟩ := h.stands
          rw [List.eq_nil_of_length_eq_zero hnil, List.append_nil, hbase] at hup
          cases hup
        obtain ⟨d₁, hmade, hadds⟩ := ih (fun x hx => hnames x (List.mem_append_left _ hx))
          (Nat.le_trans (length_wayBelow_le (List.prefix_append init [c]) hnames) hshort) hinit
          (Nat.le_of_succ_le_succ hroom) (by omega)
        rw [h.makeDirectory_broken hnames hshort hinit hup, hmade]
        exact h.adds_ensureDirectory_after hnames hshort hinit hup hadds

end Paving

/-! ## Files -/

theorem parent_wayBelow (root : Path) (init : List Octets) (c : Octets) :
    (Artifacts.wayBelow root (init ++ [c])).parent = Artifacts.wayBelow root init := by
  unfold Artifacts.wayBelow Way.parent
  rw [← List.append_assoc, List.dropLast_concat]

theorem hasNul_wayBelow (hroot : root.way.hasNul = false) (hnames : ∀ x ∈ names, IsLegal x) :
    (Artifacts.wayBelow root names).hasNul = false := by
  unfold Artifacts.wayBelow Way.hasNul
  rw [List.any_append, Bool.or_eq_false_iff]
  refine ⟨hroot, List.any_eq_false.mpr fun x hx => ?_⟩
  rw [List.contains_iff_mem]
  exact (hnames x hx).noNul

section Files

variable {init : List Octets} {c : Octets} {data : Bytes}

/-- Into a directory that is there, a file is written that is not. -/
theorem LeadsTo.adds_exportInto (h : d.LeadsTo root base) (hroot : root.way.hasNul = false)
    (hnames : ∀ x ∈ init ++ [c], IsLegal x)
    (hshort : (Artifacts.wayBelow root (init ++ [c])).octets.length ≤ maxPathBytes)
    (hclear : d.Clear base init) (hstands : (d.node? (base ++ init)).isSome = true)
    (hnone : d.node? (base ++ (init ++ [c])) = none) (data : Bytes) :
    ∃ d', Artifacts.exportInto (Artifacts.wayBelow root (init ++ [c])) data d = (.ok (), d') ∧
      Adds (fun p => if p = base ++ (init ++ [c]) then some (d.newFile data) else none) d d' := by
  have hlocate : d.locateWith true d.current _ = .ok _ :=
    h.locateWith_onward hnames (by simp) hshort (hclear.onward hstands) fun target time hlink => by
      cases hnone.symm.trans hlink
  have hnamed := named_wayBelow h.normal hnames
  have hslash : endsInSlash (Artifacts.wayBelow root (init ++ [c])).octets = false :=
    Way.endsInSlash_octets hnamed (List.append_ne_nil_of_right_ne_nil _ (by simp))
  have habove : (base ++ (init ++ [c])).dropLast = base ++ init := by
    rw [← List.append_assoc, List.dropLast_concat]
  obtain ⟨n, hn⟩ := Option.isSome_iff_exists.mp hstands
  have hdirectory : ∃ n, d.node? (base ++ (init ++ [c])).dropLast = some n ∧ n.isDirectory = true :=
    ⟨n, habove ▸ hn, (hclear init n (List.prefix_refl _) hn).1⟩
  have hempty : (d.newFile []).IsNew := rfl
  have hfile : (d.newFile data).IsNew := rfl
  have hopened := node?_put (Or.inr ⟨hnone, hdirectory⟩) hempty
  have hadds := (adds_put hempty hnone hdirectory).put_again hfile hnone hopened rfl
  refine ⟨_, ?_, hadds.congr fun p _ => by split <;> rfl⟩
  have hopen : d.openToWrite d.current Mode.usualMask true
      (Artifacts.wayBelow root (init ++ [c])).octets =
        .ok (base ++ (init ++ [c]), d.put (base ++ (init ++ [c])) (d.newFile [])) := by
    unfold openToWrite
    rw [locateWith_trimSlashes hnamed, hlocate]
    simp only [hslash, Bool.false_eq_true, if_false, hnone, habove, hclear.mayChange hstands]
    rfl
  unfold Artifacts.exportInto
  rw [hasNul_wayBelow hroot hnames, hopen, if_neg Bool.false_ne_true]
  unfold fill
  dsimp only
  rw [hopened]
  rfl

/-- On a clear way, a file is written with the directories above it. -/
theorem LeadsTo.adds_exportFile (h : d.LeadsTo root base) (hroot : root.way.hasNul = false)
    (hnames : ∀ x ∈ init ++ [c], IsLegal x)
    (hshort : (Artifacts.wayBelow root (init ++ [c])).octets.length ≤ maxPathBytes)
    (hlevels : init.length ≤ maxNewDirectories) (hclear : d.Clear base init)
    (hnone : d.node? (base ++ (init ++ [c])) = none) (data : Bytes) :
    ∃ d', Artifacts.exportFile (Artifacts.wayBelow root (init ++ [c])) data d = (.ok (), d') ∧
      Adds (fileBrings base (init ++ [c]) (d.newFile data)) d d' := by
  have hinit : ∀ x ∈ init, IsLegal x := fun x hx => hnames x (List.mem_append_left _ hx)
  obtain ⟨d₁, hmade, hadds⟩ := h.adds_makeDirectories hinit
    (Nat.le_trans (length_wayBelow_le (List.prefix_append init [c]) hnames) hshort) hclear hlevels
    (by decide)
  have hstill : d₁.node? (base ++ (init ++ [c])) = none := node?_eq_none_of_wayBrings hadds hnone
  obtain ⟨d', hexport, hfile⟩ := (h.of_wayBrings hadds).adds_exportInto hroot hnames hshort
    (hclear.of_wayBrings hadds) (isSome_of_wayBrings hadds) hstill data
  refine ⟨d', ?_, (hadds.trans hfile).congr fun p hp => ?_⟩
  · unfold Artifacts.exportFile
    rw [parent_wayBelow, hasNul_wayBelow hroot hinit, if_neg Bool.false_ne_true]
    have hway : d.makeWay (Artifacts.wayBelow root init) = (.ok (), d₁) := hmade
    rw [hway]
    exact hexport
  · unfold fileBrings newFile
    rw [List.dropLast_concat, hadds.changeTime]
    split
    · next heq =>
      have hbrings : wayBrings base init p = none := by
        rw [heq]
        have hface := hadds.faces (base ++ (init ++ [c]))
        rw [face?_eq_none_iff.mpr hstill] at hface
        exact (Option.or_eq_none_iff.mp hface.symm).2
      rw [hbrings]
      rfl
    · exact Option.or_none

end Files

/-! ## Files one after the other -/

/-- What files below a directory bring to a place. -/
def filesBring (d : Disk) (base : Place) (files : List (List Octets × Bytes)) (p : Place) :
    Option Node :=
  files.findSome? fun f => fileBrings base f.1 (d.newFile f.2) p

/-- Files that can be written below a root one after the other. None is in the way of another one,
and neither the directories nor the length of a path are too many. -/
structure Writable (root : Path) (files : List (List Octets × Bytes)) : Prop where
  named : ∀ f ∈ files, f.1 ≠ []
  legal : ∀ f ∈ files, ∀ c ∈ f.1, IsLegal c
  short : ∀ f ∈ files, (Artifacts.wayBelow root f.1).octets.length ≤ maxPathBytes
  shallow : ∀ f ∈ files, f.1.length ≤ maxNewDirectories + 1
  apart : files.Pairwise fun f g => ¬f.1 <+: g.1 ∧ ¬g.1 <+: f.1

theorem exportFiles_cons (root : Path) (k : Points) (data : Bytes) (rest : List (Points × Bytes)) :
    Artifacts.exportFiles root ((k, data) :: rest) d =
      match Artifacts.exportFile (Artifacts.wayBelow root (Artifacts.names k)) data d with
      | (.ok (), d') => Artifacts.exportFiles root rest d'
      | (.error e, d') => (.error e, d') := rfl

theorem LeadsTo.of_fileBrings {data : Bytes} (h : d.LeadsTo root base)
    (hadds : Adds (fileBrings base names (d.newFile data)) d d') : d'.LeadsTo root base := by
  refine h.grows (hadds.grows fun p target time hp => ?_) hadds.current
  obtain ⟨-, hlink⟩ | ⟨hlink, -⟩ := fileBrings_eq_some hp <;> cases hlink

/-- What a file brings is not in the way of another one. -/
theorem Adds.apart {data : Bytes} (hadds : Adds (fileBrings base names (d.newFile data)) d d')
    (hdown : ¬names <+: further) (hup : ¬further <+: names)
    (hclear : d.Clear base further.dropLast) (hnone : d.node? (base ++ further) = none) :
    d'.Clear base further.dropLast ∧ d'.node? (base ++ further) = none := by
  refine ⟨hadds.clear hclear fun above n habove hn => ?_, ?_⟩
  · obtain ⟨heq, -⟩ | ⟨rfl, -⟩ := fileBrings_eq_some hn
    · rw [List.append_cancel_left heq] at habove
      exact absurd (habove.trans (List.dropLast_prefix further)) hdown
    · exact isFree_newDirectory
  · rw [← face?_eq_none_iff, hadds.faces, face?_eq_none_iff.mpr hnone, Option.none_or]
    unfold fileBrings
    have hne : base ++ further ≠ base ++ names := fun heq => by
      rw [List.append_cancel_left heq] at hup
      exact hup (List.prefix_refl _)
    rw [if_neg hne]
    refine if_neg fun hway => hup ?_
    exact ((List.prefix_append_right_inj base).mp hway.2).trans (List.dropLast_prefix names)

/-- Files that are not in each other's way are all written, with the directories above them, and
nothing else is. -/
theorem LeadsTo.adds_exportFiles (h : d.LeadsTo root base) (hroot : root.way.hasNul = false)
    {files : List (Points × Bytes)}
    (hwritable : Writable root (files.map fun f => (Artifacts.names f.1, f.2)))
    (hfree : ∀ f ∈ files, d.Clear base (Artifacts.names f.1).dropLast ∧
      d.node? (base ++ Artifacts.names f.1) = none) :
    ∃ d', Artifacts.exportFiles root files d = (.ok (), d') ∧
      Adds (d.filesBring base (files.map fun f => (Artifacts.names f.1, f.2))) d d' := by
  induction files generalizing d with
  | nil => exact ⟨d, rfl, .refl d⟩
  | cons f rest ih =>
    obtain ⟨k, data⟩ := f
    obtain ⟨hnamed, hlegal, hshort, hshallow, hapart⟩ := hwritable
    rw [List.map_cons] at *
    obtain ⟨hfirst, hothers⟩ := List.pairwise_cons.mp hapart
    obtain ⟨hclear, hnone⟩ := hfree (k, data) (List.mem_cons_self ..)
    obtain ⟨init, c, hsplit⟩ : ∃ init c, Artifacts.names k = init ++ [c] :=
      ⟨_, _, (List.dropLast_concat_getLast (hnamed _ (List.mem_cons_self ..))).symm⟩
    have hlevels := hshallow _ (List.mem_cons_self ..)
    have hthis := hlegal _ (List.mem_cons_self ..)
    have hlength := hshort _ (List.mem_cons_self ..)
    dsimp only at hclear hnone hlevels hthis hlength
    rw [hsplit] at hclear hnone hlevels hthis hlength
    rw [List.dropLast_concat] at hclear
    rw [List.length_append, List.length_singleton] at hlevels
    obtain ⟨d₁, hexport, hadds⟩ := h.adds_exportFile hroot hthis hlength
      (Nat.le_of_succ_le_succ hlevels) hclear hnone data
    rw [← hsplit] at hexport hadds
    have hrest : Writable root (rest.map fun f => (Artifacts.names f.1, f.2)) :=
      ⟨fun f hf => hnamed f (List.mem_cons_of_mem _ hf),
        fun f hf => hlegal f (List.mem_cons_of_mem _ hf),
        fun f hf => hshort f (List.mem_cons_of_mem _ hf),
        fun f hf => hshallow f (List.mem_cons_of_mem _ hf), hothers⟩
    obtain ⟨d', hexports, hmore⟩ := ih (h.of_fileBrings hadds) hrest fun f hf => by
      obtain ⟨hdown, hup⟩ := hfirst _ (List.mem_map_of_mem hf)
      obtain ⟨hclear, hnone⟩ := hfree f (List.mem_cons_of_mem _ hf)
      exact hadds.apart hdown hup hclear hnone
    refine ⟨d', ?_, (hadds.trans hmore).congr fun p _ => ?_⟩
    · rw [exportFiles_cons, hexport]
      exact hexports
    · unfold filesBring newFile
      rw [hadds.changeTime, List.findSome?_cons]
      cases fileBrings base (Artifacts.names k) _ p <;> rfl

section Brought

variable {files : List (List Octets × Bytes)} {f : List Octets × Bytes}

theorem filesBring_eq_some (h : d.filesBring base files p = some n) :
    ∃ f ∈ files, p = base ++ f.1 ∧ n = d.newFile f.2 ∨
      n = newDirectory ∧ ∃ above, above <+: f.1.dropLast ∧ p = base ++ above := by
  obtain ⟨f, hf, hbrings⟩ := List.exists_of_findSome?_eq_some h
  exact ⟨f, hf, fileBrings_eq_some hbrings⟩

/-- Each file is among what they bring. -/
theorem Writable.filesBring (h : Writable root files) (hf : f ∈ files) :
    d.filesBring base files (base ++ f.1) = some (d.newFile f.2) := by
  have hapart : ∀ {g}, g ∈ files → g ≠ f → ¬f.1 <+: g.1 := by
    intro g hg hne
    have : Std.Symm fun f g : List Octets × Bytes => ¬f.1 <+: g.1 ∧ ¬g.1 <+: f.1 :=
      ⟨fun _ _ hboth => hboth.symm⟩
    exact (h.apart.forall hf hg hne.symm).1
  have hsome : (d.filesBring base files (base ++ f.1)).isSome = true :=
    List.findSome?_isSome_iff.mpr ⟨f, hf, by simp [fileBrings]⟩
  obtain ⟨n, hn⟩ := Option.isSome_iff_exists.mp hsome
  rw [hn]
  obtain ⟨g, hg, ⟨heq, rfl⟩ | ⟨-, above, habove, heq⟩⟩ := filesBring_eq_some hn
  · by_cases hgf : g = f
    · rw [hgf]
    · exact absurd (List.append_cancel_left heq ▸ List.prefix_refl _) (hapart hg hgf)
  · rw [← List.append_cancel_left heq] at habove
    by_cases hgf : g = f
    · have hlength := habove.length_le
      have hpositive := List.length_pos_iff.mpr (h.named f hf)
      rw [hgf, List.length_dropLast] at hlength
      omega
    · exact absurd (habove.trans (List.dropLast_prefix g.1)) (hapart hg hgf)

end Brought

end Disk

end Worksheet
