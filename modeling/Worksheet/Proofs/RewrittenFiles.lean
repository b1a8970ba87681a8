-- A file that is written anew. It has its new content under all its names, every other place is
-- seen as before, and when the same is written once more, nothing but times of last change is new.
import Worksheet.Proofs.Faces

namespace Worksheet

open Text (Bytes Octets)

namespace Node

variable {n m node : Node} {group : Nat}

theorem group_face (n : Node) : n.face.group = n.group := by
  cases n <;> rfl

theorem face_putAll_of_group_ne (h : n.group ≠ group) (node : Node) :
    (putAll group node n).face = n.face := by
  by_cases hdir : n.isDirectory = true
  · cases n with
    | directory => rfl
    | _ => cases hdir
  · rw [putAll_of_group_ne h (Bool.eq_false_iff.mpr hdir)]

theorem putAll_of_group (hgroup : group ≠ 0) (h : n.group = group) (node : Node) :
    putAll group node n = node := by
  cases n with
  | file content mode time g =>
    rw [putAll]
    exact if_pos h
  | _ => exact absurd h.symm hgroup

end Node

namespace Disk

variable {d d' d'' : Disk} {p q directory : Place} {n m : Node} {content : Bytes} {mode : Mode}
  {time : Int} {raw : Octets}

/-! ## A file in the place of another one -/

section Put

variable {old : Bytes} {oldMode : Mode} {oldTime : Int} {group : Nat}
  (hold : d.node? q = some (.file old oldMode oldTime group)) (content : Bytes) (mode : Mode)
  (time : Int)

include hold

theorem face?_put_file_of_ne (hne : p ≠ q) :
    ((Node.put d.changeTime (.file content mode time group) q d.root).at? p).map Node.face =
      d.face? p := by
  have hleaf : (Node.file content mode time group).IsLeaf :=
    Node.isLeaf_file content mode time group
  rw [Node.face_at?_put hleaf (Or.inl ⟨_, hold, rfl⟩), if_neg hne]
  rfl

/-- Where the file has no name, all is seen as before. -/
theorem face?_put_file (h : ¬d.SameFile q p) :
    (d.put q (.file content mode time group)).face? p = d.face? p := by
  have hput := face?_put_file_of_ne hold content mode time fun heq : p = q => h (Or.inl heq)
  have hleaf : (Node.file content mode time group).IsLeaf :=
    Node.isLeaf_file content mode time group
  have hgroup : (Node.file content mode time group).group = group := rfl
  unfold face? put node? at *
  dsimp only
  rw [hgroup]
  split
  · exact hput
  next hnonzero =>
  rw [Node.at?_putAll hleaf, Option.map_map, ← hput]
  cases hn : (Node.put d.changeTime (.file content mode time group) q d.root).at? p with
  | none => rfl
  | some n =>
    rw [hn] at hput
    obtain ⟨m, hm, hface⟩ := Option.map_eq_some_iff.mp hput.symm
    have hsame : m.group = n.group := by rw [← Node.group_face, hface, Node.group_face]
    have hne : n.group ≠ group := fun heq =>
      h (Or.inr ⟨_, m, hold, hm, hnonzero, hsame.trans heq⟩)
    exact congrArg some (Node.face_putAll_of_group_ne hne _)

/-- And it is the new file under each of its names. -/
theorem node?_put_file (h : d.SameFile q p) :
    (d.put q (.file content mode time group)).node? p = some (.file content mode time group) := by
  by_cases heq : p = q
  · rw [heq]
    exact (put_file hold content mode time group).2
  obtain ⟨n, m, hn, hm, hgroup, hsame⟩ := h.resolve_left heq
  cases hold.symm.trans hn
  have hput := face?_put_file_of_ne hold content mode time heq
  have hmdir : m.isDirectory = false := Node.isDirectory_of_group (hsame ▸ hgroup)
  rw [face?_of_node? hm, Node.face_eq_self hmdir] at hput
  obtain ⟨k, hk, hface⟩ := Option.map_eq_some_iff.mp hput
  have hkm : k = m := Node.eq_of_face (hface.trans (Node.face_eq_self hmdir).symm) hmdir
  have hnonzero : (Node.file content mode time group).group ≠ 0 := hgroup
  have hleaf : (Node.file content mode time group).IsLeaf :=
    Node.isLeaf_file content mode time group
  unfold put node?
  dsimp only
  rw [if_neg hnonzero, Node.at?_putAll hleaf, hk, hkm]
  exact congrArg some (Node.putAll_of_group hnonzero hsame _)

end Put

/-! ## Rewritten files -/

/-- The file at a place is a new one now, under each of its names, and all else is seen as
before. -/
structure Rewrites (d : Disk) (q : Place) (file : Node) (d' : Disk) : Prop where
  current : d'.current = d.current
  now : d'.now = d.now
  names : ∀ p, d'.SameFile q p ↔ d.SameFile q p
  file : ∀ p, d.SameFile q p → d'.node? p = some file
  others : ∀ p, ¬d.SameFile q p → d'.face? p = d.face? p

theorem Rewrites.trans (h : d.Rewrites q n d') (h' : d'.Rewrites q m d'') : d.Rewrites q m d'' := by
  refine ⟨h'.current.trans h.current, h'.now.trans h.now, fun p => (h'.names p).trans (h.names p),
    fun p hp => h'.file p ((h.names p).mpr hp), fun p hp => ?_⟩
  rw [h'.others p (mt (h.names p).mp hp), h.others p hp]

theorem rewrites_put_file {old : Bytes} {oldMode : Mode} {oldTime : Int} {group : Nat}
    (hold : d.node? q = some (.file old oldMode oldTime group)) (content : Bytes) (mode : Mode)
    (time : Int) :
    d.Rewrites q (.file content mode time group) (d.put q (.file content mode time group)) := by
  have hfile : ∀ p, d.SameFile q p →
      (d.put q (.file content mode time group)).node? p = some (.file content mode time group) :=
    fun _ => node?_put_file hold content mode time
  have hedit : Edit (d.SameFile q) (fun _ => False) d (d.put q (.file content mode time group)) :=
    edit_put_file hold content mode time
  refine ⟨rfl, rfl, fun p => ⟨fun hp => hp.of_edit hedit, fun hp => ?_⟩, hfile, fun p hp =>
    face?_put_file hold content mode time hp⟩
  by_cases heq : p = q
  · exact Or.inl heq
  · obtain ⟨n, m, hn, -, hgroup, -⟩ := hp.resolve_left heq
    cases hold.symm.trans hn
    exact Or.inr ⟨_, _, hfile q (Or.inl rfl), hfile p hp, hgroup, rfl⟩

theorem sameFile_of_none (hnone : d.node? q = none) : d.SameFile q p ↔ p = q := by
  refine ⟨fun h => h.resolve_right ?_, Or.inl⟩
  rintro ⟨n, m, hn, -⟩
  cases hnone.symm.trans hn

theorem rewrites_put_new (hnone : d.node? q = none)
    (habove : ∃ n, d.node? q.dropLast = some n ∧ n.isDirectory = true) (mode : Mode) (time : Int) :
    d.Rewrites q (.file [] mode time 0) (d.put q (.file [] mode time 0)) := by
  have hnew : (Node.file [] mode time 0).IsNew := rfl
  have hfits : d.Fits q := Or.inr ⟨hnone, habove⟩
  refine ⟨rfl, rfl, fun p => ⟨fun hp => ?_, fun hp => ?_⟩, fun p hp => ?_, fun p hp => ?_⟩
  · exact hp.of_edit (edit_put_new hnone hnew)
  · exact Or.inl ((sameFile_of_none hnone).mp hp)
  · rw [(sameFile_of_none hnone).mp hp]
    exact node?_put hfits hnew
  · rw [face?_put hnew hfits, if_neg (mt (sameFile_of_none hnone).mpr hp)]

/-! ## Opening and filling -/

theorem allows_of_openToWrite {mask : Mode}
    (h : d.openToWrite directory mask true raw = .ok (q, d')) (hn : d.node? q = some n) :
    n.allows .write = true := by
  unfold openToWrite at h
  split at h
  · cases h
  split at h
  · cases h
  split at h
  · next hnone =>
    obtain ⟨-, -, heq⟩ := exists_of_map_ok h
    cases heq
    cases hnone.symm.trans hn
  · cases h
  · cases h
  · next hold =>
    split at h
    · cases h
    next hmode =>
    cases h
    cases hold.symm.trans hn
    simpa [Node.allows, Node.mode] using hmode
  · next hold =>
    split at h
    · next hallows =>
      cases h
      cases hold.symm.trans hn
      exact hallows
    · cases h

theorem rewrites_of_openToWrite
    (h : d.openToWrite directory Mode.usualMask true raw = .ok (q, d')) :
    (d.IsSpecial q ∧ d' = d) ∨ ∃ mode group, mode.allows .write = true ∧
      d.Rewrites q (.file [] mode d.changeTime group) d' := by
  rcases (openToWrite_cases h).2 with ⟨hnone, habove, rfl⟩ | ⟨old, mode, time, group, hold, rfl⟩ |
    hspecial
  · exact Or.inr ⟨_, 0, by decide, rewrites_put_new hnone habove _ _⟩
  · exact Or.inr ⟨mode, group, allows_of_openToWrite h hold, rewrites_put_file hold [] mode _⟩
  · exact Or.inl hspecial

theorem openToWrite_of_file {old : Bytes} {group : Nat}
    (hlocate : d.locateWith true directory (Way.trimSlashes raw) = .ok q)
    (hslash : endsInSlash raw = false) (hold : d.node? q = some (.file old mode time group))
    (hmode : mode.allows .write = true) (mask : Mode) :
    d.openToWrite directory mask true raw =
      .ok (q, d.put q (.file [] mode d.changeTime group)) := by
  unfold openToWrite
  rw [hlocate, hslash]
  simp only [hold, hmode, Bool.not_true, Bool.false_eq_true, if_false, if_true]

theorem openToWrite_of_special
    (hlocate : d.locateWith true directory (Way.trimSlashes raw) = .ok q)
    (hslash : endsInSlash raw = false) (hspecial : d.IsSpecial q)
    (hallows : ∀ n, d.node? q = some n → n.allows .write = true) (mask : Mode) :
    d.openToWrite directory mask true raw = .ok (q, d) := by
  obtain ⟨n, hn, hregular, hdir⟩ := hspecial
  have hwrite := hallows n hn
  unfold openToWrite
  rw [hlocate, hslash]
  cases n with
  | directory => cases hdir
  | file => cases hregular
  | tool => cases hregular
  | _ => simp only [hn, hwrite, Bool.false_eq_true, if_false, if_true]

theorem Rewrites.fill {old : Bytes} {group : Nat} (h : d.Rewrites q (.file old mode time group) d')
    (content : Bytes) : ∃ d'', d'.fill q content = .ok d'' ∧
      d.Rewrites q (.file content mode d.changeTime group) d'' := by
  have hfile := h.file q (Or.inl rfl)
  have hsame : d'.changeTime = d.changeTime := by
    unfold changeTime
    rw [h.now]
  refine ⟨d'.put q (.file content mode d'.changeTime group), ?_, ?_⟩
  · unfold Disk.fill
    simp only [hfile]
  · rw [hsame]
    exact h.trans (rewrites_put_file hfile content mode _)

/-- Where there is no regular file, nothing is kept. -/
theorem IsSpecial.fill (h : d.IsSpecial q) (hfill : d.fill q content = .ok d') : d' = d := by
  obtain ⟨n, hn, hregular, -⟩ := h
  rcases fill_cases hfill with ⟨old, mode, time, group, hold, -⟩ | ⟨-, hsame⟩
  · cases hn.symm.trans hold
    cases hregular
  · exact hsame

theorem IsSpecial.fill_later (h : d.IsSpecial q) (content : Bytes) (time : Int) :
    Disk.fill { d with now := time } q content =
      (d.fill q content).map fun _ => { d with now := time } := by
  obtain ⟨n, hn, hregular, -⟩ := h
  have hn' : node? { d with now := time } q = some n := hn
  unfold Disk.fill
  simp only [hn, hn']
  cases n with
  | file => cases hregular
  | device device =>
    cases device with
    | full => cases content <;> rfl
    | _ => rfl
  | _ => rfl

theorem openToWrite_later {mask : Mode} {fresh : Bool} {e : Errno}
    (h : d.openToWrite directory mask fresh raw = .error e) (time : Int) :
    openToWrite { d with now := time } directory mask fresh raw = .error e := by
  have hlocate : locateWith { d with now := time } true directory (Way.trimSlashes raw) =
    d.locateWith true directory (Way.trimSlashes raw) := rfl
  have hnode : ∀ place, node? { d with now := time } place = d.node? place := fun _ => rfl
  have hmay : ∀ place, mayChange { d with now := time } place = d.mayChange place := fun _ => rfl
  unfold openToWrite at h ⊢
  rw [hlocate]
  cases hplace : d.locateWith true directory (Way.trimSlashes raw) with
  | error e' =>
    rw [hplace] at h
    exact h
  | ok place =>
    rw [hplace] at h
    dsimp only at h ⊢
    rw [hnode, hmay]
    split at h
    · next hslash =>
      rw [if_pos hslash]
      exact h
    next hslash =>
    rw [if_neg hslash]
    cases hn : d.node? place with
    | none =>
      rw [hn] at h
      dsimp only at h ⊢
      cases hchange : d.mayChange place.dropLast with
      | error e' =>
        rw [hchange] at h
        exact h
      | ok =>
        rw [hchange] at h
        cases h
    | some n =>
      rw [hn] at h
      cases n with
      | file content mode time group =>
        dsimp only at h ⊢
        split at h
        · next hmode =>
          rw [if_pos hmode]
          exact h
        · cases h
      | directory => exact h
      | tool => exact h
      | _ =>
        dsimp only at h ⊢
        split at h
        · cases h
        · next hallows =>
          rw [if_neg hallows]
          exact h

/-! ## Writing a path -/

theorem opened_of_writeBytes {path : Path} (h : writeBytes path content d = (.ok (), d')) :
    ∃ q opened, d.openToWrite d.current Mode.usualMask true path.way.octets = .ok (q, opened) ∧
      opened.fill q content = .ok d' := by
  unfold writeBytes at h
  split at h
  · cases h
  split at h
  · cases h
  next q opened hopen =>
  split at h
  · next filled hfill =>
    cases h
    exact ⟨q, opened, hopen, hfill⟩
  · cases h

section Paths

variable {path : Path} (hpath : path.IsNormal) (hne : path.parts ≠ [])

include hpath hne

theorem trimSlashes_path : Way.trimSlashes path.way.octets = path.way.octets :=
  Way.trimSlashes_octets (Path.named_way hpath) (by simpa [Path.way] using hne)

theorem endsInSlash_path : endsInSlash path.way.octets = false :=
  Way.endsInSlash_octets (Path.named_way hpath) (by simpa [Path.way] using hne)

/-- A write that succeeds rewrites the file that its path leads to, unless this is no regular file:
then nothing is kept. -/
theorem rewrites_of_writeBytes (h : writeBytes path content d = (.ok (), d')) :
    ∃ q, d.locateWith true d.current path.way.octets = .ok q ∧
      ((d.IsSpecial q ∧ d' = d) ∨
        ∃ mode group, d.Rewrites q (.file content mode d.changeTime group) d') := by
  obtain ⟨q, opened, hopen, hfill⟩ := opened_of_writeBytes h
  have hlocate := locateWith_of_openToWrite hopen
  rw [trimSlashes_path hpath hne] at hlocate
  refine ⟨q, hlocate, ?_⟩
  rcases rewrites_of_openToWrite hopen with ⟨hspecial, rfl⟩ | ⟨mode, group, -, hrewrites⟩
  · exact Or.inl ⟨hspecial, hspecial.fill hfill⟩
  · obtain ⟨d'', hfilled, hwritten⟩ := hrewrites.fill content
    cases hfilled.symm.trans hfill
    exact Or.inr ⟨mode, group, hwritten⟩

/-- A write can be repeated at any time. It ends as before, and nothing but times is new. -/
theorem writeBytes_again {r : Except Fault Unit} (h : writeBytes path content d = (r, d'))
    (time : Int) : ∃ d'', writeBytes path content { d' with now := time } = (r, d'') ∧
      ∀ p, (d''.face? p).map (Node.withTime 0) = (d'.face? p).map (Node.withTime 0) := by
  have hslash := endsInSlash_path hpath hne
  unfold writeBytes at h ⊢
  cases hguard : guardPath path.text with
  | error fault =>
    rw [hguard] at h
    cases h
    exact ⟨_, rfl, fun _ => rfl⟩
  | ok =>
    rw [hguard] at h
    dsimp only at h ⊢
    cases hopen : d.openToWrite d.current Mode.usualMask true path.way.octets with
    | error e =>
      rw [hopen] at h
      cases h
      rw [openToWrite_later hopen]
      exact ⟨_, rfl, fun _ => rfl⟩
    | ok found =>
      obtain ⟨q, opened⟩ := found
      rw [hopen] at h
      dsimp only at h
      have hlocate := locateWith_of_openToWrite hopen
      rcases rewrites_of_openToWrite hopen with ⟨hspecial, hsame⟩ | ⟨mode, group, hmode, hopened⟩
      · -- Nothing is kept, so what is opened and filled later is the same.
        rw [hsame] at h
        have hunchanged : d' = d := by
          cases hfill : d.fill q content with
          | ok filled =>
            rw [hfill] at h
            exact (Prod.mk.inj h).2.symm.trans (hspecial.fill hfill)
          | error e =>
            rw [hfill] at h
            exact (Prod.mk.inj h).2.symm
        rw [hunchanged, openToWrite_of_special (d := { d with now := time }) hlocate hslash hspecial
          (fun n hn => allows_of_openToWrite hopen hn)]
        dsimp only
        rw [hspecial.fill_later]
        cases hfill : d.fill q content <;> rw [hfill] at h <;> obtain ⟨rfl, -⟩ := Prod.mk.inj h <;>
          exact ⟨_, rfl, fun _ => rfl⟩
      · obtain ⟨filled, hfilled, hwritten⟩ := hopened.fill content
        rw [hfilled] at h
        cases h
        have hgrows := (grows_of_openToWrite hopen).trans (grows_of_fill hfilled)
        have hfile := hwritten.file q (Or.inl rfl)
        have hlocate' : locateWith { d' with now := time } true d'.current
            (Way.trimSlashes path.way.octets) = .ok q := by
          rw [hwritten.current]
          exact locateWith_of_grows hgrows hlocate
        obtain ⟨d'', hfill, hagain⟩ :=
          (rewrites_put_file (d := { d' with now := time }) hfile [] mode _).fill content
        rw [openToWrite_of_file (d := { d' with now := time }) hlocate' hslash hfile hmode]
        dsimp only
        rw [hfill]
        refine ⟨d'', rfl, fun p => ?_⟩
        have hnames := hwritten.names p
        by_cases hp : d.SameFile q p
        · rw [face?_of_node? (hagain.file p (hnames.mpr hp)), face?_of_node? (hwritten.file p hp)]
          rfl
        · exact congrArg _ (hagain.others p (mt hnames.mp hp))

end Paths

end Disk

end Worksheet
