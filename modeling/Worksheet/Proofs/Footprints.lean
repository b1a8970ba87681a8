-- What an action leaves as it was. A write changes one file under all its names, and a directory
-- that is made is on the way to what is written; all else stands where it stood, and is the same.
import Worksheet.Proofs.FileEdits

namespace Worksheet

open Text (Bytes Octets)

/-! ## Places after a put -/

namespace Node

variable {now : Int} {node root n : Node} {p q : Place}

/-- Where something stands afterwards, something has been put or has stood before. -/
theorem isSome_of_at?_put (hleaf : IsLeaf node) (h : ((put now node q root).at? p).isSome = true) :
    p = q ∨ (root.at? p).isSome = true := by
  induction q generalizing root p with
  | nil =>
    cases p with
    | nil => exact Or.inl rfl
    | cons c p =>
      rw [put, hleaf _ (List.cons_ne_nil _ _)] at h
      cases h
  | cons c q ih =>
    cases p with
    | nil => exact Or.inr rfl
    | cons k p =>
      cases root with
      | directory mode modified entries =>
        rw [at?_cons, child?_put] at h
        rw [at?_cons]
        by_cases hk : k = c
        · subst hk
          rw [if_pos rfl] at h
          cases hold : entries.lookup k with
          | some m =>
            rw [hold] at h
            rcases ih h with rfl | hbefore
            · exact Or.inl rfl
            · exact Or.inr (by simpa [child?, Node.entries, hold] using hbefore)
          | none =>
            simp only [hold] at h
            split at h
            · next hq =>
              subst hq
              cases p with
              | nil => exact Or.inl rfl
              | cons b p =>
                rw [Option.bind_some, hleaf _ (List.cons_ne_nil _ _)] at h
                cases h
            · cases h
        · rw [if_neg hk] at h
          exact Or.inr h
      | _ => exact Or.inr h

/-- Nothing is left below what has been taken away. -/
theorem at?_erase_of_prefix (hq : q ≠ []) (h : q <+: p) : (erase now q root).at? p = none := by
  induction q generalizing root p with
  | nil => exact absurd rfl hq
  | cons c q ih =>
    obtain ⟨below, rfl⟩ := h
    cases root with
    | directory mode modified entries =>
      rw [List.cons_append, at?_cons, child?_erase, if_pos rfl]
      split
      · rfl
      · next hne =>
        cases entries.lookup c with
        | none => rfl
        | some m => exact ih hne (List.prefix_append _ _)
    | _ => rfl

/-- All else is of the kind that it was. -/
theorem kind_at?_erase (h : ¬q <+: p) :
    ((erase now q root).at? p).map kind = (root.at? p).map kind := by
  induction q generalizing root p with
  | nil => exact absurd List.nil_prefix h
  | cons c q ih =>
    cases root with
    | directory mode modified entries =>
      cases p with
      | nil =>
        rw [erase_directory]
        split <;> rfl
      | cons k p =>
        rw [at?_cons, at?_cons, child?_erase]
        by_cases hk : k = c
        · subst hk
          have hbelow : ¬q <+: p := fun hpre => h (List.cons_prefix_cons.mpr ⟨rfl, hpre⟩)
          have hne : q ≠ [] := by
            rintro rfl
            exact hbelow List.nil_prefix
          rw [if_pos rfl, if_neg hne]
          cases hold : entries.lookup k with
          | none => simp [child?, Node.entries, hold]
          | some m => simpa [child?, Node.entries, hold] using ih hbelow
        · rw [if_neg hk]
          rfl
    | _ => rfl

theorem isDirectory_of_group (h : n.group ≠ 0) : n.isDirectory = false := by
  cases n <;> first | rfl | exact absurd rfl h

theorem isDirectory_putAll (hdir : node.isDirectory = false) (group : Nat) (n : Node) :
    (putAll group node n).isDirectory = n.isDirectory := by
  cases n with
  | file content mode modified g =>
    rw [putAll]
    split
    · exact hdir
    · rfl
  | _ => rfl

/-- What is put for a group stands only where a file of the group has been. -/
theorem putAll_of_group_ne {group : Nat} (h : n.group ≠ group) (hdir : n.isDirectory = false)
    (node : Node) : putAll group node n = n := by
  cases n with
  | file content mode modified g =>
    rw [putAll]
    exact if_neg h
  | directory => cases hdir
  | _ => rfl

theorem group_putAll {group : Nat} (hgroup : group ≠ 0) (hn : n.group = group)
    (hnode : node.group = group) : (putAll group node n).group = group := by
  cases n with
  | file content mode modified g =>
    have hn : g = group := hn
    rw [putAll, if_pos hn]
    exact hnode
  | _ => exact absurd hn.symm hgroup

end Node

namespace Disk

variable {d d' d'' : Disk} {p q : Place} {mine ways mine' ways' : Place → Prop}

/-! ## Links -/

theorem no_link_of_grows (hgrows : d.root.Grows d'.root)
    (h : ∀ target time, d.node? p ≠ some (.link target time)) (target : Octets) (time : Int) :
    d'.node? p ≠ some (.link target time) := by
  intro hlink
  cases hn : d.node? p with
  | none => exact hgrows.noLink p target time hn hlink
  | some n =>
    obtain ⟨n', hn', hkind⟩ := hgrows.kept p n hn
    cases hlink.symm.trans hn'
    obtain ⟨time', rfl⟩ := Node.eq_link_of_kind hkind.symm
    exact h target time' hn

/-! ## Files under their names -/

/-- One file is at both places: they are the same, or hold files of one group. -/
def SameFile (d : Disk) (q p : Place) : Prop :=
  p = q ∨ ∃ n m, d.node? q = some n ∧ d.node? p = some m ∧ n.group ≠ 0 ∧ m.group = n.group

/-- What is no directory after a file has been replaced is what it was, or the new file under one of
its names. -/
theorem file_of_put_file {old : Bytes} {oldMode : Mode} {oldTime : Int} {group : Nat}
    (hold : d.node? q = some (.file old oldMode oldTime group)) {content : Bytes} {mode : Mode}
    {time : Int} {n : Node} (h : (d.put q (.file content mode time group)).node? p = some n)
    (hdir : n.isDirectory = false) :
    d.node? p = some n ∨ d.SameFile q p ∧ n.group = group := by
  have hleaf := Node.isLeaf_file content mode time group
  have hnew : (Node.file content mode time group).group = group := rfl
  unfold put node? at h
  dsimp only at h
  rw [hnew] at h
  split at h
  · rcases Node.at?_of_at?_put hleaf h hdir with ⟨rfl, rfl⟩ | hbefore
    · exact Or.inr ⟨Or.inl rfl, rfl⟩
    · exact Or.inl hbefore
  · next hgroup =>
    rw [Node.at?_putAll hleaf] at h
    obtain ⟨m, hm, rfl⟩ := Option.map_eq_some_iff.mp h
    have hmdir : m.isDirectory = false := by rwa [Node.isDirectory_putAll rfl] at hdir
    rcases Node.at?_of_at?_put hleaf hm hmdir with ⟨rfl, rfl⟩ | hbefore
    · exact Or.inr ⟨Or.inl rfl, Node.group_putAll hgroup rfl rfl⟩
    · by_cases hsame : m.group = group
      · exact Or.inr ⟨Or.inr ⟨_, m, hold, hbefore, hgroup, hsame⟩,
          Node.group_putAll hgroup hsame rfl⟩
      · rw [Node.putAll_of_group_ne hsame hmdir]
        exact Or.inl hbefore

/-! ## Edits -/

/-- Only these files are new or changed, new directories are only on these ways, nothing is gone,
and no file has a further name. -/
structure Edit (mine ways : Place → Prop) (d d' : Disk) : Prop where
  current : d'.current = d.current
  scratch : d'.scratch = d.scratch
  grows : d.root.Grows d'.root
  files : ∀ p n, d'.node? p = some n → n.isDirectory = false → d.node? p = some n ∨ mine p
  fresh : ∀ p, d.node? p = none → (d'.node? p).isSome = true → mine p ∨ ways p
  groups : ∀ p n, d'.node? p = some n → n.group ≠ 0 → ∃ m, d.node? p = some m ∧ m.group = n.group

/-- The same tree of files. -/
theorem edit_of_root (hroot : d'.root = d.root) (hcurrent : d'.current = d.current)
    (hscratch : d'.scratch = d.scratch) : Edit mine ways d d' := by
  have hnode : ∀ p, d'.node? p = d.node? p := fun p => by
    unfold node?
    rw [hroot]
  refine ⟨hcurrent, hscratch, hroot ▸ .refl _, fun p n hn _ => Or.inl (hnode p ▸ hn),
    fun p hnone hsome => ?_, fun p n hn _ => ⟨n, hnode p ▸ hn, rfl⟩⟩
  rw [hnode, hnone] at hsome
  cases hsome

theorem Edit.refl (d : Disk) : Edit mine ways d d := edit_of_root rfl rfl rfl

theorem Edit.mono (h : Edit mine ways d d') (hmine : ∀ p, mine p → mine' p)
    (hways : ∀ p, d.node? p = none → ways p → ways' p) : Edit mine' ways' d d' :=
  ⟨h.current, h.scratch, h.grows, fun p n hn hdir => (h.files p n hn hdir).imp_right (hmine p),
    fun p hnone hsome => (h.fresh p hnone hsome).imp (hmine p) (hways p hnone), h.groups⟩

theorem Edit.trans (h : Edit mine ways d d') (h' : Edit mine ways d' d'') :
    Edit mine ways d d'' := by
  refine ⟨h'.current.trans h.current, h'.scratch.trans h.scratch, h.grows.trans h'.grows,
    fun p n hn hdir => ?_, fun p hnone hsome => ?_, fun p n hn hgroup => ?_⟩
  · rcases h'.files p n hn hdir with hold | hmine
    · exact h.files p n hold hdir
    · exact Or.inr hmine
  · cases hmid : d'.node? p with
    | none => exact h'.fresh p hmid hsome
    | some n => exact h.fresh p hnone (Option.isSome_of_eq_some hmid)
  · obtain ⟨m, hm, hsame⟩ := h'.groups p n hn hgroup
    obtain ⟨k, hk, hsame'⟩ := h.groups p m hm (hsame ▸ hgroup)
    exact ⟨k, hk, hsame'.trans hsame⟩

/-- Places that are names of one file afterwards have been so before. -/
theorem SameFile.of_edit (h : d'.SameFile q p) (hedit : Edit mine ways d d') :
    d.SameFile q p := by
  rcases h with rfl | ⟨n, m, hn, hm, hgroup, hsame⟩
  · exact Or.inl rfl
  · obtain ⟨n', hn', hsame'⟩ := hedit.groups q n hn hgroup
    obtain ⟨m', hm', hsame''⟩ := hedit.groups p m hm (hsame ▸ hgroup)
    exact Or.inr ⟨n', m', hn', hm', hsame' ▸ hgroup, hsame''.trans (hsame.trans hsame'.symm)⟩

/-! ## Single actions -/

/-- Something new, put where nothing stands. -/
theorem edit_put_new (hnone : d.node? q = none) {node : Node} (hnode : node.IsNew) :
    Edit (fun p => p = q ∧ node.isDirectory = false) (fun p => p = q) d (d.put q node) := by
  have hroot : (d.put q node).root = Node.put d.changeTime node q d.root := root_put hnode
  refine ⟨rfl, rfl, grows_put_new hnone hnode, fun p n hn hdir => ?_, fun p hp hsome => ?_,
    fun p n hn hgroup => ?_⟩
  · unfold node? at hn
    rw [hroot] at hn
    rcases Node.at?_of_at?_put hnode.isLeaf hn hdir with ⟨rfl, rfl⟩ | hold
    · exact Or.inr ⟨rfl, hdir⟩
    · exact Or.inl hold
  · unfold node? at hsome hp
    rw [hroot] at hsome
    rcases Node.isSome_of_at?_put hnode.isLeaf hsome with rfl | hold
    · exact Or.inr rfl
    · rw [hp] at hold
      cases hold
  · unfold node? at hn
    rw [hroot] at hn
    rcases Node.at?_of_at?_put hnode.isLeaf hn (Node.isDirectory_of_group hgroup) with
      ⟨rfl, rfl⟩ | hold
    · exact absurd hnode.group hgroup
    · exact ⟨n, hold, rfl⟩

/-- A file in the place of another one. -/
theorem edit_put_file {old : Bytes} {oldMode : Mode} {oldTime : Int} {group : Nat}
    (hold : d.node? q = some (.file old oldMode oldTime group)) (content : Bytes) (mode : Mode)
    (time : Int) : Edit (d.SameFile q) ways d (d.put q (.file content mode time group)) := by
  refine ⟨rfl, rfl, (put_file hold content mode time group).1, fun p n hn hdir => ?_,
    fun p hnone hsome => ?_, fun p n hn hgroup => ?_⟩
  · exact (file_of_put_file hold hn hdir).imp_right And.left
  · have hleaf := Node.isLeaf_file content mode time group
    have hput : ((Node.put d.changeTime (.file content mode time group) q d.root).at? p).isSome =
        true := by
      unfold put node? at hsome
      dsimp only at hsome
      split at hsome
      · exact hsome
      · rwa [Node.at?_putAll hleaf, Option.isSome_map] at hsome
    rcases Node.isSome_of_at?_put hleaf hput with rfl | hbefore
    · exact Or.inl (Or.inl rfl)
    · unfold node? at hnone
      rw [hnone] at hbefore
      cases hbefore
  · rcases file_of_put_file hold hn (Node.isDirectory_of_group hgroup) with hbefore | ⟨hsame, heq⟩
    · exact ⟨n, hbefore, rfl⟩
    · rcases hsame with rfl | ⟨k, m, hk, hm, -, hgroups⟩
      · exact ⟨_, hold, heq.symm⟩
      · cases hold.symm.trans hk
        exact ⟨m, hm, hgroups.trans heq.symm⟩

theorem edit_openToWrite {directory place : Place} {mask : Mode} {raw : Octets}
    (h : d.openToWrite directory mask true raw = .ok (place, d')) :
    Edit (d.SameFile place) (fun _ => False) d d' := by
  rcases (openToWrite_cases h).2 with ⟨hnone, -, rfl⟩ | ⟨old, mode, time, group, hold, rfl⟩ | ⟨-, rfl⟩
  · have hput := edit_put_new hnone
      (show (Node.file [] (Mode.ofFile.without mask) d.changeTime 0).IsNew from rfl)
    refine ⟨hput.current, hput.scratch, hput.grows, fun p n hn hdir => ?_,
      fun p hp hsome => ?_, hput.groups⟩
    · exact (hput.files p n hn hdir).imp_right fun hmine => Or.inl hmine.1
    · exact Or.inl (Or.inl ((hput.fresh p hp hsome).elim And.left id))
  · exact edit_put_file hold [] mode d.changeTime
  · exact .refl _

theorem edit_fill {content : Bytes} (h : d.fill q content = .ok d') :
    Edit (d.SameFile q) ways d d' := by
  rcases fill_cases h with ⟨old, mode, time, group, hold, rfl⟩ | ⟨-, rfl⟩
  · exact edit_put_file hold content mode d.changeTime
  · exact .refl _

/-- What has been opened has no room only when it is no file, and then nothing has changed. -/
theorem openToWrite_of_fill_error {directory place : Place} {mask : Mode} {raw : Octets}
    {content : Bytes} {e : Errno} (h : d.openToWrite directory mask true raw = .ok (place, d'))
    (hfill : d'.fill place content = .error e) : d' = d := by
  rcases (openToWrite_cases h).2 with ⟨hnone, habove, rfl⟩ | ⟨old, mode, time, group, hold, rfl⟩ |
    ⟨-, rfl⟩
  · have hnew := node?_put (Or.inr ⟨hnone, habove⟩)
      (show (Node.file [] (Mode.ofFile.without mask) d.changeTime 0).IsNew from rfl)
    unfold fill at hfill
    simp only [hnew] at hfill
    cases hfill
  · have hnew := (put_file hold [] mode d.changeTime group).2
    unfold fill at hfill
    simp only [hnew] at hfill
    cases hfill
  · rfl

/-! ## Writing a path -/

/-- A file is written as a whole, under all its names, or nothing changes. -/
theorem edit_writeBytes {path : Path} (hpath : path.IsNormal) (hne : path.parts ≠ [])
    {content : Bytes} {r : Except Fault Unit} (h : writeBytes path content d = (r, d')) :
    (r = .ok () ∧ ∃ q, d.locateWith true d.current path.way.octets = .ok q ∧
      Edit (d.SameFile q) (fun _ => False) d d') ∨ ((∃ fault, r = .error fault) ∧ d' = d) := by
  have htrim : Way.trimSlashes path.way.octets = path.way.octets :=
    Way.trimSlashes_octets (Path.named_way hpath) (by simpa [Path.way] using hne)
  unfold writeBytes at h
  split at h
  · cases h
    exact Or.inr ⟨⟨_, rfl⟩, rfl⟩
  split at h
  · cases h
    exact Or.inr ⟨⟨_, rfl⟩, rfl⟩
  next q opened hopen =>
  have hlocate := locateWith_of_openToWrite hopen
  rw [htrim] at hlocate
  split at h
  · next filled hfill =>
    cases h
    refine Or.inl ⟨rfl, q, hlocate, (edit_openToWrite hopen).trans ?_⟩
    exact (edit_fill hfill).mono (fun p hp => hp.of_edit (edit_openToWrite hopen)) fun _ _ => id
  · next hfill =>
    cases h
    exact Or.inr ⟨⟨_, rfl⟩, openToWrite_of_fill_error hopen hfill⟩

/-! ## Making a way -/

/-- From a directory, points alone lead back to it. -/
theorem walk_points {root : Node} {follow : Bool} {links : Nat} {start place : Place}
    {parts : List Octets} (hparts : ∀ c ∈ parts, c = ['.'])
    (h : walk root follow links start parts = .ok place) :
    place = start ∧ (root.at? place).isSome = true := by
  have hends : ∀ (parts : List Octets) (back : List Octets) (here : Node),
      (∀ c ∈ parts, c = ['.']) → walkToLink root follow back here parts = .reached back.reverse ∨
        ∃ errno, walkToLink root follow back here parts = .failed errno := by
    intro parts back here hparts
    induction parts with
    | nil => exact Or.inl rfl
    | cons c rest ih =>
      obtain rfl := hparts c (List.mem_cons_self ..)
      unfold walkToLink
      split
      · exact Or.inr ⟨_, rfl⟩
      split
      · exact Or.inr ⟨_, rfl⟩
      rw [if_pos rfl]
      exact ih fun b hb => hparts b (List.mem_cons_of_mem _ hb)
  cases links with
  | zero => cases h
  | succ links =>
    unfold walk at h
    cases hhere : root.at? start with
    | none => simp [hhere] at h
    | some here =>
      simp only [hhere] at h
      rcases hends parts start.reverse here hparts with hend | ⟨errno, hend⟩
      · rw [hend, List.reverse_reverse] at h
        cases h
        exact ⟨rfl, Option.isSome_of_eq_some hhere⟩
      · rw [hend] at h
        cases h

theorem locateWith_trimSlashes {w : Way} (hnamed : w.Named) (follow : Bool) (directory : Place) :
    d.locateWith follow directory (Way.trimSlashes w.octets) =
      d.locateWith follow directory w.octets := by
  by_cases hparts : w.parts = []
  · obtain ⟨anchor, parts⟩ := w
    cases hparts
    cases anchor <;> rfl
  · rw [Way.trimSlashes_octets hnamed hparts]

/-- A way without components leads to where it starts, and something stands there. -/
theorem locateWith_of_no_parts {w : Way} (hparts : w.parts = []) {follow : Bool}
    {directory place : Place}
    (h : d.locateWith follow directory (Way.trimSlashes w.octets) = .ok place) :
    place = (if w.anchor = .current then directory else []) ∧ (d.node? place).isSome = true := by
  obtain ⟨anchor, parts⟩ := w
  cases hparts
  have hpoints : ∀ c ∈ components (Way.trimSlashes (Way.octets ⟨anchor, []⟩)), c = ['.'] := by
    cases anchor <;> decide
  have hstart : (if isAbsolute (Way.trimSlashes (Way.octets ⟨anchor, []⟩)) then [] else directory) =
      if anchor = .current then directory else [] := by
    cases anchor <;> rfl
  unfold locateWith at h
  split at h
  · cases h
  split at h
  · cases h
  dsimp only at h
  rw [hstart] at h
  split at h
  · cases h
  next found hfound =>
  have hstands := walk_points hpoints hfound
  split at h
  · split at h
    · split at h
      · cases h
        exact hstands
      · cases h
    · cases h
  · cases h
    exact hstands

/-- One of the first components of a way leads there. -/
def OnWay (d : Disk) (w : Way) (p : Place) : Prop :=
  ∃ above, above <+: w.parts ∧ d.locateWith true d.current (Way.octets ⟨w.anchor, above⟩) = .ok p

theorem OnWay.later {w : Way} {above : List Octets} (h : d.OnWay ⟨w.anchor, above⟩ p)
    (habove : above <+: w.parts) (hgrows : d.root.Grows d'.root)
    (hcurrent : d'.current = d.current) : d'.OnWay w p := by
  obtain ⟨before, hbefore, hlocate⟩ := h
  refine ⟨before, hbefore.trans habove, ?_⟩
  rw [hcurrent]
  exact locateWith_of_grows hgrows hlocate

theorem OnWay.grows {w : Way} (h : d.OnWay w p) (hgrows : d.root.Grows d'.root)
    (hcurrent : d'.current = d.current) : d'.OnWay w p :=
  h.later (w := w) (List.prefix_refl _) hgrows hcurrent

theorem edit_makeDirectory {w : Way} (hw : w.Named) {mask : Mode}
    (h : d.makeDirectory d.current mask w.octets = .ok d') :
    Edit (fun _ => False) (d'.OnWay w) d d' := by
  have hgrows := makeDirectory_grows h
  unfold makeDirectory at h
  obtain ⟨q, hfree, rfl⟩ := exists_of_map_ok h
  obtain ⟨hnone, habove⟩ := node?_of_freePlace hfree
  have hnew : (Node.directory (Mode.ofDirectory.without mask) d.changeTime []).IsNew := rfl
  have hlocate := locateWith_of_freePlace hfree
  have hne : w.parts ≠ [] := by
    intro hparts
    have hstands := (locateWith_of_no_parts hparts hlocate).2
    rw [hnone] at hstands
    cases hstands
  rw [Way.trimSlashes_octets hw hne] at hlocate
  have hleads := locateWith_followed (locateWith_of_grows hgrows hlocate) fun target time hlink => by
    cases hlink.symm.trans (node?_put (Or.inr ⟨hnone, habove⟩) hnew)
  refine (edit_put_new hnone hnew).mono (fun p hp => ?_) fun p _ hp => ?_
  · cases hp.2
  · subst hp
    exact ⟨w.parts, List.prefix_refl _, hleads⟩

theorem edit_ensureDirectory {w : Way} (hw : w.Named) {r : Except WayFault Unit}
    (h : d.ensureDirectory w = (r, d')) : Edit (fun _ => False) (d'.OnWay w) d d' := by
  unfold ensureDirectory at h
  split at h
  · next hmake =>
    cases h
    exact edit_makeDirectory hw hmake
  · split at h
    · split at h <;> cases h <;> exact .refl _
    · cases h
      exact .refl _

/-- New directories are on the way. -/
theorem edit_makeDirectories {anchor : Anchor} {room : Nat} {parts : List Octets}
    (hw : Way.Named ⟨anchor, parts.reverse⟩) {r : Except WayFault Unit}
    (h : d.makeDirectories anchor room parts = (r, d')) :
    Edit (fun _ => False) (d'.OnWay ⟨anchor, parts.reverse⟩) d d' := by
  induction room generalizing parts r d' with
  | zero =>
    cases h
    exact .refl _
  | succ room ih =>
    cases parts with
    | nil => exact edit_ensureDirectory hw h
    | cons c above =>
      unfold makeDirectories at h
      dsimp only at h
      split at h
      · have hinit : above.reverse <+: (c :: above).reverse := by
          rw [List.reverse_cons]
          exact List.prefix_append _ _
        have hnamed : Way.Named ⟨anchor, above.reverse⟩ := fun b hb => hw b (hinit.subset hb)
        split at h
        · next between hbetween =>
          have hlast := edit_ensureDirectory hw h
          refine Edit.trans ((ih hnamed hbetween).mono (fun _ => id) fun p _ hp => ?_) hlast
          exact hp.later (w := ⟨anchor, (c :: above).reverse⟩) hinit hlast.grows hlast.current
        · next between hbetween =>
          cases h
          exact (ih hnamed hbetween).mono (fun _ => id) fun p _ hp =>
            hp.later (w := ⟨anchor, (c :: above).reverse⟩) hinit (.refl _) rfl
      · exact edit_ensureDirectory hw h

theorem edit_makeWay {w : Way} (hw : w.Named) {r : Except WayFault Unit}
    (h : d.makeWay w = (r, d')) : Edit (fun _ => False) (d'.OnWay w) d d' := by
  have hparts : (⟨w.anchor, w.parts.reverse.reverse⟩ : Way) = w := by rw [List.reverse_reverse]
  have hmake := edit_makeDirectories (hparts.symm ▸ hw) h
  rwa [hparts] at hmake

theorem edit_ensurePath {path : Path} (hpath : path.IsNormal) {r : Except Fault Unit}
    (h : ensurePath path d = (r, d')) : Edit (fun _ => False) (d'.OnWay path.way) d d' := by
  unfold ensurePath at h
  split at h
  · cases h
    exact .refl _
  split at h <;> next hmake =>
    cases h
    exact edit_makeWay (Path.named_way hpath) hmake

end Disk

end Worksheet
