-- Files that are written and read back, on any disk. An edit that makes a directory, makes a file
-- or fills one lets a tree grow, so that every path that has led somewhere leads there afterwards;
-- and below a new scratch directory, what is written is found where its path says.
import Worksheet.Proofs.CommandLine
import Worksheet.Proofs.DiskActions
import Worksheet.Proofs.Walks

namespace Worksheet

open Text (Bytes Octets)

/-! ## Edits of trees -/

namespace Node

variable {root node n : Node} {p place : Place}

theorem isLeaf_file (content : Bytes) (mode : Mode) (modified : Int) (group : Nat) :
    IsLeaf (.file content mode modified group) :=
  fun _ hp => at?_of_not_directory rfl hp

theorem kind_put_directory (now : Int) (mode : Mode) (modified : Int)
    (entries : List (Octets × Node)) (c : Octets) (rest : Place) :
    (put now node (c :: rest) (.directory mode modified entries)).kind =
      (directory mode modified entries).kind := by
  rw [put_directory]
  split <;> rfl

/-- What is put at a place takes away nothing, when it takes the place of its like or of nothing. -/
theorem exists_at?_put (now : Int)
    (hlike : ∀ m, root.at? place = some m → m.isDirectory = false ∧ node.kind = m.kind)
    (h : root.at? p = some n) :
    ∃ n', (put now node place root).at? p = some n' ∧ n'.kind = n.kind := by
  induction place generalizing root p with
  | nil =>
    obtain ⟨hfile, hkind⟩ := hlike root rfl
    cases p with
    | nil =>
      cases h
      exact ⟨node, rfl, hkind⟩
    | cons k p =>
      rw [at?_of_not_directory hfile (List.cons_ne_nil _ _)] at h
      cases h
  | cons c place ih =>
    cases root with
    | directory mode modified entries =>
      cases p with
      | nil =>
        cases h
        exact ⟨_, rfl, kind_put_directory now mode modified entries c place⟩
      | cons k p =>
        rw [at?_cons] at h
        rw [at?_cons, child?_put]
        by_cases hk : k = c
        · subst hk
          obtain ⟨m, hm, hbelow⟩ := Option.bind_eq_some_iff.mp h
          rw [if_pos rfl, show entries.lookup k = some m from hm]
          refine ih (fun m' hm' => hlike m' ?_) hbelow
          rw [at?_cons, hm]
          exact hm'
        · rw [if_neg hk]
          exact ⟨n, h, rfl⟩
    | _ => exact ⟨n, h, rfl⟩

theorem Grows.put (now : Int) (hleaf : node.IsLeaf) (hnolink : ∀ target, node.kind ≠ .link target)
    (hlike : ∀ m, root.at? place = some m → m.isDirectory = false ∧ node.kind = m.kind) :
    Grows root (put now node place root) := by
  refine ⟨fun p n hn => exists_at?_put now hlike hn, fun p target time hnone hlink => ?_⟩
  rcases at?_of_at?_put hleaf hlink rfl with ⟨-, rfl⟩ | hold
  · exact hnolink target rfl
  · rw [hnone] at hold
    cases hold

/-! ## Edits of files with several names -/

theorem lookup_putAllAmong (group : Nat) (node : Node) (name : Octets)
    (entries : List (Octets × Node)) :
    (putAllAmong group node entries).lookup name =
      (entries.lookup name).map (putAll group node) := by
  induction entries with
  | nil => rfl
  | cons entry rest ih =>
    obtain ⟨k, m⟩ := entry
    rw [putAllAmong, List.lookup_cons, List.lookup_cons]
    split
    · rfl
    · exact ih

theorem child?_putAll (hleaf : node.IsLeaf) (group : Nat) (root : Node) (c : Octets) :
    (putAll group node root).child? c = (root.child? c).map (putAll group node) := by
  cases root with
  | directory mode modified entries => exact lookup_putAllAmong group node c entries
  | file content mode modified g =>
    rw [putAll]
    split
    · have hnone := hleaf [c] (List.cons_ne_nil _ _)
      rw [at?_cons] at hnone
      cases hchild : node.child? c with
      | none => rfl
      | some m =>
        rw [hchild] at hnone
        cases hnone
    · rfl
  | _ => rfl

theorem at?_putAll (hleaf : node.IsLeaf) (group : Nat) (root : Node) (p : Place) :
    (putAll group node root).at? p = (root.at? p).map (putAll group node) := by
  induction p generalizing root with
  | nil => rfl
  | cons c p ih =>
    rw [at?_cons, at?_cons, child?_putAll hleaf]
    cases root.child? c with
    | none => rfl
    | some m => exact ih m

theorem kind_putAll (hkind : node.kind = .other) (group : Nat) (n : Node) :
    (putAll group node n).kind = n.kind := by
  cases n with
  | file content mode modified g =>
    rw [putAll]
    split
    · exact hkind
    · rfl
  | _ => rfl

theorem Grows.putAll (hleaf : node.IsLeaf) (hkind : node.kind = .other) (group : Nat)
    (root : Node) : Grows root (Node.putAll group node root) := by
  refine ⟨fun p n hn => ⟨Node.putAll group node n, ?_, kind_putAll hkind group n⟩,
    fun p target time hnone => ?_⟩
  · rw [at?_putAll hleaf, hn]
    rfl
  · rw [at?_putAll hleaf, hnone]
    exact nofun

end Node

namespace Disk

variable {d d' : Disk} {place : Place}

/-! ## Files -/

theorem grows_put_new (hnone : d.node? place = none) {node : Node} (hnode : node.IsNew) :
    d.root.Grows (d.put place node).root := by
  rw [root_put hnode]
  refine .put _ hnode.isLeaf ?_ fun m hm => ?_
  · cases node with
    | link => cases hnode
    | _ => exact nofun
  · cases hnone.symm.trans hm

/-- A file that takes the place of another one stands there, under all its names. -/
theorem put_file {old : Bytes} {oldMode : Mode} {oldTime : Int} {oldGroup : Nat}
    (hold : d.node? place = some (.file old oldMode oldTime oldGroup)) (content : Bytes)
    (mode : Mode) (modified : Int) (group : Nat) :
    d.root.Grows (d.put place (.file content mode modified group)).root ∧
      (d.put place (.file content mode modified group)).node? place =
        some (.file content mode modified group) := by
  have hleaf := Node.isLeaf_file content mode modified group
  have hput : d.root.Grows
      (Node.put d.changeTime (.file content mode modified group) place d.root) :=
    .put d.changeTime hleaf nofun fun m hm => by
      cases hold.symm.trans hm
      exact ⟨rfl, rfl⟩
  have hstands :
      (Node.put d.changeTime (.file content mode modified group) place d.root).at? place =
        some (.file content mode modified group) :=
    Node.at?_put_of_isSome (Option.isSome_of_eq_some hold)
  unfold put node?
  dsimp only
  split
  · exact ⟨hput, hstands⟩
  · refine ⟨hput.trans (.putAll hleaf rfl _ _), ?_⟩
    rw [Node.at?_putAll hleaf, hstands]
    exact congrArg some (if_pos rfl)

/-- Seen from a directory, a path leads to a place where a file with this content and these rights
stands. -/
structure Shows (d : Disk) (directory : Place) (raw : Octets) (place : Place) (content : Bytes)
    (mode : Mode) : Prop where
  leads : d.locateWith true directory raw = .ok place
  file : ∃ time group, d.node? place = some (.file content mode time group)

theorem locateWith_of_root (hroot : d'.root = d.root) (follow : Bool) (directory : Place)
    (raw : Octets) : d'.locateWith follow directory raw = d.locateWith follow directory raw := by
  unfold locateWith node?
  rw [hroot]

/-- An absolute path leads to the same place from wherever it is seen. -/
theorem locateWith_of_absolute {raw : Octets} (h : isAbsolute raw = true) (follow : Bool)
    (directory directory' : Place) :
    d.locateWith follow directory raw = d.locateWith follow directory' raw := by
  unfold locateWith
  rw [h, if_pos rfl, if_pos rfl]

section Shows

variable {directory : Place} {raw : Octets} {content old : Bytes} {mode : Mode}

theorem Shows.of_root (h : d.Shows directory raw place content mode) (hroot : d'.root = d.root) :
    d'.Shows directory raw place content mode := by
  refine ⟨(locateWith_of_root hroot ..).trans h.leads, ?_⟩
  unfold node?
  rw [hroot]
  exact h.file

theorem Shows.of_absolute (h : d.Shows directory raw place content mode)
    (habsolute : isAbsolute raw = true) (other : Place) :
    d.Shows other raw place content mode :=
  ⟨(locateWith_of_absolute habsolute ..).trans h.leads, h.file⟩

theorem Shows.stat (h : d.Shows d.current raw place content mode) :
    ∃ time group, d.stat raw = .ok (place, .file content mode time group) := by
  obtain ⟨time, group, hfile⟩ := h.file
  refine ⟨time, group, ?_⟩
  unfold Disk.stat statFrom statWith
  simp only [h.leads, hfile]

theorem Shows.isFile (h : d.Shows d.current raw place content mode) : d.isFile raw = true := by
  obtain ⟨time, group, hstat⟩ := h.stat
  unfold Disk.isFile
  rw [hstat]
  rfl

/-- What is read is the content of the file, if it may be read. -/
theorem Shows.readFile (h : d.Shows d.current raw place content mode) :
    ∃ time, d.readFile raw =
      if mode.allows .read then .ok (content, time) else .error .accessDenied := by
  obtain ⟨time, group, hstat⟩ := h.stat
  have hallows : (Node.file content mode time group).allows .read = mode.allows .read := rfl
  refine ⟨time, ?_⟩
  unfold Disk.readFile openToRead
  rw [show d.statFrom d.current raw = _ from hstat]
  simp only [hallows]
  cases mode.allows .read <;> rfl

theorem locateWith_of_openToWrite {mask : Mode} {fresh : Bool}
    (hopen : d.openToWrite directory mask fresh raw = .ok (place, d')) :
    d.locateWith true directory (Way.trimSlashes raw) = .ok place := by
  unfold openToWrite at hopen
  split at hopen
  · cases hopen
  next found hlocate =>
  rw [hlocate]
  split at hopen
  · cases hopen
  split at hopen
  · obtain ⟨-, -, heq⟩ := exists_of_map_ok hopen
    cases heq
    rfl
  · cases hopen
  · cases hopen
  · split at hopen <;> cases hopen
    rfl
  · split at hopen <;> cases hopen
    rfl

/-- A file that has been opened to be written is found by its path, and is empty. -/
theorem shows_of_openToWrite {mask : Mode} (htrim : Way.trimSlashes raw = raw)
    (hopen : d.openToWrite directory mask true raw = .ok (place, d'))
    (hregular : ∀ n, d.node? place = some n → isRegular n = true) :
    ∃ mode, d'.Shows directory raw place [] mode ∧
      (d.node? place = none → mode = Mode.ofFile.without mask) := by
  unfold openToWrite at hopen
  rw [htrim] at hopen
  split at hopen
  · cases hopen
  next found hlocate =>
  split at hopen
  · cases hopen
  split at hopen
  · next hnone =>
    obtain ⟨⟨⟩, hmay, heq⟩ := exists_of_map_ok hopen
    cases heq
    have hnew : (Node.file [] (Mode.ofFile.without mask) d.changeTime 0).IsNew := rfl
    exact ⟨_, ⟨locateWith_of_grows (grows_put_new hnone hnew) hlocate, _, _,
      node?_put (Or.inr ⟨hnone, isDirectory_of_mayChange hmay⟩) hnew⟩, fun _ => rfl⟩
  · cases hopen
  · cases hopen
  · next oldContent mode time group hold =>
    split at hopen
    · cases hopen
    · cases hopen
      obtain ⟨hgrows, hstands⟩ := put_file hold [] mode d.changeTime group
      refine ⟨_, ⟨locateWith_of_grows hgrows hlocate, _, _, hstands⟩, fun hnone => ?_⟩
      cases hold.symm.trans hnone
  · next n hnodirectory hnotool hnofile hn =>
    split at hopen
    · cases hopen
      have hfile := hregular n hn
      cases n with
      | file content mode time group => exact absurd rfl (hnofile content mode time group)
      | tool name => exact absurd rfl (hnotool name)
      | _ => cases hfile
    · cases hopen

/-- Once it is filled, it holds its content. -/
theorem Shows.fill (h : d.Shows directory raw place old mode)
    (hfill : d.fill place content = .ok d') : d'.Shows directory raw place content mode := by
  obtain ⟨time, group, hfile⟩ := h.file
  unfold Disk.fill at hfill
  simp only [hfile] at hfill
  cases hfill
  obtain ⟨hgrows, hstands⟩ := put_file hfile content mode d.changeTime group
  exact ⟨locateWith_of_grows hgrows h.leads, _, _, hstands⟩

end Shows

/-! ## What stays as it is -/

theorem same_of_openToWrite {directory : Place} {mask : Mode} {fresh : Bool} {raw : Octets}
    (hopen : d.openToWrite directory mask fresh raw = .ok (place, d')) :
    d'.current = d.current ∧ d'.scratch = d.scratch := by
  unfold openToWrite at hopen
  split at hopen
  · cases hopen
  split at hopen
  · cases hopen
  split at hopen
  · obtain ⟨-, -, heq⟩ := exists_of_map_ok hopen
    cases heq
    exact ⟨rfl, rfl⟩
  · cases hopen
  · cases hopen
  · split at hopen
    · cases hopen
    · cases hopen
      split <;> exact ⟨rfl, rfl⟩
  · split at hopen
    · cases hopen
      exact ⟨rfl, rfl⟩
    · cases hopen

theorem same_of_fill {content : Bytes} (hfill : d.fill place content = .ok d') :
    d'.current = d.current ∧ d'.scratch = d.scratch := by
  unfold fill at hfill
  split at hfill
  · cases hfill
    exact ⟨rfl, rfl⟩
  · split at hfill <;> cases hfill
    exact ⟨rfl, rfl⟩
  · cases hfill
    exact ⟨rfl, rfl⟩

/-! ## New directories -/

/-- The path of a place leads to a directory, and nothing but directories is in it. -/
structure Fresh (d : Disk) (path base : Place) : Prop where
  leads : walk d.root false (maxLinks + 1) [] path = .ok base
  bare : d.root.Bare base

/-- The same tree of files. -/
theorem Fresh.of_root {path base : Place} (h : d.Fresh path base) (hroot : d'.root = d.root) :
    d'.Fresh path base :=
  ⟨hroot ▸ h.leads, hroot ▸ h.bare⟩

theorem makeDirectory_grows {directory : Place} {mask : Mode} {raw : Octets}
    (h : d.makeDirectory directory mask raw = .ok d') :
    d.root.Grows d'.root := by
  unfold makeDirectory at h
  obtain ⟨found, hfree, rfl⟩ := exists_of_map_ok h
  exact grows_put_new (node?_of_freePlace hfree).1 rfl

/-- A directory that is made leaves a new directory as it is, or is one more in it. -/
theorem Fresh.makeDirectory {path base : Place} (h : d.Fresh path base) {directory : Place}
    {mask : Mode} {raw : Octets} (hmake : d.makeDirectory directory mask raw = .ok d') :
    d'.Fresh path base := by
  have hgrows := makeDirectory_grows hmake
  obtain ⟨n, hn⟩ := Option.isSome_iff_exists.mp h.bare.stands
  obtain ⟨n', hn', -⟩ := hgrows.kept base n hn
  refine ⟨walk_of_grows hgrows h.leads, Option.isSome_of_eq_some hn', fun below m hm => ?_⟩
  cases hdir : m.isDirectory with
  | true => rfl
  | false =>
    -- Whatever is no directory has been there before.
    rw [← hdir]
    exact h.bare.directories below m
      ((change_makeDirectory hmake).fresh (base ++ below) m id hm hdir)

theorem walk_of_locateWith {follow : Bool} {directory place : Place} {w : Way} (hnamed : w.Named)
    (hne : w.parts ≠ []) (h : d.locateWith follow directory w.octets = .ok place) :
    w.octets.length ≤ maxPathBytes ∧
      walk d.root follow (maxLinks + 1) (if w.anchor = .current then directory else []) w.parts =
        .ok place := by
  have hcomponents : components w.octets = w.parts :=
    (w.components_octets hnamed).resolve_right fun hboth => hne hboth.1
  unfold locateWith at h
  split at h
  · cases h
  split at h
  · cases h
  next hshort =>
  dsimp only at h
  rw [Way.endsInSlash_octets hnamed hne, Way.start_octets hnamed, hcomponents, Bool.or_false] at h
  split at h
  · cases h
  next hwalk =>
    rw [if_neg Bool.false_ne_true] at h
    cases h
    exact ⟨Nat.not_lt.mp hshort, hwalk⟩

/-- A scratch directory is new. -/
theorem fresh_of_openScratch {label : String} {scratch : Place} (hnamed : scratch.way.Named)
    (h : openScratch label d = (.ok scratch, d')) :
    ∃ base, d'.Fresh scratch base := by
  obtain ⟨hplace, found, hfree, rfl⟩ := openScratch_put h
  obtain ⟨hnone, n, habove, hdir⟩ := node?_of_freePlace hfree
  have hne : scratch ≠ [] := by
    rw [hplace]
    exact List.append_ne_nil_of_right_ne_nil _ (List.cons_ne_nil _ _)
  have hlocate := locateWith_of_freePlace hfree
  rw [show Way.trimSlashes scratch.octets = scratch.octets from Way.trimSlashes_octets hnamed hne]
    at hlocate
  have hnew : (Node.directory scratchMode d.changeTime []).IsNew := rfl
  have hgrows := grows_put_new hnone hnew
  have hstands := node?_put (Or.inr ⟨hnone, n, habove, hdir⟩) hnew
  refine ⟨found, walk_of_grows hgrows (walk_of_locateWith (w := scratch.way) hnamed hne hlocate).2,
    Option.isSome_of_eq_some hstands, fun below m hm => ?_⟩
  have hbelow : (Node.directory scratchMode d.changeTime []).at? below = some m := by
    rw [Node.at?_append] at hm
    rw [show (d.put found _).root.at? found = some _ from hstands] at hm
    exact hm
  by_cases hnil : below = []
  · subst hnil
    cases hbelow
    rfl
  · rw [hnew.isLeaf below hnil] at hbelow
    cases hbelow

/-- A file that is opened below a new directory is opened where its path says, and is new. -/
theorem Fresh.openToWrite {path base : Place} (h : d.Fresh path base) {names : List Octets}
    (hne : names ≠ []) (hnames : ∀ c ∈ names, IsName c) (hnamed : (Place.way (path ++ names)).Named)
    {directory place : Place} {mask : Mode}
    (hopen : d.openToWrite directory mask true (Place.octets (path ++ names)) = .ok (place, d')) :
    place = base ++ names ∧ d.node? place = none := by
  have hparts : (Place.way (path ++ names)).parts ≠ [] := by simp [Place.way, hne]
  unfold Disk.openToWrite Place.octets at hopen
  rw [Way.trimSlashes_octets hnamed hparts, Way.endsInSlash_octets hnamed hparts] at hopen
  split at hopen
  · cases hopen
  next found hlocate =>
  rw [if_neg Bool.false_ne_true] at hopen
  have hfound := walk_names h.leads h.bare.unlinked hnames
    (walk_of_locateWith hnamed hparts hlocate).2
  subst hfound
  cases hn : d.node? (base ++ names) with
  | none =>
    simp only [hn] at hopen
    obtain ⟨-, -, heq⟩ := exists_of_map_ok hopen
    cases heq
    exact ⟨rfl, hn⟩
  | some n =>
    have hdir := h.bare.directories names n hn
    cases n with
    | directory mode modified entries =>
      simp only [hn] at hopen
      cases hopen
    | _ => cases hdir

end Disk

end Worksheet
