-- Trees that a load keeps. A tree comes into memory file by file and can be written out again as it
-- was, unless a path of it is too long or too deep, or a file of it has a backslash in its path:
-- this is read as a slash, and the file takes the place of another one, or is refused.
import Worksheet.Proofs.ExportPlaces
import Worksheet.Proofs.NameTexts

namespace Worksheet

open Text (Bytes Octets Points)

namespace Node

/-- The names in a tree are of bytes, as all names on a disk. -/
def HasNamesOfBytes (n : Node) : Prop :=
  ∀ p, (n.at? p).isSome = true → ∀ c ∈ p, Text.FileName.IsOfBytes c

/-- A file with this content stands at a place of a tree. -/
def HasFile (n : Node) (below : Place) (data : Bytes) : Prop :=
  ∃ mode time group, n.at? below = some (.file data mode time group)

/-- No file of a tree has a backslash in its path. -/
def HasPlainPaths (n : Node) : Prop := ∀ below data, n.HasFile below data → ∀ c ∈ below, '\\' ∉ c

theorem Orderly.exists_hasFile {n m : Node} {below : Place} (h : n.Orderly)
    (hm : n.at? below = some m) (hdir : m.isDirectory = false) : ∃ data, n.HasFile below data := by
  have hlegible := h.legible below m hm
  cases m with
  | directory => cases hdir
  | file data mode time group => exact ⟨data, mode, time, group, hm⟩
  | _ => exact hlegible.elim

end Node

namespace Artifacts

variable {a : Artifacts} {d d' : Disk} {root : Path} {base below : Place} {n m : Node} {mode : Mode}
  {data : Bytes} {name : String} {k : Points} {f : Points × Bytes}

/-! ## What can be kept -/

/-- The files of a tree have paths below a root that are not too long. -/
def FitsBelow (root : Path) (n : Node) : Prop :=
  ∀ below data, n.HasFile below data → (wayBelow root below).octets.length ≤ Disk.maxPathBytes

section Plain

variable (h : Loadable root n) (hbytes : n.HasNamesOfBytes) (hplain : n.HasPlainPaths)

include h hbytes hplain

theorem isKeyName_of_hasFile (hfile : n.HasFile below data) :
    below ≠ [] ∧ ∀ c ∈ below, IsKeyName c := by
  obtain ⟨mode, time, group, hat⟩ := id hfile
  have hstands := Option.isSome_of_eq_some hat
  refine ⟨?_, fun c hc => isKeyName_of_isLegal (h.orderly.legal below hstands c hc)
    (hbytes below hstands c hc) (hplain below data hfile c hc)⟩
  rintro rfl
  cases hat
  cases h.directory

/-- Without a backslash each file has a key of its own. -/
theorem mirrors_load_of_plain (hleads : d.LeadsTo root base) (hbase : d.node? base = some n)
    (name : String) : ∃ a, load d root name = .ok a ∧ a.Mirrors n := by
  refine h.mirrors_load hleads hbase (fun p m hm hdir => ?_) name
  obtain ⟨data, hfile⟩ := h.orderly.exists_hasFile hm hdir
  exact (isKeyName_of_hasFile h hbytes hplain hfile).2

end Plain

/-- Files are written under the texts of their places, or one of these is no path to something
below. -/
theorem writePlaces_cases (files : List (Place × Bytes)) (a : Artifacts) :
    a.writePlaces files = .ok (a.afterWrites (byText files)) ∨
      ∃ l ∈ files, key? (placeText l.1) = none ∧
        a.writePlaces files = .error (.outside (placeText l.1)) := by
  by_cases hall : ∀ l ∈ files, (key? (placeText l.1)).isSome = true
  · exact Or.inl (writePlaces_eq hall a)
  · refine Or.inr ?_
    induction files generalizing a with
    | nil => exact absurd nofun hall
    | cons l rest ih =>
      unfold writePlaces at ih ⊢
      rw [List.foldlM_cons]
      cases hkey : key? (placeText l.1) with
      | none =>
        rw [write_of_no_key hkey]
        exact ⟨l, List.mem_cons_self .., hkey, rfl⟩
      | some k =>
        rw [write_of_key hkey]
        have hrest : ¬∀ l ∈ rest, (key? (placeText l.1)).isSome = true := fun hrest =>
          hall (List.forall_mem_cons.mpr ⟨Option.isSome_of_eq_some hkey, hrest⟩)
        obtain ⟨l', hl', hnone, hwrites⟩ := ih _ hrest
        exact ⟨l', List.mem_cons_of_mem _ hl', hnone, hwrites⟩

/-- What a load does with any tree that can be loaded: it writes the files in their order, and stops
at one whose path is not accepted. -/
theorem load_cases (h : Loadable root n) (hleads : d.LeadsTo root base)
    (hbase : d.node? base = some n) (name : String) :
    (∃ a, load d root name = .ok a ∧ a.Reflects (byText n.listedFiles)) ∨
      ∃ below data, n.HasFile below data ∧ key? (placeText below) = none ∧
        load d root name = .error (.outside (placeText below)) := by
  rw [h.load_eq hleads hbase]
  refine (writePlaces_cases n.listedFiles (empty name)).imp (fun hwrites => ?_) ?_
  · exact ⟨_, hwrites, reflects_afterWrites name _⟩
  · rintro ⟨⟨below, data⟩, hl, hnone, hwrites⟩
    have hfile := (h.orderly.mem_listedFiles_iff h.directory h.span_lt).mp hl
    exact ⟨below, data, hfile, hnone, hwrites⟩

/-! ## What has been kept -/

section Loaded

variable (horderly : n.Orderly) (hleads : d.LeadsTo root base) (hbase : d.node? base = some n)
  (hload : load d root name = .ok a)

include hleads hbase hload

/-- A load that succeeds has found no reason not to look on. -/
theorem lookFault?_eq_none_of_load (hlisted : below ∈ n.placesBelow (Disk.maxPathBytes + 2)) :
    lookFault? d root below = none := by
  unfold load at hload
  rw [hleads.stat hbase] at hload
  dsimp only at hload
  split at hload
  · cases hload
  · next hnone => exact List.findSome?_eq_none_iff.mp hnone below hlisted

omit hleads hbase hload in
theorem short_of_lookFault? (h : lookFault? d root below = none) :
    (wayBelow root below).octets.length ≤ Disk.maxPathBytes := by
  refine Nat.not_lt.mp fun hlong => ?_
  have hstat : d.statWith false d.current (wayBelow root below).octets = .error .nameTooLong := by
    unfold Disk.statWith
    rw [Disk.locateWith_tooLong hlong]
  unfold lookFault? at h
  dsimp only at h
  rw [hstat] at h
  cases h

include horderly

/-- Its paths are not too long, and its directories do not lie too deep. -/
theorem short_and_shallow_of_load (hm : n.at? below = some m) :
    (wayBelow root below).octets.length ≤ Disk.maxPathBytes ∧
      (m.isDirectory = true → below.length ≤ maxListedLevels) := by
  induction below using List.reverseRecOn generalizing m with
  | nil =>
    unfold wayBelow
    rw [List.append_nil]
    exact ⟨hleads.short, fun _ => Nat.zero_le _⟩
  | append_singleton above c ih =>
    have hstands := Option.isSome_of_eq_some hm
    have hne : above ++ [c] ≠ [] := List.append_ne_nil_of_right_ne_nil above (List.cons_ne_nil c [])
    obtain ⟨k, hk, -⟩ := Node.isDirectory_of_at? hm (List.cons_ne_nil c [])
    -- There is room for the path of the directory above, so the place has been looked at.
    have hroom : Place.span (above ++ [c]).dropLast < Disk.maxPathBytes + 2 := by
      rw [List.dropLast_concat]
      exact span_lt_of_short
        (fun b hb => (horderly.legal above (Option.isSome_of_eq_some hk) b hb).named) (ih hk).1
    have hlook := lookFault?_eq_none_of_load hleads hbase hload
      (horderly.mem_placesBelow hne hstands hroom)
    have hshort := short_of_lookFault? hlook
    refine ⟨hshort, fun hdir => Nat.not_lt.mp fun hdeep => ?_⟩
    unfold lookFault? at hlook
    dsimp only at hlook
    rw [statWith_of_short horderly hleads hbase hne hm hshort false] at hlook
    cases m with
    | directory =>
      dsimp only at hlook
      rw [hdir, decide_eq_true hdeep] at hlook
      cases hlook
    | _ => cases hdir

end Loaded

/-- What has been loaded could be loaded. -/
theorem loadable_of_load (horderly : n.Orderly) (hleads : d.LeadsTo root base)
    (hbase : d.node? base = some n) (hload : load d root name = .ok a) : Loadable root n := by
  obtain ⟨n', hn', hdir⟩ := hleads.stands
  obtain rfl := Option.some.inj (hbase.symm.trans hn')
  refine ⟨hdir, horderly, fun below hstands => ?_, fun below m hm hm' => ?_⟩
  · obtain ⟨m, hm⟩ := Option.isSome_iff_exists.mp hstands
    exact (short_and_shallow_of_load horderly hleads hbase hload hm).1
  · exact (short_and_shallow_of_load horderly hleads hbase hload hm).2 hm'

/-- No name in a key has a backslash in it. -/
theorem backslash_not_mem_names {c : Octets} (hc : c ∈ names k) : '\\' ∉ c := by
  obtain ⟨part, hpart, rfl⟩ := List.mem_map.mp hc
  exact fun hmem => (isKeyPart_of_mem_partsOf hpart).2.2
    (Text.FileName.mem_of_mem_ofPoints hmem (by decide))

/-- No file of a tree that artifacts mirror has a backslash in its path. -/
theorem Mirrors.hasPlainPaths (h : a.Mirrors n) (hwritten : a.Written)
    (hbytes : n.HasNamesOfBytes) : n.HasPlainPaths := by
  intro below data hfile
  obtain ⟨mode, time, group, hat⟩ := hfile
  have hmem : (placeText below, data) ∈ a.files :=
    (h.files _).mpr ⟨below, mode, time, group, hat, rfl⟩
  have hcanonical := canonical_of_key? (hwritten.key?_eq hmem)
  intro c hc hback
  refine hcanonical.noBackslash ?_
  have hpoints : backslash ∈ Text.FileName.points c :=
    (Text.FileName.mem_points_iff (hbytes below (Option.isSome_of_eq_some hat) c hc)
      (by decide)).mpr hback
  exact (Text.mem_intercalate_of_ne slash_ne_backslash.symm _).mpr
    ⟨_, List.mem_map_of_mem hc, hpoints⟩

/-! ## Exports of what has been kept -/

section Kept

variable (h : a.Mirrors n) (hloadable : Loadable root n) (hbytes : n.HasNamesOfBytes)
  (hplain : n.HasPlainPaths)

include h hloadable hbytes hplain

/-- The files of the tree are those of the artifacts, at the places that their keys name. -/
theorem hasFile_iff_of_mirrors :
    n.HasFile below data ↔ ∃ f ∈ a.files, names f.1 = below ∧ f.2 = data := by
  have hnames : ∀ {below data}, n.HasFile below data → names (placeText below) = below :=
    fun hfile =>
      have hkeys := isKeyName_of_hasFile hloadable hbytes hplain hfile
      names_placeText hkeys.2 hkeys.1
  constructor
  · intro hfile
    obtain ⟨mode, time, group, hat⟩ := id hfile
    exact ⟨(placeText below, data), (h.files _).mpr ⟨below, mode, time, group, hat, rfl⟩,
      hnames hfile, rfl⟩
  · rintro ⟨f, hf, rfl, rfl⟩
    obtain ⟨below, mode, time, group, hat, htext⟩ := (h.files f).mp hf
    have hfile : n.HasFile below f.2 := ⟨mode, time, group, hat⟩
    rwa [htext, hnames hfile]

theorem exportable_of_mirrors {root' : Path} (hfits : FitsBelow root' n) :
    a.Exportable root' := by
  have hplace : ∀ f ∈ a.files, ∃ below, n.HasFile below f.2 ∧ f.1 = placeText below ∧
      below ≠ [] ∧ partsOf f.1 = below.map Text.FileName.points ∧ names f.1 = below := by
    intro f hf
    obtain ⟨below, mode, time, group, hat, htext⟩ := (h.files f).mp hf
    have hfile : n.HasFile below f.2 := ⟨mode, time, group, hat⟩
    obtain ⟨hne, hkeys⟩ := isKeyName_of_hasFile hloadable hbytes hplain hfile
    exact ⟨below, hfile, htext, hne, htext ▸ partsOf_placeText hkeys hne,
      htext ▸ names_placeText hkeys hne⟩
  refine ⟨fun f hf hpoint => ?_, fun f hf g hg hup => ?_, fun f hf part hpart => ?_,
    fun f hf => ?_, fun f hf => ?_⟩
  all_goals obtain ⟨below, hfile, htext, hne, hparts, hnames⟩ := hplace f hf
  · rw [hpoint] at hparts
    exact hne (List.map_eq_nil_iff.mp hparts.symm)
  · obtain ⟨below', ⟨mode, time, group, hat⟩, htext', -, -, hnames'⟩ := hplace g hg
    have hprefix : names f.1 <+: names g.1 := hup.map _
    rw [hnames, hnames'] at hprefix
    obtain ⟨rest, rfl⟩ := hprefix
    obtain ⟨mode', time', group', hat'⟩ := hfile
    by_cases hnil : rest = []
    · rw [htext, htext', hnil, List.append_nil]
    · obtain ⟨k, hk, hkdir⟩ := Node.isDirectory_of_at? hat hnil
      cases hat'.symm.trans hk
      cases hkdir
  · rw [hparts] at hpart
    obtain ⟨c, hc, rfl⟩ := List.mem_map.mp hpart
    obtain ⟨mode, time, group, hat⟩ := hfile
    have hstands := Option.isSome_of_eq_some hat
    have hlegal := hloadable.orderly.legal below hstands c hc
    have hbytes' := hbytes below hstands c hc
    have hback := Text.FileName.ofPoints_points hbytes'
    refine ⟨fun hnul => ?_, hback.symm ▸ hlegal.entry.2.2, by rw [hback]⟩
    exact hlegal.noNul ((Text.FileName.mem_points_iff hbytes' (by decide)).mp hnul)
  · have htarget : target root' f.1 = wayBelow root' (names f.1) := rfl
    rw [htarget, hnames]
    exact hfits below _ hfile
  · obtain ⟨mode, time, group, hat⟩ := hfile
    obtain ⟨above, c, rfl⟩ := List.eq_nil_or_concat below |>.resolve_left hne
    rw [List.concat_eq_append] at hat hparts
    obtain ⟨k, hk, hkdir⟩ := Node.isDirectory_of_at? hat (List.cons_ne_nil c [])
    rw [hparts, List.length_map, List.length_append]
    exact Nat.succ_le_succ (hloadable.shallow above k hk hkdir)

end Kept

/-- Below a place are the files of a tree, each with its content, and nothing else but the
directories on the way to them. -/
structure Recreates (d : Disk) (base : Place) (n : Node) : Prop where
  files : ∀ below data, (∃ mode time group,
    d.node? (base ++ below) = some (.file data mode time group)) ↔ n.HasFile below data
  rest : ∀ below m, d.node? (base ++ below) = some m → (∃ data, n.HasFile below data) ∨
    m.isDirectory = true ∧ (below = [] ∨ ∃ further data, n.HasFile further data ∧ below <+: further)

theorem HeldBelow.recreates (h : a.HeldBelow d base)
    (hfiles : ∀ below data, n.HasFile below data ↔ ∃ f ∈ a.files, names f.1 = below ∧ f.2 = data) :
    Recreates d base n := by
  have hfile : ∀ f ∈ a.files, n.HasFile (names f.1) f.2 := fun f hf =>
    (hfiles _ _).mpr ⟨f, hf, rfl, rfl⟩
  refine ⟨fun below data => (h.files below data).trans (hfiles below data).symm,
    fun below m hm => ?_⟩
  rcases h.rest below m hm with ⟨f, hf, rfl⟩ | ⟨hdir, hway⟩
  · exact Or.inl ⟨f.2, hfile f hf⟩
  · refine Or.inr ⟨hdir, hway.imp_right ?_⟩
    rintro ⟨f, hf, hup⟩
    exact ⟨names f.1, f.2, hfile f hf, hup⟩

/-! ## Exports into an empty directory -/

section Exported

variable {r : Except ArtifactFault Unit} (h : Vacant d root base mode) (hwritten : a.Written)

include h hwritten

/-- Each file that is exported into an empty directory is that of a key. -/
theorem exists_key_of_exportTo (hexport : a.exportTo root d = (r, d'))
    (hm : d'.node? (base ++ below) = some m) (hfile : m.isDirectory = false) :
    ∃ f ∈ a.files, names f.1 = below := by
  obtain ⟨modified, hroot⟩ := h.stands
  have hfree : d.LinkFree base := fun below target time hne hlink => by
    cases (h.node?_below hne).symm.trans hlink
  have hedit := hwritten.edit_exportTo h.leadsTo hfree hexport
  rcases hedit.files _ m hm hfile with hold | ⟨f, hf, hne, heq | ⟨m', -, hm', -⟩⟩
  · by_cases hnil : below = []
    · rw [hnil, List.append_nil, hroot] at hold
      cases hold
      cases hfile
    · cases (h.node?_below hnil).symm.trans hold
  · exact ⟨f, hf, (List.append_cancel_left heq).symm⟩
  · cases (h.node?_below hne).symm.trans hm'

/-- The paths of files that have been exported are not too long. -/
theorem short_of_exportTo (hexport : a.exportTo root d = (.ok (), d')) (hf : f ∈ a.files) :
    (target root f.1).octets.length ≤ Disk.maxPathBytes := by
  have hnamed : ∀ f ∈ a.files, (target root f.1).Named := fun f hf =>
    hwritten.named_target h.normal hf
  obtain ⟨before, after, hfile, -⟩ := Disk.exportFile_of_exportFiles hnamed hexport hf
  unfold exportFile at hfile
  split at hfile
  · cases hfile
  split at hfile
  · cases hfile
  · cases hfile
  unfold exportInto at hfile
  split at hfile
  · cases hfile
  split at hfile
  · cases hfile
  next hopen =>
  have hlocate := Disk.locateWith_of_openToWrite hopen
  rw [Disk.locateWith_trimSlashes (hnamed f hf)] at hlocate
  exact Disk.short_of_locateWith hlocate

end Exported

/-- A tree that may be read comes into memory file by file exactly if no path of it is too long, no
directory of it lies too deep, and no file of it has a backslash in its path. It can then be
exported into an empty directory, and is there again as it was, exactly if its paths are not too
long there either. A backslash is read as a slash: the files are kept by the normal forms of their
texts, the last of those with the same one, or a text is no path to something below and nothing is
kept. -/
theorem a_tree_is_kept_unless_a_path_is_too_long_or_has_a_backslash {d₀ d : Disk}
    {root₀ root : Path} {base₀ base : Place} (hleads : d₀.LeadsTo root₀ base₀)
    (hbase : d₀.node? base₀ = some n) (horderly : n.Orderly) (hbytes : n.HasNamesOfBytes)
    (hvacant : Vacant d root base mode) (name : String) :
    ((∃ a, load d₀ root₀ name = .ok a ∧ a.Mirrors n) ↔ Loadable root₀ n ∧ n.HasPlainPaths) ∧
    ((∃ a d', load d₀ root₀ name = .ok a ∧ a.exportTo root d = (.ok (), d') ∧
        Recreates d' base n) ↔
      Loadable root₀ n ∧ n.HasPlainPaths ∧ FitsBelow root n) ∧
    (Loadable root₀ n →
      (∃ a, load d₀ root₀ name = .ok a ∧ a.Reflects (byText n.listedFiles)) ∨
      ∃ below data, n.HasFile below data ∧ key? (placeText below) = none ∧
        load d₀ root₀ name = .error (.outside (placeText below))) := by
  have hloadable : ∀ {a}, load d₀ root₀ name = .ok a → Loadable root₀ n := fun hload =>
    loadable_of_load horderly hleads hbase hload
  refine ⟨⟨?_, ?_⟩, ⟨?_, ?_⟩, fun h => load_cases h hleads hbase name⟩
  · rintro ⟨a, hload, hmirrors⟩
    exact ⟨hloadable hload, hmirrors.hasPlainPaths (written_of_load hload) hbytes⟩
  · rintro ⟨h, hplain⟩
    exact mirrors_load_of_plain h hbytes hplain hleads hbase name
  · rintro ⟨a, d', hload, hexport, hrecreates⟩
    have hwritten := written_of_load hload
    have hkey : ∀ below data, n.HasFile below data → ∃ f ∈ a.files, names f.1 = below := by
      intro below data hfile
      obtain ⟨fmode, time, group, hn⟩ := (hrecreates.files below data).mpr hfile
      exact exists_key_of_exportTo hvacant hwritten hexport hn rfl
    refine ⟨hloadable hload, fun below data hfile c hc => ?_, fun below data hfile => ?_⟩
    · obtain ⟨f, -, rfl⟩ := hkey below data hfile
      exact backslash_not_mem_names hc
    · obtain ⟨f, hf, rfl⟩ := hkey below data hfile
      exact short_of_exportTo hvacant hwritten hexport hf
  · rintro ⟨h, hplain, hfits⟩
    obtain ⟨a, hload, hmirrors⟩ := mirrors_load_of_plain h hbytes hplain hleads hbase name
    have hwritten := written_of_load hload
    have hexportable := exportable_of_mirrors hmirrors h hbytes hplain hfits
    obtain ⟨d', hexport, hadds⟩ := hvacant.exports hwritten hexportable
    exact ⟨a, d', hload, hexport, (hvacant.held hwritten hexportable hadds).recreates fun _ _ =>
      hasFile_iff_of_mirrors hmirrors h hbytes hplain⟩

/-! ## Samples -/

/-- A disk with a tree and an empty directory. -/
def treeDisk (tree : Node) : Disk :=
  { vacantDisk with root := .directory 493 0 [(['o'], .directory 493 0 []), (['s'], tree)] }

/-- A file in a directory. -/
def nestedTree : Node := .directory 493 0 [(['b'], .directory 493 0 [(['c'], .file [1] 420 0 0)])]

/-- All that it has, with its places. -/
def nestedNodes : List (Place × Node) :=
  [([], nestedTree), ([['b']], .directory 493 0 [(['c'], .file [1] 420 0 0)]),
    ([['b'], ['c']], .file [1] 420 0 0)]

theorem mem_nestedNodes {p : Place} (h : nestedTree.at? p = some m) : (p, m) ∈ nestedNodes := by
  unfold nestedNodes
  obtain ⟨rfl, rfl⟩ | ⟨rest, rfl, hrest⟩ := Node.cases_of_at?_single h
  · exact List.mem_cons_self ..
  obtain ⟨rfl, rfl⟩ | ⟨rest, rfl, hrest⟩ := Node.cases_of_at?_single hrest
  · simp
  obtain ⟨rfl, rfl⟩ := Node.eq_of_at?_file hrest
  simp

theorem mem_places_nestedNodes {p : Place} (h : (nestedTree.at? p).isSome = true) :
    p ∈ nestedNodes.map (·.1) := by
  obtain ⟨m, hm⟩ := Option.isSome_iff_exists.mp h
  exact List.mem_map_of_mem (mem_nestedNodes hm)

theorem names_nestedNodes : ∀ p ∈ nestedNodes.map (·.1), ∀ c ∈ p, c = ['b'] ∨ c = ['c'] := by
  decide

theorem loadable_nestedTree : Loadable (.ofString "s") nestedTree := by
  have hnodes : ∀ e ∈ nestedNodes, e.2.names.Nodup ∧ e.2.IsLegible := by
    unfold nestedNodes
    simp only [List.forall_mem_cons]
    exact ⟨⟨by decide, by decide, by decide⟩, ⟨by decide, by decide, by decide⟩,
      ⟨by decide, (by decide : Mode.allows 420 .read = true)⟩, nofun⟩
  refine ⟨rfl, ⟨fun p m hm => (hnodes _ (mem_nestedNodes hm)).1,
    fun p m hm => (hnodes _ (mem_nestedNodes hm)).2, fun p hp c hc => ?_⟩, fun p hp => ?_,
    fun p m hm _ => ?_⟩
  · rcases names_nestedNodes p (mem_places_nestedNodes hp) c hc with rfl | rfl <;>
      exact ⟨⟨by decide, by decide, by decide⟩, ⟨by decide, by decide⟩, by decide⟩
  · exact (by decide +kernel : ∀ p ∈ nestedNodes.map (·.1),
      (wayBelow (.ofString "s") p).octets.length ≤ Disk.maxPathBytes) p (mem_places_nestedNodes hp)
  · exact (by decide : ∀ p ∈ nestedNodes.map (·.1), p.length ≤ maxListedLevels)
      p (mem_places_nestedNodes (Option.isSome_of_eq_some hm))

theorem vacant_nestedTree : Vacant (treeDisk nestedTree) (.ofString "o") [['o']] 493 :=
  ⟨Path.isNormal_ofString "o", by decide, ⟨0, rfl⟩, fun right => by cases right <;> rfl⟩

/-- A file in a directory is there again. -/
theorem a_file_in_a_directory_is_kept :
    ∃ a d', load (treeDisk nestedTree) (.ofString "s") "d" = .ok a ∧
      a.exportTo (.ofString "o") (treeDisk nestedTree) = (.ok (), d') ∧
      Recreates d' [['o']] nestedTree := by
  have hleads : (treeDisk nestedTree).LeadsTo (.ofString "s") [['s']] :=
    ⟨Path.isNormal_ofString "s", by decide, _, rfl, rfl⟩
  have hbytes : nestedTree.HasNamesOfBytes := fun p hp c hc => by
    rcases names_nestedNodes p (mem_places_nestedNodes hp) c hc with rfl | rfl
    · exact ⟨[0x62], rfl⟩
    · exact ⟨[0x63], rfl⟩
  have hplace : ∀ {below data}, nestedTree.HasFile below data → below ∈ nestedNodes.map (·.1) := by
    rintro below data ⟨mode, time, group, hat⟩
    exact mem_places_nestedNodes (Option.isSome_of_eq_some hat)
  obtain ⟨-, hkept, -⟩ := a_tree_is_kept_unless_a_path_is_too_long_or_has_a_backslash hleads rfl
    loadable_nestedTree.orderly hbytes vacant_nestedTree "d"
  refine hkept.mpr ⟨loadable_nestedTree, fun below data hfile c hc => ?_,
    fun below data hfile => ?_⟩
  · rcases names_nestedNodes below (hplace hfile) c hc with rfl | rfl <;> decide
  · exact (by decide +kernel : ∀ p ∈ nestedNodes.map (·.1),
      (wayBelow (.ofString "o") p).octets.length ≤ Disk.maxPathBytes) below (hplace hfile)

/-- A file with a backslash in its name, beside the file of a directory that it is mistaken for. -/
def mistakenTree : Node := .directory 493 0
  [(['a'], .directory 493 0 [(['b'], .file [2] 420 0 0)]), ("a\\b".toList, .file [1] 420 0 0)]

theorem load_mistakenTree : load (treeDisk mistakenTree) (.ofString "s") "d" =
    .ok ⟨"d", [(.ofString "a/b", [1])]⟩ := by
  have hstat : (treeDisk mistakenTree).stat (Path.ofString "s").way.octets =
      .ok ([['s']], mistakenTree) := rfl
  have hsorted : (mistakenTree.placesBelow (Disk.maxPathBytes + 2)).mergeSort placeLE =
      mistakenTree.placesBelow (Disk.maxPathBytes + 2) :=
    List.mergeSort_of_pairwise (by decide +kernel)
  unfold load
  rw [hstat]
  dsimp only
  rw [hsorted]
  decide +kernel

/-- A file with a backslash before everything else in its name. -/
def refusedTree : Node := .directory 493 0 [("\\x".toList, .file [1] 420 0 0)]

/-- A file with a backslash in its name takes the place of another one, or nothing is loaded. -/
theorem a_backslash_loses_a_file :
    (∃ a d', load (treeDisk mistakenTree) (.ofString "s") "d" = .ok a ∧
      a.files = [(.ofString "a/b", [1])] ∧
      a.exportTo (.ofString "o") (treeDisk mistakenTree) = (.ok (), d') ∧
      ¬Recreates d' [['o']] mistakenTree) ∧
    load (treeDisk refusedTree) (.ofString "s") "d" = .error (.outside (.ofString "\\x")) := by
  refine ⟨⟨_, _, load_mistakenTree, rfl, Prod.ext ?_ rfl, fun hrecreates => ?_⟩, by decide +kernel⟩
  · decide +kernel
  · have hgone : ((exportTo ⟨"d", [(.ofString "a/b", [1])]⟩ (.ofString "o")
        (treeDisk mistakenTree)).2.node? [['o'], "a\\b".toList]).isSome = false := by decide +kernel
    obtain ⟨mode, time, group, hn⟩ :=
      (hrecreates.files ["a\\b".toList] [1]).mpr ⟨420, 0, 0, rfl⟩
    exact Bool.noConfusion (hgone.symm.trans (Option.isSome_of_eq_some hn))

end Artifacts

end Worksheet
