-- Artifacts that are exported into an empty directory and loaded from there. If their paths can be
-- paths of files, each of them is a file below the directory, and what is loaded is what has been
-- exported.
import Worksheet.Proofs.ExportedTrees
import Worksheet.Proofs.LoadedTrees

namespace Worksheet

open Text (Bytes CodePoint Octets Points)

namespace Artifacts

variable {a : Artifacts} {root : Path} {d d' : Disk} {base below : Place} {k part : Points}
  {mode : Mode} {f g : Points × Bytes}

/-! ## What can be exported -/

/-- A text that can be the name of a file, and that is read from this name. -/
structure CanName (part : Points) : Prop where
  noNul : .ofChar (Char.ofNat 0) ∉ part
  short : (Text.FileName.ofPoints part).length ≤ Disk.maxNameBytes
  readBack : Text.FileName.points (Text.FileName.ofPoints part) = part

theorem canName_ofString {s : String} (hnul : Char.ofNat 0 ∉ s.toList)
    (hshort : (Octets.ofString s).length ≤ Disk.maxNameBytes) : CanName (.ofString s) := by
  have hname := Text.FileName.ofPoints_ofString s
  exact ⟨Points.not_mem_ofString hnul, hname.symm ▸ hshort,
    hname.symm ▸ Text.FileName.points_ofString s⟩

/-- Artifacts that can all be files below a root, and loaded from there. No path of them is that of
a directory, and the root itself has none. -/
structure Exportable (root : Path) (a : Artifacts) : Prop where
  named : ∀ f ∈ a.files, f.1 ≠ .ofString "."
  apart : ∀ f ∈ a.files, ∀ g ∈ a.files, partsOf f.1 <+: partsOf g.1 → f.1 = g.1
  names : ∀ f ∈ a.files, ∀ part ∈ partsOf f.1, CanName part
  short : ∀ f ∈ a.files, (target root f.1).octets.length ≤ Disk.maxPathBytes
  shallow : ∀ f ∈ a.files, (partsOf f.1).length ≤ maxListedLevels + 1

/-- A key is joined of its components. -/
theorem Canonical.joinParts_partsOf (h : Canonical k) : joinParts (partsOf k) = k := by
  have hkey := key?_of_canonical h
  rw [key?_of_inside (key?_eq_some_iff.mp hkey).1] at hkey
  exact Option.some.inj hkey

namespace Written

theorem nodup (h : a.Written) : (a.files.map (·.1)).Nodup := by
  obtain ⟨writes, hreflects⟩ := h.reflects
  exact hreflects.single

theorem key?_eq (h : a.Written) (hf : f ∈ a.files) : key? f.1 = some f.1 := by
  obtain ⟨writes, hreflects⟩ := h.reflects
  exact hreflects.key?_of_mem (List.mem_map_of_mem hf)

theorem joinParts_partsOf (h : a.Written) (hf : f ∈ a.files) : joinParts (partsOf f.1) = f.1 :=
  (canonical_of_key? (h.key?_eq hf)).joinParts_partsOf

theorem eq_of_key (h : a.Written) (hf : f ∈ a.files) (hg : g ∈ a.files) (hkey : f.1 = g.1) :
    f = g := by
  have hfound := (lookup_eq_some_iff_mem h.nodup).mpr hf
  rw [hkey, (lookup_eq_some_iff_mem h.nodup).mpr hg] at hfound
  exact Prod.ext hkey (Option.some.inj hfound).symm

end Written

namespace Exportable

theorem partsOf_ne_nil (h : a.Exportable root) (hwritten : a.Written) (hf : f ∈ a.files) :
    partsOf f.1 ≠ [] := by
  intro hnil
  have hjoin := hwritten.joinParts_partsOf hf
  rw [hnil] at hjoin
  exact h.named f hf hjoin.symm

theorem names_ne_nil (h : a.Exportable root) (hwritten : a.Written) (hf : f ∈ a.files) :
    Artifacts.names f.1 ≠ [] := mt List.map_eq_nil_iff.mp (h.partsOf_ne_nil hwritten hf)

/-- The names of a key are read as its components. -/
theorem map_points_names (h : a.Exportable root) (hf : f ∈ a.files) :
    (Artifacts.names f.1).map Text.FileName.points = partsOf f.1 := by
  unfold Artifacts.names
  rw [List.map_map]
  exact (List.map_congr_left fun part hpart => (h.names f hf part hpart).readBack).trans
    (List.map_id _)

theorem placeText_names (h : a.Exportable root) (hwritten : a.Written) (hf : f ∈ a.files) :
    placeText (Artifacts.names f.1) = f.1 := by
  have hjoin := hwritten.joinParts_partsOf hf
  unfold joinParts at hjoin
  rw [if_neg (h.partsOf_ne_nil hwritten hf)] at hjoin
  unfold placeText
  rw [h.map_points_names hf, hjoin]

/-- No names are in the way of those of another key. -/
theorem eq_of_names_prefix (h : a.Exportable root) (hwritten : a.Written) (hf : f ∈ a.files)
    (hg : g ∈ a.files) (hnames : Artifacts.names f.1 <+: Artifacts.names g.1) : f = g := by
  have hparts := hnames.map Text.FileName.points
  rw [h.map_points_names hf, h.map_points_names hg] at hparts
  exact hwritten.eq_of_key hf hg (h.apart f hf g hg hparts)

theorem isLegal (h : a.Exportable root) (hwritten : a.Written) (hf : f ∈ a.files) :
    ∀ c ∈ Artifacts.names f.1, Disk.IsLegal c := by
  intro c hc
  have hnames := hwritten.areNames hf
  obtain ⟨part, hpart, rfl⟩ := List.mem_map.mp hc
  have hcan := h.names f hf part hpart
  refine ⟨⟨(hnames.names _ hc).1, (hnames.names _ hc).2, hcan.short⟩, hnames.named _ hc,
    fun hmem => hcan.noNul (Text.FileName.mem_of_mem_ofPoints hmem (by decide))⟩

theorem isKeyName (h : a.Exportable root) (hwritten : a.Written) (hf : f ∈ a.files) :
    ∀ c ∈ Artifacts.names f.1, IsKeyName c := by
  intro c hc
  obtain ⟨part, hpart, rfl⟩ := List.mem_map.mp hc
  have hback := (h.names f hf part hpart).readBack
  refine ⟨hback.symm ▸ isKeyPart_of_mem_partsOf hpart, fun hparent => ?_, by rw [hback]⟩
  exact hwritten.not_mem_partsOf hf (hparent ▸ hback.symm ▸ hpart)

/-- What is to be written, by the names of files. -/
theorem writable (h : a.Exportable root) (hwritten : a.Written) :
    Disk.Writable root (a.files.map fun f => (Artifacts.names f.1, f.2)) := by
  have hlength : ∀ k, (Artifacts.names k).length = (partsOf k).length := fun k => List.length_map _
  refine ⟨fun file hfile => ?_, fun file hfile => ?_, fun file hfile => ?_, fun file hfile => ?_, ?_⟩
  any_goals obtain ⟨f, hf, rfl⟩ := List.mem_map.mp hfile
  · exact h.names_ne_nil hwritten hf
  · exact h.isLegal hwritten hf
  · exact h.short f hf
  · refine Nat.le_trans ?_ (by decide : maxListedLevels + 1 ≤ Disk.maxNewDirectories + 1)
    exact hlength f.1 ▸ h.shallow f hf
  · refine List.pairwise_map.mpr ((List.pairwise_map.mp hwritten.nodup).imp_of_mem ?_)
    intro f g hf hg hne
    exact ⟨fun hup => hne (congrArg Prod.fst (h.eq_of_names_prefix hwritten hf hg hup)),
      fun hdown => hne (congrArg Prod.fst (h.eq_of_names_prefix hwritten hg hf hdown)).symm⟩

end Exportable

/-! ## What is below the root -/

/-- The path of a root leads to an empty directory, in which everything may be done. -/
structure Vacant (d : Disk) (root : Path) (base : Place) (mode : Mode) : Prop where
  normal : root.IsNormal
  noNul : root.way.hasNul = false
  empty : ∃ modified, d.stat root.way.octets = .ok (base, .directory mode modified [])
  free : ∀ right, mode.allows right = true

/-- What stands below a root after artifacts have been exported into it: the root, the directories
on the way to files, and the files. -/
inductive Stands (d : Disk) (mode : Mode) (a : Artifacts) : Place → Node → Prop
  | root {n : Node} : n.face = .directory mode 0 [] → Stands d mode a [] n
  | way {n : Node} {f : Points × Bytes} {below : Place} : f ∈ a.files →
    below <+: (names f.1).dropLast → n.face = Disk.newDirectory → Stands d mode a below n
  | file {f : Points × Bytes} : f ∈ a.files → Stands d mode a (names f.1) (d.newFile f.2)

theorem Stands.prefix_names {n : Node} (h : Stands d mode a below n) :
    below = [] ∨ ∃ f ∈ a.files, below <+: names f.1 := by
  cases h with
  | root => exact Or.inl rfl
  | @way _ f _ hf hup => exact Or.inr ⟨f, hf, hup.trans (List.dropLast_prefix _)⟩
  | @file f hf => exact Or.inr ⟨f, hf, List.prefix_refl _⟩

/-- Artifacts are held below a place: by one file for each key, with its content, and by nothing
else but the directories on the way to them. -/
structure HeldBelow (a : Artifacts) (d : Disk) (base : Place) : Prop where
  files : ∀ below data, (∃ mode time group,
    d.node? (base ++ below) = some (.file data mode time group)) ↔
      ∃ f ∈ a.files, names f.1 = below ∧ f.2 = data
  own : ∀ f ∈ a.files, ∀ g ∈ a.files, names f.1 = names g.1 → f = g
  rest : ∀ below n, d.node? (base ++ below) = some n → (∃ f ∈ a.files, names f.1 = below) ∨
    n.isDirectory = true ∧ (below = [] ∨ ∃ f ∈ a.files, below <+: names f.1)

/-- What the files of artifacts bring to the places below a root. -/
def brings (d : Disk) (base : Place) (a : Artifacts) : Place → Option Node :=
  d.filesBring base (a.files.map fun f => (names f.1, f.2))

namespace Vacant

variable {n : Node}

theorem stands (h : Vacant d root base mode) :
    ∃ modified, d.node? base = some (.directory mode modified []) := by
  obtain ⟨modified, hstat⟩ := h.empty
  exact ⟨modified, (Disk.node?_of_statWith hstat).2⟩

theorem leadsTo (h : Vacant d root base mode) : d.LeadsTo root base := by
  obtain ⟨modified, hstat⟩ := h.empty
  obtain ⟨hlocate, hnode⟩ := Disk.node?_of_statWith hstat
  exact ⟨h.normal, hlocate, _, hnode, rfl⟩

theorem node?_below (h : Vacant d root base mode) (hne : below ≠ []) :
    d.node? (base ++ below) = none := by
  obtain ⟨modified, hnode⟩ := h.stands
  obtain ⟨c, rest, rfl⟩ := List.exists_cons_of_ne_nil hne
  rw [Disk.node?_append hnode]
  rfl

theorem clear (h : Vacant d root base mode) (names : List Octets) : d.Clear base names := by
  intro above n _ hn
  by_cases hnil : above = []
  · obtain ⟨modified, hnode⟩ := h.stands
    rw [hnil, List.append_nil, hnode] at hn
    cases hn
    exact ⟨rfl, h.free⟩
  · rw [h.node?_below hnil] at hn
    cases hn

/-- Everything can be exported into an empty directory that can be exported at all. -/
theorem exports (h : Vacant d root base mode) (hwritten : a.Written)
    (hexportable : a.Exportable root) :
    ∃ d', a.exportTo root d = (.ok (), d') ∧ Disk.Adds (brings d base a) d d' :=
  h.leadsTo.adds_exportFiles h.noNul (hexportable.writable hwritten) fun _ hf =>
    ⟨h.clear _, h.node?_below (hexportable.names_ne_nil hwritten hf)⟩

/-- More directories than can be made one below the other are not made. -/
theorem makeDirectories_tooDeep (h : Vacant d root base mode) {names : List Octets}
    (hnames : ∀ c ∈ names, Disk.IsLegal c)
    (hshort : (wayBelow root names).octets.length ≤ Disk.maxPathBytes) {room : Nat}
    (hroom : room < names.length) :
    d.makeDirectories root.anchor room (root.way.parts ++ names).reverse = (.error .tooDeep, d) := by
  induction room generalizing names with
  | zero => rfl
  | succ room ih =>
    rcases List.eq_nil_or_concat names with rfl | ⟨init, c, rfl⟩
    · cases hroom
    rw [List.concat_eq_append] at *
    rw [List.length_append, List.length_singleton] at hroom
    have hinit : init ≠ [] := List.length_pos_iff.mp (by omega)
    have hmade := ih (fun x hx => hnames x (List.mem_append_left [c] hx))
      (Nat.le_trans (Disk.length_wayBelow_le (List.prefix_append init [c]) hnames) hshort) (by omega)
    rw [Disk.makeDirectories_below, h.leadsTo.makeDirectory_broken hnames hshort (h.clear init)
      (h.node?_below hinit), hmade]

section Refused

variable {init : List Octets} {c : Octets} {data : Bytes}

/-- When the directories above its only file cannot be made, nothing is exported. -/
theorem exportTo_of_makeWay (h : Vacant d root base mode) (hfiles : a.files = [(k, data)])
    (hk : names k = init ++ [c]) (hnames : ∀ x ∈ init, Disk.IsLegal x) {fault : Disk.WayFault}
    (hmade : d.makeWay (wayBelow root init) = (.error fault, d)) :
    ∃ e, a.exportTo root d = (.error e, d) := by
  unfold exportTo
  rw [hfiles, Disk.exportFiles_cons, hk]
  unfold exportFile
  rw [Disk.parent_wayBelow, Disk.hasNul_wayBelow h.noNul hnames, if_neg Bool.false_ne_true, hmade]
  cases fault <;> exact ⟨_, rfl⟩

/-- A path with too many components is refused. -/
theorem exportTo_tooDeep (h : Vacant d root base mode) (hfiles : a.files = [(k, data)])
    (hk : names k = init ++ [c]) (hnames : ∀ x ∈ init, Disk.IsLegal x)
    (hshort : (wayBelow root init).octets.length ≤ Disk.maxPathBytes)
    (hdeep : Disk.maxNewDirectories < init.length) : ∃ e, a.exportTo root d = (.error e, d) :=
  h.exportTo_of_makeWay hfiles hk hnames (h.makeDirectories_tooDeep hnames hshort hdeep)

/-- A path that is too long is refused, however short its components are. -/
theorem exportTo_tooLong (h : Vacant d root base mode) (hfiles : a.files = [(k, data)])
    (hk : names k = init ++ [c]) (hnames : ∀ x ∈ init, Disk.IsLegal x)
    (hlong : Disk.maxPathBytes < (wayBelow root init).octets.length) :
    ∃ e, a.exportTo root d = (.error e, d) :=
  h.exportTo_of_makeWay hfiles hk hnames
    (Disk.makeDirectories_tooLong (Disk.named_wayBelow h.normal hnames) hlong
      (by decide : Disk.maxNewDirectories ≠ 0))

end Refused

section Exported

variable (h : Vacant d root base mode) (hwritten : a.Written) (hexportable : a.Exportable root)
  (hadds : Disk.Adds (brings d base a) d d')

include h hadds

theorem face?_below (hne : below ≠ []) :
    d'.face? (base ++ below) = brings d base a (base ++ below) := by
  rw [hadds.faces, Disk.face?_eq_none_iff.mpr (h.node?_below hne), Option.none_or]

theorem face?_root : d'.face? base = some (.directory mode 0 []) := by
  obtain ⟨modified, hnode⟩ := h.stands
  exact hadds.face?_of_some (Disk.face?_of_node? hnode)

theorem stands_of_node? (hn : d'.node? (base ++ below) = some n) : Stands d mode a below n := by
  by_cases hnil : below = []
  · have hface := h.face?_root hadds
    rw [hnil, List.append_nil] at hn
    rw [Disk.face?_of_node? hn] at hface
    exact hnil ▸ .root (Option.some.inj hface)
  · have hface := h.face?_below hadds hnil
    rw [Disk.face?_of_node? hn] at hface
    obtain ⟨file, hfile, hcase⟩ := Disk.filesBring_eq_some hface.symm
    obtain ⟨f, hf, rfl⟩ := List.mem_map.mp hfile
    rcases hcase with ⟨hplace, hnew⟩ | ⟨hnew, above, habove, hplace⟩
    · obtain rfl : n = d.newFile f.2 := Node.eq_of_face hnew rfl
      exact List.append_cancel_left hplace ▸ .file hf
    · exact .way hf (List.append_cancel_left hplace ▸ habove) hnew

theorem prefix_names_of_isSome (hn : d'.node? base = some n) {p : Place}
    (hp : (n.at? p).isSome = true) : p = [] ∨ ∃ f ∈ a.files, p <+: names f.1 := by
  obtain ⟨m, hm⟩ := Option.isSome_iff_exists.mp hp
  exact (h.stands_of_node? hadds ((Disk.node?_append hn p).trans hm)).prefix_names

include hwritten hexportable

theorem node?_file (hf : f ∈ a.files) :
    d'.node? (base ++ names f.1) = some (d.newFile f.2) := by
  rw [← Disk.node?_of_face? rfl, h.face?_below hadds (hexportable.names_ne_nil hwritten hf)]
  exact (hexportable.writable hwritten).filesBring (List.mem_map_of_mem hf)

/-- The artifacts are below the root. -/
theorem held : a.HeldBelow d' base := by
  have hnode : ∀ {f}, f ∈ a.files → d'.node? (base ++ names f.1) = some (d.newFile f.2) :=
    h.node?_file hwritten hexportable hadds
  refine ⟨fun below data => ⟨?_, ?_⟩, fun f hf g hg hsame => ?_, fun below n hn => ?_⟩
  · rintro ⟨fmode, time, group, hn⟩
    generalize hm : Node.file data fmode time group = m at hn
    cases h.stands_of_node? hadds hn with
    | root hface =>
      subst hm
      cases hface
    | way _ _ hface =>
      subst hm
      cases hface
    | @file f hf =>
      cases hm
      exact ⟨f, hf, rfl, rfl⟩
  · rintro ⟨f, hf, rfl, rfl⟩
    exact ⟨_, _, _, hnode hf⟩
  · exact hexportable.eq_of_names_prefix hwritten hf hg (hsame ▸ List.prefix_refl _)
  · have hstands := h.stands_of_node? hadds hn
    have hbelow := hstands.prefix_names
    cases hstands with
    | root hface =>
      have hdir : n.isDirectory = (Node.directory mode 0 []).isDirectory :=
        Node.isDirectory_eq_of_face hface
      exact Or.inr ⟨hdir, hbelow⟩
    | way _ _ hface =>
      have hdir : n.isDirectory = Disk.newDirectory.isDirectory := Node.isDirectory_eq_of_face hface
      exact Or.inr ⟨hdir, hbelow⟩
    | @file f hf => exact Or.inl ⟨f, hf, rfl⟩

theorem orderly (hn : d'.node? base = some n) : n.Orderly := by
  refine ⟨fun p m hm => ?_, fun p m hm => ?_, fun p hp c hc => ?_⟩
  · refine hadds.lists (base ++ p) (fun m hm => ?_) m ((Disk.node?_append hn p).trans hm)
    by_cases hnil : p = []
    · obtain ⟨modified, hnode⟩ := h.stands
      rw [hnil, List.append_nil, hnode] at hm
      cases hm
      exact List.nodup_nil
    · rw [h.node?_below hnil] at hm
      cases hm
  · rw [← Node.isLegible_face]
    cases h.stands_of_node? hadds ((Disk.node?_append hn p).trans hm) with
    | root hface =>
      rw [hface]
      exact ⟨h.free .read, h.free .run⟩
    | way _ _ hface =>
      rw [hface]
      exact ⟨by decide, by decide⟩
    | file => exact (by decide : (Mode.ofFile.without Mode.usualMask).allows .read = true)
  · rcases h.prefix_names_of_isSome hadds hn hp with rfl | ⟨f, hf, hup⟩
    · cases hc
    · exact hexportable.isLegal hwritten hf c (hup.subset hc)

/-- What has been exported can be loaded. -/
theorem loadable (hn : d'.node? base = some n) : Loadable root n := by
  refine ⟨?_, h.orderly hwritten hexportable hadds hn, fun p hp => ?_, fun p m hm hdir => ?_⟩
  · have hface := h.face?_root hadds
    rw [Disk.face?_of_node? hn] at hface
    exact Node.isDirectory_eq_of_face (m := .directory mode 0 []) (Option.some.inj hface)
  · rcases h.prefix_names_of_isSome hadds hn hp with rfl | ⟨f, hf, hup⟩
    · unfold wayBelow
      rw [List.append_nil]
      exact h.leadsTo.short
    · exact Nat.le_trans (Disk.length_wayBelow_le hup (hexportable.isLegal hwritten hf))
        (hexportable.short f hf)
  · cases h.stands_of_node? hadds ((Disk.node?_append hn p).trans hm) with
    | root => exact Nat.zero_le _
    | @way _ f _ hf hup =>
      have hlength := hup.length_le
      have hshallow := hexportable.shallow f hf
      have hnames : (names f.1).length = (partsOf f.1).length := List.length_map _
      rw [List.length_dropLast] at hlength
      omega
    | file => cases hdir

/-- What is loaded has been exported, and the other way round. -/
theorem loads (name : String) :
    ∃ b, load d' root name = .ok b ∧ (b.files.map (·.1)).Nodup ∧
      ∀ f, f ∈ b.files ↔ f ∈ a.files := by
  obtain ⟨n, hn, -⟩ := Disk.exists_of_face? (h.face?_root hadds)
  have hleads : d'.LeadsTo root base := h.leadsTo.grows (hadds.grows fun p target time hp => by
    obtain ⟨f, -, ⟨-, hlink⟩ | ⟨hlink, -⟩⟩ := Disk.filesBring_eq_some hp <;> cases hlink)
    hadds.current
  have hnames : ∀ p m, n.at? p = some m → m.isDirectory = false → ∀ c ∈ p, IsKeyName c := by
    intro p m hm _ c hc
    rcases h.prefix_names_of_isSome hadds hn (Option.isSome_of_eq_some hm) with rfl | ⟨f, hf, hup⟩
    · cases hc
    · exact hexportable.isKeyName hwritten hf c (hup.subset hc)
  obtain ⟨b, hload, hmirrors⟩ :=
    (h.loadable hwritten hexportable hadds hn).mirrors_load hleads hn hnames name
  refine ⟨b, hload, hmirrors.single, fun f => (hmirrors.files f).trans ⟨?_, fun hf => ?_⟩⟩
  · rintro ⟨below, fmode, time, group, hat, htext⟩
    obtain ⟨g, hg, rfl, hdata⟩ := ((h.held hwritten hexportable hadds).files below f.2).mp
      ⟨fmode, time, group, (Disk.node?_append hn below).trans hat⟩
    rw [hexportable.placeText_names hwritten hg] at htext
    exact Prod.ext htext hdata.symm ▸ hg
  · have hnode := h.node?_file hwritten hexportable hadds hf
    exact ⟨names f.1, _, _, _, (Disk.node?_append hn _).symm.trans hnode,
      (hexportable.placeText_names hwritten hf).symm⟩

end Exported

end Vacant

/-- Artifacts whose paths can be paths of files, none of them in the way of another one, can be
exported into an empty directory. It then holds one regular file for each of them, with its content,
at its path and nothing else but the directories on the way, and elsewhere all is seen as before.
What is loaded from there has the same paths in the same order, and finds the same contents. -/
theorem what_is_exported_is_loaded_again (hwritten : a.Written) (hexportable : a.Exportable root)
    (hvacant : Vacant d root base mode) (name : String) :
    ∃ d', a.exportTo root d = (.ok (), d') ∧ a.HeldBelow d' base ∧
      (∀ p, ¬base <+: p → d'.face? p = d.face? p) ∧
      ∃ b, load d' root name = .ok b ∧ b.toList = a.toList ∧ b.size = a.size ∧
        ∀ raw, b.read raw = a.read raw := by
  obtain ⟨d', hexport, hadds⟩ := hvacant.exports hwritten hexportable
  obtain ⟨b, hload, hsingle, hfiles⟩ := hvacant.loads hwritten hexportable hadds name
  have hlookup := lookup_eq_of_mem_iff hsingle hwritten.nodup hfiles
  have hkeys : ∀ k, k ∈ b.files.map (·.1) ↔ k ∈ a.files.map (·.1) := fun k => by
    rw [← isSome_lookup_iff, ← isSome_lookup_iff, hlookup]
  have hlist : b.toList = a.toList := toList_eq_of_keys hsingle hwritten.nodup hkeys
  refine ⟨d', hexport, hvacant.held hwritten hexportable hadds, fun p hp => ?_, b, hload, hlist, ?_,
    fun raw => ?_⟩
  · have hnone : brings d base a p = none := by
      cases hbrings : brings d base a p with
      | none => rfl
      | some n =>
        obtain ⟨f, -, ⟨rfl, -⟩ | ⟨-, above, -, rfl⟩⟩ := Disk.filesBring_eq_some hbrings <;>
          exact absurd (List.prefix_append ..) hp
    rw [hadds.faces, hnone, Option.or_none]
  · have hlength := congrArg List.length hlist
    unfold toList at hlength
    rwa [List.length_mergeSort, List.length_mergeSort, List.length_map, List.length_map] at hlength
  · unfold read
    cases key raw with
    | error e => rfl
    | ok k =>
      dsimp only
      rw [hlookup]

/-! ## Samples -/

/-- A disk with nothing but an empty directory. -/
def vacantDisk : Disk where
  root := .directory 493 0 [(['o'], .directory 493 0 [])]
  current := []
  scratch := []
  scratchCount := 0
  groupCount := 0
  now := 0

theorem vacant_vacantDisk : Vacant vacantDisk (.ofString "o") [['o']] 493 :=
  ⟨Path.isNormal_ofString "o", by decide, ⟨0, rfl⟩, fun right => by cases right <;> rfl⟩

/-- Two files, one of them in a directory, come back. -/
theorem two_files_are_loaded_again :
    let a : Artifacts := ⟨"d", [(.ofString "b/c", [1]), (.ofString "a", [])]⟩
    ∃ d', a.exportTo (.ofString "o") vacantDisk = (.ok (), d') ∧ a.HeldBelow d' [['o']] ∧
      ∃ b, load d' (.ofString "o") "e" = .ok b ∧ b.toList = a.toList ∧
        b.read (.ofString "b//c") = .ok [1] := by
  intro a
  have hwritten : a.Written := by
    have hfirst : (Artifacts.empty "d").write (.ofString "b/c") [1] =
      .ok ⟨"d", [(.ofString "b/c", [1])]⟩ := by decide
    have hsecond : (⟨"d", [(.ofString "b/c", [1])]⟩ : Artifacts).write (.ofString "a") [] =
      .ok a := by decide
    exact .write (.write (.empty "d") hfirst) hsecond
  have hexportable : a.Exportable (.ofString "o") := by
    have hparts : ∀ f ∈ a.files, ∀ part ∈ partsOf f.1, part ∈ ["a", "b", "c"].map .ofString := by
      decide
    refine ⟨by decide, by decide, fun f hf part hpart => ?_, by decide, by decide⟩
    obtain ⟨s, hs, rfl⟩ := List.mem_map.mp (hparts f hf part hpart)
    simp only [List.mem_cons, List.not_mem_nil, or_false] at hs
    rcases hs with rfl | rfl | rfl <;> exact canName_ofString (by decide) (by decide)
  obtain ⟨d', hexport, hheld, -, b, hload, hlist, -, hread⟩ :=
    what_is_exported_is_loaded_again hwritten hexportable vacant_vacantDisk "e"
  exact ⟨d', hexport, hheld, b, hload, hlist, (hread _).trans (by decide)⟩

def single (k : Points) : Artifacts := ⟨"d", [(k, [1])]⟩

theorem written_single (h : Canonical k) : (single k).Written :=
  .write (.empty "d") (write_of_key (key?_of_canonical h) (.empty "d") [1])

/-- A name of one letter more than so many. -/
def word (n : Nat) : List Char := List.replicate (n + 1) 'a'

/-- The key of so many components that are the same word. -/
def wordKey (count n : Nat) : Points :=
  joinParts (List.replicate count (.ofString (String.ofList (word n))))

section Words

variable (count n : Nat)

theorem not_mem_word {c : Char} (hc : c ≠ 'a') : c ∉ word n :=
  fun hmem => hc (List.eq_of_mem_replicate hmem)

theorem word_ascii : ∀ c ∈ word n, c.toNat < 0x80 := fun _ hc =>
  List.eq_of_mem_replicate hc ▸ by decide

theorem isFileName_word : IsFileName (String.ofList (word n)) := by
  have hne : ∀ s : String, 'a' ∉ s.toList → String.ofList (word n) ≠ s := by
    rintro s hs rfl
    rw [String.toList_ofList] at hs
    exact hs (List.mem_cons_self ..)
  have hnot : ∀ c, c ≠ 'a' → c ∉ (String.ofList (word n)).toList := fun c hc => by
    rw [String.toList_ofList]
    exact not_mem_word n hc
  exact ⟨⟨hne "" (by decide), hne "." (by decide), hnot '/' (by decide)⟩, hne ".." (by decide),
    hnot '\\' (by decide)⟩

theorem isLegal_word (hshort : n < 255) : Disk.IsLegal (word n) := by
  have hne : ∀ cs : List Char, 'a' ∉ cs → word n ≠ cs := by
    rintro cs hcs rfl
    exact hcs (List.mem_cons_self ..)
  refine ⟨⟨hne _ (by decide), hne _ (by decide), ?_⟩,
    ⟨hne _ (by decide), not_mem_word n (by decide)⟩,
    not_mem_word n (by decide)⟩
  unfold word
  rwa [List.length_replicate]

theorem partsOf_wordKey :
    partsOf (wordKey count n) = List.replicate count (.ofString (String.ofList (word n))) :=
  partsOf_joinParts fun _ hmem =>
    List.eq_of_mem_replicate hmem ▸ isKeyPart_ofString (isFileName_word n)

theorem names_wordKey :
    names (wordKey (count + 1) n) = List.replicate count (word n) ++ [word n] := by
  unfold names
  rw [partsOf_wordKey, List.map_replicate, Text.FileName.ofPoints_ofString,
    Octets.ofString_of_ascii (word_ascii n), List.replicate_succ']

theorem written_wordKey : (single (wordKey count n)).Written := by
  refine written_single (canonical_joinParts (fun _ hmem => ?_) fun hmem => ?_)
  · exact List.eq_of_mem_replicate hmem ▸ isKeyPart_ofString (isFileName_word n)
  · exact (isFileName_word n).2.1 (Points.ofString_inj (List.eq_of_mem_replicate hmem)).symm

theorem canName_wordKey (hshort : n < 255) : ∀ part ∈ partsOf (wordKey count n), CanName part := by
  intro part hmem
  rw [partsOf_wordKey] at hmem
  rw [List.eq_of_mem_replicate hmem]
  refine canName_ofString ?_ ?_
  · rw [String.toList_ofList]
    exact not_mem_word n (by decide)
  · rw [Octets.ofString_of_ascii (word_ascii n)]
    exact (isLegal_word n hshort).entry.2.2

end Words

/-- A key whose components can all be names of files is refused all the same. -/
structure Refused (k : Points) : Prop where
  written : (single k).Written
  names : ∀ part ∈ partsOf k, CanName part
  refused : ∃ e, (single k).exportTo (.ofString "o") vacantDisk = (.error e, vacantDisk)

/-- The surrogates for the two bytes of one letter. -/
def strayKey : Points := [⟨0xDCC3, by decide⟩, ⟨0xDCA9, by decide⟩]

/-- Components that can all be names of files make no path of a file when they are too long
together, or too many. And a text that can be the name of a file need not be read from that name:
the surrogates of the two bytes of a letter come back as the letter. -/
theorem names_of_files_are_not_enough :
    Refused (wordKey 17 254) ∧ Refused (wordKey 1200 0) ∧
      (single strayKey).Written ∧ Text.FileName.ofPoints strayKey = Octets.ofString "é" ∧
      ∃ d' b, (single strayKey).exportTo (.ofString "o") vacantDisk = (.ok (), d') ∧
        load d' (.ofString "o") "d" = .ok b ∧ b.files = [(.ofString "é", [1])] := by
  refine ⟨⟨written_wordKey 17 254, canName_wordKey 17 254 (by decide), ?_⟩,
    ⟨written_wordKey 1200 0, canName_wordKey 1200 0 (by decide), ?_⟩,
    written_single ⟨by decide, by decide, by decide, by decide, by decide⟩, by decide, ?_⟩
  · exact vacant_vacantDisk.exportTo_tooLong rfl (names_wordKey 16 254)
      (fun c hc => List.eq_of_mem_replicate hc ▸ isLegal_word 254 (by decide)) (by decide +kernel)
  · refine vacant_vacantDisk.exportTo_tooDeep rfl (names_wordKey 1199 0)
      (fun c hc => List.eq_of_mem_replicate hc ▸ isLegal_word 0 (by decide)) (by decide +kernel) ?_
    rw [List.length_replicate]
    decide
  · have hexport : ((single strayKey).exportTo (.ofString "o") vacantDisk).1 = .ok () := by
      decide +kernel
    have hload : (load ((single strayKey).exportTo (.ofString "o") vacantDisk).2 (.ofString "o")
        "d").map (·.files) = .ok [(.ofString "é", [1])] := by decide +kernel
    generalize hd : (single strayKey).exportTo (.ofString "o") vacantDisk = result at hexport hload
    obtain ⟨exported, d'⟩ := result
    cases hb : load d' (.ofString "o") "d" with
    | error e =>
      rw [hb] at hload
      cases hload
    | ok b =>
      rw [hb] at hload
      exact ⟨d', b, Prod.ext hexport rfl, hb, Except.ok.inj hload⟩

end Artifacts

end Worksheet
