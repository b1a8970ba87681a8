-- Where the files of artifacts are put. A path that is accepted is that of a file below every root,
-- if it has a component; without one its place is the root itself, and nothing with such a path can
-- be exported to a directory.
import Worksheet.Proofs.ArtifactKeys
import Worksheet.Proofs.ExportFootprint
import Worksheet.Proofs.RoundTrips

namespace Worksheet

open Text (Bytes Octets Points)

/-! ## Exports below a directory -/

namespace Disk

variable {d d' : Disk} {root : Path} {base p : Place} {files : List (Points × Bytes)}
  {names : List Octets} {r : Except ArtifactFault Unit} {f : Points × Bytes} {data : Bytes}

/-- No link stands below a place. -/
def LinkFree (d : Disk) (base : Place) : Prop :=
  ∀ below target time, below ≠ [] → d.node? (base ++ below) ≠ some (.link target time)

theorem LinkFree.grows (h : d.LinkFree base) (hgrows : d.root.Grows d'.root) : d'.LinkFree base :=
  fun below target time hne =>
    no_link_of_grows hgrows (fun target time => h below target time hne) target time

/-- The path of what is above a root leads to something that stands. -/
theorem LeadsTo.stands_above (h : d.LeadsTo root base) {above : List Octets}
    (habove : above <+: root.way.parts) :
    ∃ q, d.locateWith true d.current (Way.octets ⟨root.anchor, above⟩) = .ok q ∧
      (d.node? q).isSome = true := by
  obtain ⟨rest, hrest⟩ := habove
  by_cases hnil : rest = []
  · obtain ⟨n, hn, -⟩ := h.stands
    rw [hnil, List.append_nil] at hrest
    exact ⟨base, hrest ▸ h.leads, Option.isSome_of_eq_some hn⟩
  · have hall : Named (above ++ rest) := hrest ▸ Path.named_way h.normal
    have hleads : d.locateWith true d.current (Way.octets ⟨root.anchor, above ++ rest⟩) =
        .ok base := hrest ▸ h.leads
    obtain ⟨q, hq, ⟨n, hn, -⟩, -⟩ := exists_directory
      (fun c hc => hall c (List.mem_append_left _ hc))
      (fun c hc => hall c (List.mem_append_right _ hc)) hnil hleads
    exact ⟨q, hq, Option.isSome_of_eq_some hn⟩

/-- What is missing on the way to what is below a root is below it. -/
theorem LeadsTo.below_of_onWay (h : d.LeadsTo root base) (hfree : d.LinkFree base)
    (hgrows : d.root.Grows d'.root) (hcurrent : d'.current = d.current) (hnames : AreNames names)
    (hnone : d.node? p = none) (hway : d'.OnWay (Artifacts.wayBelow root names).parent p) :
    ∃ further, further <+: names.dropLast ∧ p = base ++ further := by
  obtain ⟨above, habove, hlocate⟩ := hway
  have hall : above <+: root.way.parts ++ names := habove.trans (List.dropLast_prefix _)
  rcases List.prefix_or_prefix_of_prefix hall (List.prefix_append root.way.parts names) with
    hup | ⟨further, rfl⟩
  · -- What is above the root, or is the root, stands there already.
    obtain ⟨q, hq, hstands⟩ := h.stands_above hup
    have hlater := locateWith_of_grows hgrows hq
    rw [← hcurrent] at hlater
    obtain rfl : q = p := Except.ok.inj (hlater.symm.trans hlocate)
    rw [hnone] at hstands
    cases hstands
  · have hfurther : further <+: names := (List.prefix_append_right_inj _).mp hall
    refine ⟨further, ?_, ?_⟩
    · by_cases hnil : names = []
      · rw [hnil] at hfurther
        rw [List.prefix_nil.mp hfurther]
        exact List.nil_prefix
      · have hparent : root.way.parts ++ further <+: (root.way.parts ++ names).dropLast := habove
        rw [List.dropLast_append_of_ne_nil hnil] at hparent
        exact (List.prefix_append_right_inj _).mp hparent
    · exact (h.grows hgrows hcurrent).eq_of_locateWith (hnames.above hfurther)
        (fun _ target time _ hne => hfree.grows hgrows _ target time hne) hlocate

/-- A directory has one name. -/
theorem SameFile.eq_of_directory {q : Place} {n : Node} (h : d.SameFile q p)
    (hn : d.node? q = some n) (hdir : n.isDirectory = true) : p = q := by
  refine h.resolve_right ?_
  rintro ⟨m, -, hm, -, hgroup, -⟩
  obtain rfl := Option.some.inj (hn.symm.trans hm)
  cases n with
  | directory => exact hgroup rfl
  | _ => cases hdir

/-! ## A root that is written itself -/

theorem openToWrite_of_directory {w : Way} (hw : w.Named) {n : Node}
    (hlocate : d.locateWith true d.current w.octets = .ok p) (hn : d.node? p = some n)
    (hdir : n.isDirectory = true) (mask : Mode) (fresh : Bool) :
    d.openToWrite d.current mask fresh w.octets = .error .isDirectory := by
  rw [← locateWith_trimSlashes hw] at hlocate
  unfold openToWrite
  rw [hlocate]
  dsimp only
  split
  · rfl
  · rw [hn]
    cases n with
    | directory => rfl
    | _ => cases hdir

/-- A file cannot be written where a directory is. -/
theorem LeadsTo.exportFile_root_fails (h : d.LeadsTo root base)
    (hexport : Artifacts.exportFile root.way data d = (r, d')) : ∃ fault, r = .error fault := by
  have hnamed := Path.named_way h.normal
  have hparent : root.way.parent.Named := fun c hc => hnamed c ((List.dropLast_subset _) hc)
  unfold Artifacts.exportFile at hexport
  split at hexport
  · cases hexport
    exact ⟨_, rfl⟩
  split at hexport <;> next hmake =>
    first
    | cases hexport
      exact ⟨_, rfl⟩
    | have hmade := edit_makeWay hparent hmake
      have hlater := h.grows hmade.grows hmade.current
      obtain ⟨n, hn, hdir⟩ := hlater.stands
      unfold Artifacts.exportInto at hexport
      rw [openToWrite_of_directory hnamed hlater.leads hn hdir] at hexport
      split at hexport <;> cases hexport <;> exact ⟨_, rfl⟩

end Disk

namespace Artifacts

variable {a a' : Artifacts} {raw k : Points} {data : Bytes} {d d' : Disk} {root : Path}
  {base : Place} {r : Except ArtifactFault Unit} {f : Points × Bytes}

/-! ## Exports below a root without links -/

/-- A place is that of a file below a root, under any of the names of this file. -/
def IsExported (a : Artifacts) (d : Disk) (base p : Place) : Prop :=
  ∃ f ∈ a.files, names f.1 ≠ [] ∧ d.SameFile (base ++ names f.1) p

/-- A place is on the way from a root to a file. -/
def IsAboveExported (a : Artifacts) (base p : Place) : Prop :=
  ∃ f ∈ a.files, ∃ further, further <+: (names f.1).dropLast ∧ p = base ++ further

theorem Written.named_target (h : a.Written) (hroot : root.IsNormal) (hf : f ∈ a.files) :
    (target root f.1).Named :=
  Disk.named_below hroot (h.areNames hf).named

/-- New and changed files are those that the keys say, and new directories are on the way to
them. -/
theorem Written.edit_exportTo (hwritten : a.Written) (h : d.LeadsTo root base)
    (hfree : d.LinkFree base) (hexport : a.exportTo root d = (r, d')) :
    Disk.Edit (a.IsExported d base) (a.IsAboveExported base) d d' := by
  have hedit := Disk.edit_exportFiles (fun _ hf => hwritten.named_target h.normal hf) hexport
  have hlater := h.grows hedit.grows hedit.current
  obtain ⟨m, hm, hdir⟩ := h.stands
  obtain ⟨m', hm', hkind⟩ := hedit.grows.kept base m hm
  have hexported : ∀ {p}, p ≠ base → d.MeetsAny d' root a.files p → a.IsExported d base p := by
    rintro p hne ⟨f, hf, q, hleads, hsame⟩
    rw [← hedit.current] at hleads
    obtain rfl : q = base ++ names f.1 := hlater.eq_of_locateWith (hwritten.areNames hf)
      (fun _ target time _ hne => hfree.grows hedit.grows _ target time hne) hleads
    refine ⟨f, hf, fun hnil => ?_, hsame⟩
    rw [hnil, List.append_nil] at hsame
    exact hne (Disk.SameFile.eq_of_directory hsame hm hdir)
  refine ⟨hedit.current, hedit.scratch, hedit.grows, fun p n hn hfile => ?_,
    fun p hnone hstands => ?_, hedit.groups⟩
  · refine (hedit.files p n hn hfile).imp_right (hexported ?_)
    rintro rfl
    obtain rfl := Option.some.inj (hm'.symm.trans hn)
    exact Bool.noConfusion (hfile.symm.trans ((Node.isDirectory_eq_of_kind hkind).trans hdir))
  · refine (hedit.fresh p hnone hstands).imp (hexported ?_) ?_
    · rintro rfl
      cases hnone.symm.trans hm
    · rintro ⟨f, hf, hway⟩
      exact ⟨f, hf, h.below_of_onWay hfree hedit.grows hedit.current (hwritten.areNames hf) hnone
        hway⟩

/-! ## Ways below a root -/

/-- A way to something below a root: it goes on from the root, and only down. -/
def IsBelow (root : Path) (w : Way) : Prop :=
  ∃ further, further ≠ [] ∧ Disk.AreNames further ∧ w = wayBelow root further

/-- A path has a component that says where to go. -/
def HasComponent (raw : Points) : Prop :=
  ∃ part ∈ Text.split slash (slashed raw), isComponent part = true

theorem names_ne_nil_iff (h : key? raw = some k) : names k ≠ [] ↔ HasComponent raw := by
  unfold names HasComponent
  rw [Ne, List.map_eq_nil_iff, (key?_eq_some_iff.mp h).2.2]
  simp only [List.eq_nil_iff_forall_not_mem, mem_partsOf_iff, not_forall, not_not]

theorem areNames_of_key? (h : key? raw = some k) : Disk.AreNames (names k) := by
  have hwritten : (⟨defaultName, [(k, [])]⟩ : Artifacts).Written :=
    .write (.empty defaultName) (write_of_key h (.empty defaultName) [])
  exact hwritten.areNames (List.mem_singleton_self (k, []))

theorem isBelow_target_iff (h : key? raw = some k) (root : Path) :
    IsBelow root (target root k) ↔ HasComponent raw := by
  rw [← names_ne_nil_iff h]
  constructor
  · rintro ⟨further, hne, -, hway⟩
    have hparts : root.way.parts ++ names k = root.way.parts ++ further := congrArg Way.parts hway
    rwa [List.append_cancel_left hparts]
  · exact fun hne => ⟨names k, hne, areNames_of_key? h, rfl⟩

/-- Without a component the file is to be written where the root is. -/
theorem target_eq_way (h : key? raw = some k) (hno : ¬HasComponent raw) (root : Path) :
    target root k = root.way := by
  have hnil : names k = [] := Classical.not_not.mp (mt (names_ne_nil_iff h).mp hno)
  have hparts : (target root k).parts = root.way.parts ++ names k := rfl
  rw [hnil, List.append_nil] at hparts
  exact congrArg (Way.mk root.anchor) hparts

/-- Artifacts of which one is to be written where the root is cannot be exported. -/
theorem Written.exportTo_root_fails (hwritten : a.Written) (h : d.LeadsTo root base)
    (hf : f ∈ a.files) (htarget : target root f.1 = root.way)
    (hexport : a.exportTo root d = (r, d')) : ∃ fault, r = .error fault := by
  cases r with
  | error fault => exact ⟨fault, rfl⟩
  | ok done =>
    obtain ⟨before, after, hfile, hgrows, hcurrent⟩ :=
      Disk.exportFile_of_exportFiles (fun _ hf => hwritten.named_target h.normal hf) hexport hf
    obtain ⟨fault, hfault⟩ :=
      (h.grows hgrows hcurrent).exportFile_root_fails (htarget ▸ hfile)
    cases hfault

/-- A path that is accepted is that of something below every root, if it has a component. Without
one the file is to be written where the root is, and then nothing that holds it can be exported into
a directory. What an export writes at all is below the root, where the keys say, unless links lead
out of it. -/
theorem an_accepted_path_is_below_its_root_if_it_has_a_component (hwritten : a.Written)
    (h : a.write raw data = .ok a') :
    ∃ k, (k, data) ∈ a'.files ∧
      (∀ root, IsBelow root (target root k) ↔ HasComponent raw) ∧
      (¬HasComponent raw → ∀ root, target root k = root.way ∧
        ∀ d base r d', d.LeadsTo root base → a'.exportTo root d = (r, d') →
          ∃ fault, r = .error fault) ∧
      ∀ root d base r d', d.LeadsTo root base → d.LinkFree base →
        a'.exportTo root d = (r, d') →
          Disk.Edit (a'.IsExported d base) (a'.IsAboveExported base) d d' := by
  have hwritten' : a'.Written := hwritten.write h
  cases hkey : key? raw with
  | none =>
    rw [write_of_no_key hkey] at h
    cases h
  | some k =>
    rw [write_of_key hkey] at h
    obtain rfl := Except.ok.inj h
    have hmem : (k, data) ∈ setFile k data a.files := by
      obtain ⟨writes, hreflects⟩ := hwritten'.reflects
      refine (lookup_eq_some_iff_mem hreflects.single).mp ?_
      exact (lookup_setFile ..).trans (if_pos rfl)
    refine ⟨k, hmem, isBelow_target_iff hkey, fun hno root => ?_, ?_⟩
    · have htarget := target_eq_way hkey hno root
      exact ⟨htarget, fun d base r d' hleads hexport =>
        hwritten'.exportTo_root_fails hleads hmem htarget hexport⟩
    · exact fun root d base r d' hleads hfree hexport =>
        hwritten'.edit_exportTo hleads hfree hexport

/-- A path with a component is that of a file below every root. -/
theorem a_path_with_a_component_is_below_its_root :
    ∃ a' k, (Artifacts.empty "d").write (.ofString "./b//c") [1] = .ok a' ∧
      (k, [1]) ∈ a'.files ∧ ∀ root, IsBelow root (target root k) := by
  have hwrite : (Artifacts.empty "d").write (.ofString "./b//c") [1] =
      .ok ⟨"d", [(.ofString "b/c", [1])]⟩ := by decide
  obtain ⟨k, hmem, hbelow, -⟩ :=
    an_accepted_path_is_below_its_root_if_it_has_a_component (.empty "d") hwrite
  exact ⟨_, k, hwrite, hmem, fun root =>
    (hbelow root).mpr ⟨Points.ofString "b", by decide, by decide⟩⟩

/-- The empty path is accepted all the same. Its file is to be written where the root is, and the
export of it into a directory fails. -/
theorem the_empty_path_is_that_of_the_root :
    ∃ a', (Artifacts.empty "d").write [] [1] = .ok a' ∧ a'.toList = [.ofString "."] ∧
      (∀ root, ¬IsBelow root (target root (.ofString "."))) ∧
      (a'.exportTo (.ofString "o") vacantDisk).1 =
        .error (.system .isDirectory (.ofString "o")) := by
  have hkey : key? [] = some (.ofString ".") := by decide
  refine ⟨_, write_of_key hkey _ _, List.mergeSort_singleton _, fun root hbelow => ?_,
    by decide +kernel⟩
  obtain ⟨part, hpart, hcomponent⟩ := (isBelow_target_iff hkey root).mp hbelow
  obtain rfl := List.mem_singleton.mp hpart
  cases hcomponent

end Artifacts

end Worksheet
