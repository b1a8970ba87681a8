-- The scratch directory of an evaluation. No link is on the way to it or below it, so what is
-- exported to it stands below it and nowhere else; and with the directory, all that has been new is
-- gone.
import Worksheet.Proofs.ExportFootprint
import Worksheet.Proofs.Territory

namespace Worksheet

open Text (Bytes Octets Points)

namespace Disk

variable {d d' : Disk} {p q scratch : Place} {mine ways : Place → Prop}

/-! ## Ways without links -/

/-- The path of a place leads there, unless a link is on the way. A link at the end is none that is
followed. -/
theorem eq_of_locateWith (hnames : AreNames p) {follow : Bool} {directory : Place}
    (hlinks : ∀ above target time, above <+: p →
      d.node? above = some (.link target time) → above = p ∧ follow = false)
    (h : d.locateWith follow directory p.octets = .ok q) : q = p := by
  by_cases hnil : p = []
  · subst hnil
    have htrim : Way.trimSlashes (Place.octets []) = Place.octets [] := by decide
    rw [← htrim] at h
    exact (locateWith_of_no_parts (w := Place.way []) rfl h).1
  · have hwalk : walk d.root follow (maxLinks + 1) [] p = .ok q :=
      (walk_of_locateWith (w := p.way) hnames.named hnil h).2
    have hleads : (walkToLink d.root follow [].reverse d.root p).Leads p :=
      walkToLink_names hnames.names rfl hlinks
    unfold walk at hwalk
    dsimp only [Node.at?] at hwalk
    split at hwalk
    · next hend =>
      cases hwalk
      rw [hend] at hleads
      exact hleads
    · cases hwalk
    · next hend =>
      rw [hend] at hleads
      exact hleads.elim

/-- No link stands at a place or above it. -/
def Straight (d : Disk) (p : Place) : Prop :=
  ∀ above target time, above <+: p → d.node? above ≠ some (.link target time)

theorem Straight.grows (h : d.Straight p) (hgrows : d.root.Grows d'.root) : d'.Straight p :=
  fun above target time habove =>
    no_link_of_grows hgrows (fun target time => h above target time habove) target time

/-! ## A directory of one's own -/

/-- A directory with no link on the way to it or below it, and below it no file with a further
name. -/
structure IsOwn (d : Disk) (scratch : Place) : Prop where
  names : AreNames scratch
  ne_nil : scratch ≠ []
  stands : ∃ n, d.node? scratch = some n ∧ n.isDirectory = true
  noLink : ∀ p target time, p <+: scratch ∨ scratch <+: p → d.node? p ≠ some (.link target time)
  single : ∀ p n, scratch <+: p → d.node? p = some n → n.group = 0

theorem IsOwn.edit (h : d.IsOwn scratch) (hedit : Edit mine ways d d') : d'.IsOwn scratch := by
  refine ⟨h.names, h.ne_nil, ?_, fun p target time hp => ?_, fun p n hp hn => ?_⟩
  · obtain ⟨n, hn, hdir⟩ := h.stands
    obtain ⟨n', hn', hkind⟩ := hedit.grows.kept scratch n hn
    exact ⟨n', hn', (Node.isDirectory_eq_of_kind hkind).trans hdir⟩
  · exact no_link_of_grows hedit.grows (fun target time => h.noLink p target time hp) target time
  · refine Decidable.byContradiction fun hgroup => ?_
    obtain ⟨m, hm, hsame⟩ := hedit.groups p n hn hgroup
    exact hgroup (hsame ▸ h.single p m hp hm)

/-- Paths that go below it lead to where they say. -/
theorem IsOwn.leads (h : d.IsOwn scratch) (hnames : AreNames p)
    (hp : p <+: scratch ∨ scratch <+: p) {follow : Bool} {directory : Place}
    (hlocate : d.locateWith follow directory p.octets = .ok q) : q = p := by
  refine eq_of_locateWith hnames (fun above target time habove hlink => ?_) hlocate
  refine absurd hlink (h.noLink above target time ?_)
  rcases hp with hup | hdown
  · exact Or.inl (habove.trans hup)
  · exact List.prefix_or_prefix_of_prefix habove hdown

theorem IsOwn.eq_of_sameFile (h : d.IsOwn scratch) (hq : scratch <+: q) (hsame : d.SameFile q p) :
    p = q := by
  rcases hsame with rfl | ⟨n, m, hn, -, hgroup, -⟩
  · rfl
  · exact absurd (h.single q n hq hn) hgroup

/-- What is new on the way to a place below it is below it. -/
theorem IsOwn.below_of_onWay (h : d.IsOwn scratch) (hedit : Edit mine ways d d')
    (hnames : AreNames q) (hq : scratch <+: q) {w : Way} (hw : w.anchor = .root)
    (habove : w.parts <+: q) (hnone : d.node? p = none) (hway : d'.OnWay w p) : scratch <+: p := by
  obtain ⟨before, hbefore, hlocate⟩ := hway
  rw [hw] at hlocate
  have hshort : before <+: q := hbefore.trans habove
  have hpart : before <+: scratch ∨ scratch <+: before := List.prefix_or_prefix_of_prefix hshort hq
  obtain rfl := (h.edit hedit).leads (hnames.above hshort) hpart hlocate
  refine hpart.resolve_left fun hup => ?_
  obtain ⟨n, hn, -⟩ := h.stands
  obtain ⟨further, rfl⟩ := hup
  unfold node? at hn hnone
  rw [Node.at?_append, hnone] at hn
  cases hn

/-! ## Exported files -/

/-- What is exported to it stands below it. -/
theorem IsOwn.edit_exportFiles (h : d.IsOwn scratch) (htext : scratch.respelled = scratch)
    {files : List (Points × Bytes)} (hfiles : ∀ file ∈ files, AreNames (Artifacts.names file.1))
    {r : Except ArtifactFault Unit}
    (hexport : Artifacts.exportFiles scratch.path files d = (r, d')) :
    Edit (scratch <+: ·) (scratch <+: ·) d d' := by
  have htarget : ∀ k, Artifacts.target scratch.path k = Place.way (scratch ++ Artifacts.names k) := by
    intro k
    unfold Artifacts.target
    rw [Place.way_path htext]
    rfl
  have hnames : ∀ file ∈ files, AreNames (scratch ++ Artifacts.names file.1) := fun file hfile =>
    h.names.append (hfiles file hfile)
  have hedit := Disk.edit_exportFiles
    (fun file hfile => (htarget file.1).symm ▸ (hnames file hfile).named) hexport
  refine hedit.mono (fun p hp => ?_) fun p hnone hp => ?_
  · obtain ⟨file, hfile, q, hleads, hsame⟩ := hp
    rw [htarget] at hleads
    obtain rfl := (h.edit hedit).leads (hnames file hfile) (Or.inr (List.prefix_append ..)) hleads
    exact h.eq_of_sameFile (List.prefix_append ..) hsame ▸ List.prefix_append ..
  · obtain ⟨file, hfile, hway⟩ := hp
    rw [htarget] at hway
    exact h.below_of_onWay hedit (hnames file hfile) (List.prefix_append ..) rfl
      (List.dropLast_prefix _) hnone hway

/-! ## Taking it away -/

/-- What has not been there and has been written to is as if nothing had happened, once it is taken
away. -/
theorem Edit.erase (h : Edit (scratch <+: ·) (scratch <+: ·) d d') (hne : scratch ≠ [])
    (hnone : d.node? scratch = none) :
    Edit (fun _ => False) (fun _ => False) d (d'.erase scratch) := by
  have hgone : ∀ p, scratch <+: p → (d'.erase scratch).node? p = none := fun p hp =>
    Node.at?_erase_of_prefix hne hp
  have habsent : ∀ p, scratch <+: p → d.node? p = none := by
    rintro p ⟨below, rfl⟩
    unfold node? at hnone ⊢
    rw [Node.at?_append, hnone]
    rfl
  have hkind : ∀ p, ¬scratch <+: p →
      ((d'.erase scratch).node? p).map Node.kind = (d'.node? p).map Node.kind := fun p hp =>
    Node.kind_at?_erase hp
  refine ⟨h.current, h.scratch, ⟨fun p n hn => ?_, fun p target time hp hlink => ?_⟩,
    fun p n hn hdir => ?_, fun p hp hsome => ?_, fun p n hn hgroup => ?_⟩
  all_goals
    have hout : ¬scratch <+: p := fun hbelow => by
      first
      | cases (habsent p hbelow).symm.trans hn
      | cases (hgone p hbelow).symm.trans hlink
      | cases (hgone p hbelow).symm.trans hn
      | rw [hgone p hbelow] at hsome
        cases hsome
  · obtain ⟨m, hm, hsame⟩ := h.grows.kept p n hn
    have hmap := hkind p hout
    rw [show d'.node? p = some m from hm] at hmap
    obtain ⟨n', hn', hsame'⟩ := Option.map_eq_some_iff.mp hmap
    exact ⟨n', hn', hsame'.trans hsame⟩
  · have hmap := hkind p hout
    rw [show (d'.erase scratch).node? p = _ from hlink] at hmap
    obtain ⟨m, hm, hsame⟩ := Option.map_eq_some_iff.mp hmap.symm
    obtain ⟨time', rfl⟩ := Node.eq_link_of_kind hsame
    exact h.grows.noLink p target time' hp hm
  · exact Or.inl ((h.files p n (Node.at?_of_at?_erase hn hdir) hdir).resolve_right hout)
  · have hmap := congrArg Option.isSome (hkind p hout)
    rw [Option.isSome_map, Option.isSome_map, hsome] at hmap
    exact absurd ((h.fresh p hp hmap.symm).elim id id) hout
  · exact h.groups p n (Node.at?_of_at?_erase hn (Node.isDirectory_of_group hgroup)) hgroup

/-- A directory that is not too deep can be taken away. -/
theorem removeScratch_of_depth {n : Node} (hn : d.node? scratch = some n)
    (hdir : n.isDirectory = true) (hdepth : n.depth ≤ maxRemovedLevels) :
    removeScratch scratch d = (.ok (), d.erase scratch) := by
  cases n with
  | directory mode modified entries =>
    unfold removeScratch
    rw [hn]
    exact if_neg (Nat.not_lt.mpr hdepth)
  | _ => cases hdir

theorem removeScratch_of_deep {n : Node} (hn : d.node? scratch = some n)
    (hdir : n.isDirectory = true) (hdeep : maxRemovedLevels < n.depth) :
    removeScratch scratch d = (.error (.recursion "maximum recursion depth exceeded"), d) := by
  cases n with
  | directory mode modified entries =>
    unfold removeScratch
    rw [hn]
    exact if_pos hdeep
  | _ => cases hdir

/-- A directory of one's own can be taken away, unless the tree below it is too deep. -/
theorem IsOwn.removeScratch (h : d.IsOwn scratch) :
    Disk.removeScratch scratch d = (.ok (), d.erase scratch) ∨
      (∃ n, d.node? scratch = some n ∧ maxRemovedLevels < n.depth) ∧
        Disk.removeScratch scratch d =
          (.error (.recursion "maximum recursion depth exceeded"), d) := by
  obtain ⟨n, hn, hdir⟩ := h.stands
  rcases Nat.lt_or_ge maxRemovedLevels n.depth with hdeep | hdepth
  · exact Or.inr ⟨⟨n, hn, hdeep⟩, removeScratch_of_deep hn hdir hdeep⟩
  · exact Or.inl (removeScratch_of_depth hn hdir hdepth)

/-! ## Making it -/

/-- What an evaluator needs: the current directory has a path, and no link is on the way to the
directory for scratch space. -/
structure Ready (d : Disk) : Prop where
  current : d.current.path.IsNormal
  proper : d.scratch.IsProper
  respelled : d.scratch.respelled = d.scratch
  straight : d.Straight d.scratch

theorem Ready.edit (h : d.Ready) (hedit : Edit mine ways d d') : d'.Ready := by
  obtain ⟨hcurrent, hproper, hrespelled, hstraight⟩ := h
  rw [← hedit.current] at hcurrent
  rw [← hedit.scratch] at hproper hrespelled hstraight
  exact ⟨hcurrent, hproper, hrespelled, hstraight.grows hedit.grows⟩

theorem areNames_of_isProper (h : p.IsProper) (htext : p.respelled = p) : AreNames p := by
  have hnamed := Path.named_way h.1
  rw [Place.way_path htext] at hnamed
  have hpart : ∀ {s : String}, Octets.ofString s ∈ p → s ∈ p.path.parts := by
    intro s hs
    rw [← Octets.spelled_ofString s]
    exact List.mem_map_of_mem hs
  refine ⟨hnamed, fun c hc => ⟨?_, ?_⟩⟩
  · rintro rfl
    have hpoint : Octets.ofString "." = ['.'] := by decide
    exact (h.1 _ (hpart (hpoint ▸ hc))).2.1 rfl
  · rintro rfl
    have hpoints : Octets.ofString ".." = ['.', '.'] := by decide
    exact h.2 (hpart (hpoints ▸ hc))

/-- A new directory at the end of a way without links is one's own. -/
theorem isOwn_put {above : Place} {c : Octets} (hnames : AreNames (above ++ [c]))
    (hstraight : d.Straight above) (hnone : d.node? (above ++ [c]) = none)
    (habove : ∃ n, d.node? above = some n ∧ n.isDirectory = true) (mode : Mode) (time : Int) :
    (d.put (above ++ [c]) (.directory mode time [])).IsOwn (above ++ [c]) := by
  have hnew : (Node.directory mode time []).IsNew := rfl
  have hfits : d.Fits (above ++ [c]) := Or.inr ⟨hnone, by rwa [List.dropLast_concat]⟩
  have hstands := node?_put hfits hnew
  have hbelow : ∀ q n, above ++ [c] <+: q →
      (d.put (above ++ [c]) (.directory mode time [])).node? q = some n →
        n = .directory mode time [] := by
    rintro q n ⟨further, rfl⟩ hn
    unfold node? at hn hstands
    rw [Node.at?_append, hstands, Option.bind_some] at hn
    by_cases hnil : further = []
    · subst hnil
      exact (Option.some.inj hn).symm
    · rw [hnew.isLeaf further hnil] at hn
      cases hn
  refine ⟨hnames, by simp, ⟨_, hstands, rfl⟩, fun q target time' hq hlink => ?_,
    fun q n hq hn => ?_⟩
  · have hup : q <+: above := by
      rcases hq with hup | hdown
      · refine (List.prefix_concat_iff.mp hup).resolve_left ?_
        rintro rfl
        cases hbelow _ _ (List.prefix_refl _) hlink
      · cases hbelow q _ hdown hlink
    exact (hstraight.grows (grows_put_new hnone hnew)) q target time' hup hlink
  · rw [hbelow q n hq hn]
    rfl

/-- A scratch directory is new, and one's own. -/
theorem Ready.edit_openScratch (h : d.Ready) {label : String} (hlabel : IsLabel label)
    (hopen : openScratch label d = (.ok scratch, d')) :
    scratch.respelled = scratch ∧ (∃ name, scratch = d.scratch ++ [name]) ∧
      d.node? scratch = none ∧ d'.IsOwn scratch ∧
      Edit (fun _ => False) (· = scratch) d d' := by
  obtain ⟨hplace, found, hfree, rfl⟩ := openScratch_put hopen
  have hproper := isProper_scratchPlace h.proper hlabel d.scratchCount
  have hrespelled := respelled_scratchPlace d.scratch label d.scratchCount
  rw [h.respelled] at hrespelled
  rw [← hplace] at hproper hrespelled
  have hnames := areNames_of_isProper hproper hrespelled
  obtain ⟨name, rfl⟩ : ∃ name, scratch = d.scratch ++ [name] := ⟨_, hplace⟩
  have hlocate := locateWith_of_freePlace hfree
  rw [show Way.trimSlashes (Place.octets (d.scratch ++ [name])) = Place.octets (d.scratch ++ [name])
    from Way.trimSlashes_octets hnames.named (by simp [Place.way])] at hlocate
  obtain rfl : found = d.scratch ++ [name] := by
    refine eq_of_locateWith hnames (fun above target time hup hlink => ?_) hlocate
    rcases List.prefix_concat_iff.mp hup with heq | hbefore
    · exact ⟨heq, rfl⟩
    · exact absurd hlink (h.straight above target time hbefore)
  obtain ⟨hnone, habove⟩ := node?_of_freePlace hfree
  rw [List.dropLast_concat] at habove
  have hown := isOwn_put hnames h.straight hnone habove scratchMode d.changeTime
  have hnew : (Node.directory scratchMode d.changeTime []).IsNew := rfl
  have hput : Edit (fun _ => False) (· = d.scratch ++ [name]) d
      (d.put (d.scratch ++ [name]) (.directory scratchMode d.changeTime [])) :=
    (edit_put_new hnone hnew).mono (fun _ hp => by cases hp.2) fun _ _ => id
  have hsame : Edit (fun _ => False) (· = d.scratch ++ [name])
      (d.put (d.scratch ++ [name]) (.directory scratchMode d.changeTime []))
      { d.put (d.scratch ++ [name]) (.directory scratchMode d.changeTime []) with
        scratchCount := d.scratchCount + 1 } := edit_of_root rfl rfl rfl
  exact ⟨hrespelled, ⟨name, rfl⟩, hnone, hown.edit hsame, hput.trans hsame⟩

/-- What is exported to a new scratch directory is there and nowhere else. -/
theorem Ready.edit_exportTo (hready : d.Ready) {artifacts : Artifacts}
    (hwritten : artifacts.Written) {d'' : Disk} {r : Except ArtifactFault Unit}
    (hopen : openScratch Evaluator.label d = (.ok scratch, d'))
    (hexport : artifacts.exportTo scratch.path d' = (r, d'')) :
    (∃ name, scratch = d.scratch ++ [name]) ∧ d.node? scratch = none ∧ d''.IsOwn scratch ∧
      Edit (scratch <+: ·) (scratch <+: ·) d d'' := by
  obtain ⟨htext, hname, hnone, hown, hmade⟩ := hready.edit_openScratch isLabel_evaluator hopen
  have hfiles := hown.edit_exportFiles htext (fun file hfile => hwritten.areNames hfile) hexport
  refine ⟨hname, hnone, hown.edit hfiles, Edit.trans ?_ hfiles⟩
  exact hmade.mono (fun _ => False.elim) fun p _ hp => hp ▸ List.prefix_refl _

end Disk

end Worksheet
