-- What an export changes on any disk, whether it succeeds or not. New and changed files are those
-- that the paths of the artifacts lead to, and new directories are on the way to them; and when it
-- succeeds, each of the files has been written in its turn.
import Worksheet.Proofs.ExportedNames
import Worksheet.Proofs.Footprints

namespace Worksheet

open Text (Bytes Octets Points)

namespace Disk

variable {d d' : Disk} {w : Way} {root : Path} {data : Bytes} {files : List (Points × Bytes)}
  {r : Except ArtifactFault Unit} {p : Place}

/-- A way leads to a file, and this is one of its names. -/
def Meets (d d' : Disk) (w : Way) (p : Place) : Prop :=
  ∃ q, d'.locateWith true d.current w.octets = .ok q ∧ d.SameFile q p

/-- What a way has led to it leads to later. -/
theorem Meets.later {between : Disk} {mine ways : Place → Prop} (h : between.Meets d' w p)
    (hedit : Edit mine ways d between) : d.Meets d' w p := by
  obtain ⟨q, hleads, hsame⟩ := h
  exact ⟨q, hedit.current ▸ hleads, hsame.of_edit hedit⟩

theorem Meets.grows {later : Disk} (h : d.Meets d' w p) (hgrows : d'.root.Grows later.root) :
    d.Meets later w p := by
  obtain ⟨q, hleads, hsame⟩ := h
  exact ⟨q, locateWith_of_grows hgrows hleads, hsame⟩

theorem edit_exportInto (hw : w.Named) (h : Artifacts.exportInto w data d = (r, d')) :
    Edit (d.Meets d' w) (fun _ => False) d d' := by
  unfold Artifacts.exportInto at h
  split at h
  · cases h
    exact .refl _
  split at h
  · cases h
    exact .refl _
  next q opened hopen =>
  have hlocate := locateWith_of_openToWrite hopen
  have hopened := edit_openToWrite hopen
  rw [locateWith_trimSlashes hw] at hlocate
  split at h
  · next hfill =>
    cases h
    rw [openToWrite_of_fill_error hopen hfill]
    exact .refl _
  next filled hfill =>
    cases h
    have hfilled : Edit (opened.SameFile q) (fun _ => False) opened d' := edit_fill hfill
    refine (hopened.trans (hfilled.mono (fun p hp => hp.of_edit hopened) fun _ _ => id)).mono
      (fun p hp => ⟨q, ?_, hp⟩) fun _ _ => id
    exact locateWith_of_grows (hopened.grows.trans (grows_of_fill hfill)) hlocate

theorem edit_exportFile (hw : w.Named) (h : Artifacts.exportFile w data d = (r, d')) :
    Edit (d.Meets d' w) (d'.OnWay w.parent) d d' := by
  have hparent : w.parent.Named := fun c hc => hw c ((List.dropLast_subset _) hc)
  unfold Artifacts.exportFile at h
  split at h
  · cases h
    exact .refl _
  split at h <;> next hmake =>
    have hmade := edit_makeWay hparent hmake
    first
    | have hwritten := edit_exportInto hw h
      refine (hmade.mono (fun _ => False.elim) fun p _ hp => ?_).trans
        (hwritten.mono (fun p hp => hp.later hmade) fun _ _ => False.elim)
      exact hp.grows hwritten.grows hwritten.current
    | cases h
      exact hmade.mono (fun _ => False.elim) fun _ _ => id

/-! ## Files one after the other -/

/-- A file of some artifacts has this name, below a root. -/
def MeetsAny (d d' : Disk) (root : Path) (files : List (Points × Bytes)) (p : Place) : Prop :=
  ∃ f ∈ files, d.Meets d' (Artifacts.target root f.1) p

/-- A place is on the way to a file of some artifacts. -/
def OnWays (d : Disk) (root : Path) (files : List (Points × Bytes)) (p : Place) : Prop :=
  ∃ f ∈ files, d.OnWay (Artifacts.target root f.1).parent p

/-- New and changed files are those that the paths of the artifacts lead to. -/
theorem edit_exportFiles (hways : ∀ f ∈ files, (Artifacts.target root f.1).Named)
    (h : Artifacts.exportFiles root files d = (r, d')) :
    Edit (d.MeetsAny d' root files) (d'.OnWays root files) d d' := by
  induction files generalizing d with
  | nil =>
    cases h
    exact .refl _
  | cons f rest ih =>
    obtain ⟨k, data⟩ := f
    have hthis := hways (k, data) (List.mem_cons_self ..)
    unfold Artifacts.exportFiles at h
    split at h
    · next between hfirst =>
      have hwritten := edit_exportFile hthis hfirst
      have hothers := ih (fun f hf => hways f (List.mem_cons_of_mem _ hf)) h
      refine (hwritten.mono (fun p hp => ?_) fun p _ hp => ?_).trans
        (hothers.mono (fun p hp => ?_) fun p _ hp => ?_)
      · exact ⟨_, List.mem_cons_self .., hp.grows hothers.grows⟩
      · exact ⟨_, List.mem_cons_self .., hp.grows hothers.grows hothers.current⟩
      · obtain ⟨f, hf, hmeets⟩ := hp
        exact ⟨f, List.mem_cons_of_mem _ hf, hmeets.later hwritten⟩
      · obtain ⟨f, hf, hway⟩ := hp
        exact ⟨f, List.mem_cons_of_mem _ hf, hway⟩
    · next hfirst =>
      cases h
      exact (edit_exportFile hthis hfirst).mono (fun p hp => ⟨_, List.mem_cons_self .., hp⟩)
        fun p _ hp => ⟨_, List.mem_cons_self .., hp⟩

/-- In an export that succeeds each file has been written in its turn. -/
theorem exportFile_of_exportFiles (hways : ∀ f ∈ files, (Artifacts.target root f.1).Named)
    (h : Artifacts.exportFiles root files d = (.ok (), d')) {f : Points × Bytes} (hf : f ∈ files) :
    ∃ before after, Artifacts.exportFile (Artifacts.target root f.1) f.2 before = (.ok (), after) ∧
      d.root.Grows before.root ∧ before.current = d.current := by
  induction files generalizing d with
  | nil => cases hf
  | cons g rest ih =>
    obtain ⟨k, data⟩ := g
    unfold Artifacts.exportFiles at h
    split at h
    · next between hfirst =>
      have hwritten := edit_exportFile (hways _ (List.mem_cons_self ..)) hfirst
      rcases List.mem_cons.mp hf with rfl | hrest
      · exact ⟨d, between, hfirst, .refl _, rfl⟩
      · obtain ⟨before, after, hexport, hgrows, hcurrent⟩ :=
          ih (fun f hf => hways f (List.mem_cons_of_mem _ hf)) h hrest
        exact ⟨before, after, hexport, hwritten.grows.trans hgrows,
          hcurrent.trans hwritten.current⟩
    · cases h

end Disk

end Worksheet
