-- What each action of an evaluation does to a plain disk: a file is opened, filled, a directory is
-- made, a scratch directory comes and goes.
import Worksheet.Proofs.PlainDisk

namespace Worksheet

open Text (Bytes Octets)

namespace Disk

variable {d d' : Disk} {place : Place}

/-! ## Contents -/

/-- If a file stands at the place, it has this content. -/
def HoldsOnly (d : Disk) (place : Place) (content : Bytes) : Prop :=
  ∀ found mode time group, d.node? place = some (.file found mode time group) → found = content

/-- A file with this content stands at the place. -/
def HasFile (d : Disk) (place : Place) (content : Bytes) : Prop :=
  ∃ mode time group, d.node? place = some (.file content mode time group)

theorem HasFile.holdsOnly {content : Bytes} (h : d.HasFile place content) :
    d.HoldsOnly place content := by
  obtain ⟨mode, time, group, hfile⟩ := h
  intro found mode' time' group' hfound
  cases hfile.symm.trans hfound
  rfl

theorem Change.holdsOnly {mine gone : Place → Prop} {content : Bytes} (h : Change mine gone d d')
    (hmine : ¬mine place) (hholds : d.HoldsOnly place content) : d'.HoldsOnly place content :=
  fun found mode time group hfound =>
    hholds found mode time group (h.fresh place _ hmine hfound rfl)

theorem Change.hasFile {mine gone : Place → Prop} {content : Bytes} (h : Change mine gone d d')
    (hmine : ¬mine place) (hgone : ¬gone place) (hfile : d.HasFile place content) :
    d'.HasFile place content := by
  obtain ⟨mode, time, group, hfile⟩ := hfile
  exact ⟨mode, time, group, h.kept place _ hmine hgone hfile rfl⟩

/-! ## Opening and filling -/

theorem isDirectory_of_mayChange {directory : Place} (h : d.mayChange directory = .ok ()) :
    ∃ n, d.node? directory = some n ∧ n.isDirectory = true := by
  unfold mayChange at h
  cases hn : d.node? directory with
  | none => simp [hn] at h
  | some n =>
    refine ⟨n, rfl, ?_⟩
    cases hdir : n.isDirectory with
    | true => rfl
    | false => simp [hn, hdir] at h

theorem openToWrite_new (hfits : d.Fits place) (mode : Mode) :
    Change (· = place) (fun _ => False) d (d.put place (.file [] mode d.changeTime 0)) ∧
      (d.put place (.file [] mode d.changeTime 0)).HasFile place [] :=
  ⟨change_put hfits rfl, mode, d.changeTime, 0, node?_put hfits rfl⟩

/-- A source or a bytecode file is opened at the place of its path. It is empty then, and no other
file is concerned. -/
theorem openToWrite_of_plain (h : d.root.Plain) {w : Way} (hw : w.Named) (hne : w.parts ≠ [])
    (hname : (w.destination d.current).IsGenerated) {mask : Mode}
    (hopen : d.openToWrite d.current mask true w.octets = .ok (place, d')) :
    place = w.destination d.current ∧ Change (· = place) (fun _ => False) d d' ∧
      d'.HasFile place [] := by
  unfold openToWrite at hopen
  rw [Way.trimSlashes_octets hw hne, Way.endsInSlash_octets hw hne] at hopen
  cases hlocate : d.locateWith true d.current w.octets with
  | error e => simp [hlocate] at hopen
  | ok found =>
    have hplace := locateWith_way h hw hlocate
    simp only [hlocate, Bool.false_eq_true, ↓reduceIte] at hopen
    cases hnode : d.node? found with
    | none =>
      cases hmay : d.mayChange found.dropLast with
      | error e => simp [hnode, hmay, Except.map] at hopen
      | ok =>
        simp only [hnode, hmay, Except.map, Except.ok.injEq, Prod.mk.injEq] at hopen
        obtain ⟨rfl, rfl⟩ := hopen
        exact ⟨hplace, openToWrite_new (Or.inr ⟨hnode, isDirectory_of_mayChange hmay⟩)
          (Mode.ofFile.without mask)⟩
    | some n =>
      have hordinary : n.IsOrdinary := h.ordinary found n (hplace ▸ hname) hnode
      rw [hnode] at hopen
      cases n with
      | directory mode modified entries => cases hopen
      | file content mode modified group =>
        cases hordinary
        dsimp only at hopen
        split at hopen
        · cases hopen
        · cases hopen
          exact ⟨hplace, openToWrite_new (Or.inl ⟨_, hnode, rfl⟩) mode⟩
      | _ => exact hordinary.elim

/-- What has been opened is filled, if it is still there. -/
theorem fill_of_plain (h : d.root.Plain) (hname : place.IsGenerated) {content : Bytes}
    (hfill : d.fill place content = .ok d') :
    Change (· = place) (fun _ => False) d d' ∧ d'.HoldsOnly place content ∧
      (∀ old, d.HasFile place old → d'.HasFile place content) := by
  unfold fill at hfill
  split at hfill
  · rename_i found mode time group hfound
    cases hfill
    cases h.ordinary place _ hname hfound
    have hfits : d.Fits place := Or.inl ⟨_, hfound, rfl⟩
    have hfile : (d.put place (.file content mode d.changeTime 0)).HasFile place content :=
      ⟨mode, d.changeTime, 0, node?_put hfits rfl⟩
    exact ⟨change_put hfits rfl, hfile.holdsOnly, fun _ _ => hfile⟩
  · rename_i hfull
    exact (h.ordinary place _ hname hfull).elim
  · rename_i hnofile _
    cases hfill
    refine ⟨.refl d, fun found mode time group hfound => ?_, ?_⟩
    · exact absurd hfound (hnofile found mode time group)
    · rintro old ⟨mode, time, group, hfile⟩
      exact absurd hfile (hnofile old mode time group)

/-! ## Directories -/

/-- A directory is made where nothing stands, so no file is concerned. -/
theorem change_put_directory (hnone : d.node? place = none)
    (habove : ∃ n, d.node? place.dropLast = some n ∧ n.isDirectory = true) {node : Node}
    (hnode : node.IsNew) (hdir : node.isDirectory = true) :
    Change (fun _ => False) (fun _ => False) d (d.put place node) := by
  have hfits : d.Fits place := Or.inr ⟨hnone, habove⟩
  have hput := change_put hfits hnode
  refine ⟨hput.current, hput.scratch, hput.count, hput.plain, ?_, ?_⟩
  · intro p n _ hn hfile
    by_cases hp : p = place
    · subst hp
      rw [node?_put hfits hnode] at hn
      cases hn
      rw [hdir] at hfile
      cases hfile
    · exact hput.fresh p n hp hn hfile
  · intro p n _ _ hn hfile
    by_cases hp : p = place
    · subst hp
      rw [hnone] at hn
      cases hn
    · exact hput.kept p n hp id hn hfile

theorem node?_of_freePlace {directory : Place} {raw : Octets}
    (h : d.freePlace directory raw = .ok place) :
    d.node? place = none ∧ ∃ n, d.node? place.dropLast = some n ∧ n.isDirectory = true := by
  unfold freePlace at h
  split at h
  · cases h
  · rename_i found _
    split at h
    · cases h
    · rename_i hnone
      cases hmay : d.mayChange found.dropLast with
      | error e => simp [hmay, Except.map] at h
      | ok =>
        rw [hmay] at h
        cases h
        exact ⟨hnone, isDirectory_of_mayChange hmay⟩

theorem locateWith_of_freePlace {directory : Place} {raw : Octets}
    (h : d.freePlace directory raw = .ok place) :
    d.locateWith false directory (Way.trimSlashes raw) = .ok place := by
  unfold freePlace at h
  split at h
  · cases h
  next found hfound =>
  split at h
  · cases h
  · cases hmay : d.mayChange found.dropLast with
    | error e => simp [hmay, Except.map] at h
    | ok =>
      rw [hmay] at h
      cases h
      exact hfound

theorem change_makeDirectory {directory : Place} {mask : Mode} {raw : Octets}
    (h : d.makeDirectory directory mask raw = .ok d') :
    Change (fun _ => False) (fun _ => False) d d' := by
  unfold makeDirectory at h
  cases hfree : d.freePlace directory raw with
  | error e => simp [hfree, Except.map] at h
  | ok found =>
    rw [hfree] at h
    cases h
    obtain ⟨hnone, habove⟩ := node?_of_freePlace hfree
    exact change_put_directory hnone habove rfl rfl

/-! ## Scratch directories -/

/-- The place of a scratch directory, by its number. -/
def scratchPlace (scratch : Place) (label : String) (number : Nat) : Place :=
  scratch ++ [Octets.ofString label ++ scratchSuffix number]

/-- A scratch directory is made where nothing stands. -/
theorem openScratch_put {label : String} (h : openScratch label d = (.ok place, d')) :
    place = scratchPlace d.scratch label d.scratchCount ∧
      ∃ found, d.freePlace d.current place.octets = .ok found ∧
        d' = { d.put found (.directory scratchMode d.changeTime []) with
          scratchCount := d.scratchCount + 1 } := by
  unfold openScratch makeScratch at h
  cases hfree : d.freePlace d.current
      (Place.octets (d.scratch ++ [Octets.ofString label ++ scratchSuffix d.scratchCount])) with
  | error e =>
    simp only [hfree, Except.map] at h
    cases h
  | ok found =>
    simp only [hfree, Except.map] at h
    cases h
    exact ⟨rfl, found, hfree, rfl⟩

/-- A scratch directory has a number that no other one has had. -/
theorem openScratch_spec {label : String} (h : openScratch label d = (.ok place, d')) :
    place = scratchPlace d.scratch label d.scratchCount ∧
      d'.scratchCount = d.scratchCount + 1 ∧ Change (fun _ => False) (fun _ => False) d d' := by
  obtain ⟨hplace, found, hfree, rfl⟩ := openScratch_put h
  obtain ⟨hnone, habove⟩ := node?_of_freePlace hfree
  have hput : Change (fun _ => False) (fun _ => False) d
      (d.put found (.directory scratchMode d.changeTime [])) :=
    change_put_directory hnone habove rfl rfl
  exact ⟨hplace, rfl, hput.current, hput.scratch, Nat.le_succ _, hput.plain, hput.fresh, hput.kept⟩

theorem openScratch_error {label : String} {fault : Fault}
    (h : openScratch label d = (.error fault, d')) : d' = d := by
  unfold openScratch at h
  split at h
  · cases h
  · cases h
    rfl

theorem change_erase (d : Disk) (place : Place) :
    Change (fun _ => False) (fun p => place <+: p) d (d.erase place) :=
  ⟨rfl, rfl, Nat.le_refl _, fun h => h.erase _ _,
    fun _ _ _ hn hdir => Node.at?_of_at?_erase hn hdir,
    fun _ _ _ hgone hn hdir => Node.at?_erase_of_not_prefix hgone hn hdir⟩

/-- With a scratch directory goes what stands in it, and nothing else goes. -/
theorem change_removeScratch (d : Disk) (place : Place) :
    Change (fun _ => False) (fun p => place <+: p) d (removeScratch place d).2 := by
  unfold removeScratch
  split
  · exact .refl d
  · split
    · exact .refl d
    · exact change_erase d place
  · split <;> exact .refl d
  · exact .refl d

end Disk

end Worksheet
