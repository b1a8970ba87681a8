-- What it can mean that a file is opened to be written, and filled: it is made, it is replaced under
-- all its names, or it is no regular file and nothing changes.
import Worksheet.Proofs.WrittenFiles

namespace Worksheet

open Text (Bytes Octets)

namespace Disk

variable {d d' : Disk} {directory place : Place} {mask : Mode} {raw : Octets}

/-! ## Opening -/

/-- Something stands at the place that is written to, and is neither a regular file nor a
directory. -/
def IsSpecial (d : Disk) (place : Place) : Prop :=
  ∃ n, d.node? place = some n ∧ isRegular n = false ∧ n.isDirectory = false

theorem openToWrite_cases
    (h : d.openToWrite directory mask true raw = .ok (place, d')) :
    d.locateWith true directory (Way.trimSlashes raw) = .ok place ∧
      ((d.node? place = none ∧ (∃ n, d.node? place.dropLast = some n ∧ n.isDirectory = true) ∧
          d' = d.put place (.file [] (Mode.ofFile.without mask) d.changeTime 0)) ∨
        (∃ old mode time group, d.node? place = some (.file old mode time group) ∧
          d' = d.put place (.file [] mode d.changeTime group)) ∨
        (d.IsSpecial place ∧ d' = d)) := by
  refine ⟨locateWith_of_openToWrite h, ?_⟩
  unfold openToWrite at h
  split at h
  · cases h
  split at h
  · cases h
  split at h
  · next hnone =>
    obtain ⟨⟨⟩, hmay, heq⟩ := exists_of_map_ok h
    cases heq
    exact Or.inl ⟨hnone, isDirectory_of_mayChange hmay, rfl⟩
  · cases h
  · cases h
  · next old mode time group hold =>
    split at h
    · cases h
    · cases h
      exact Or.inr (Or.inl ⟨old, mode, time, group, hold, rfl⟩)
  · next n hnodirectory hnotool hnofile hn =>
    split at h
    · cases h
      refine Or.inr (Or.inr ⟨⟨n, hn, ?_, ?_⟩, rfl⟩)
      · cases n with
        | file content mode time group => exact absurd rfl (hnofile content mode time group)
        | tool name => exact absurd rfl (hnotool name)
        | _ => rfl
      · cases n with
        | directory mode time entries => exact absurd rfl (hnodirectory mode time entries)
        | _ => rfl
    · cases h

/-- What is opened to be written takes nothing away. -/
theorem grows_of_openToWrite (h : d.openToWrite directory mask true raw = .ok (place, d')) :
    d.root.Grows d'.root := by
  rcases (openToWrite_cases h).2 with ⟨hnone, -, rfl⟩ | ⟨old, mode, time, group, hold, rfl⟩ | ⟨-, rfl⟩
  · exact grows_put_new hnone rfl
  · exact (put_file hold [] mode d.changeTime group).1
  · exact .refl _

/-! ## Filling -/

theorem fill_cases {content : Bytes} (h : d.fill place content = .ok d') :
    (∃ old mode time group, d.node? place = some (.file old mode time group) ∧
      d' = d.put place (.file content mode d.changeTime group)) ∨
    ((∀ old mode time group, d.node? place ≠ some (.file old mode time group)) ∧ d' = d) := by
  unfold fill at h
  split at h
  · next old mode time group hold =>
    cases h
    exact Or.inl ⟨old, mode, time, group, hold, rfl⟩
  · next hfull =>
    refine Or.inr ⟨fun old mode time group hold => ?_, ?_⟩
    · cases hfull.symm.trans hold
    · split at h
      · exact (Except.ok.inj h).symm
      · cases h
  · next hnofile _ => exact Or.inr ⟨hnofile, (Except.ok.inj h).symm⟩

theorem grows_of_fill {content : Bytes} (h : d.fill place content = .ok d') :
    d.root.Grows d'.root := by
  rcases fill_cases h with ⟨old, mode, time, group, hold, rfl⟩ | ⟨-, rfl⟩
  · exact (put_file hold content mode d.changeTime group).1
  · exact .refl _

/-! ## Written paths -/

/-- Seen from a directory, a path leads to a place where something stands, and if it is a regular
file, then with this content. -/
structure Holds (d : Disk) (directory : Place) (raw : Octets) (place : Place) (content : Bytes) :
    Prop where
  leads : d.locateWith true directory raw = .ok place
  stands : ∃ n, d.node? place = some n ∧ n.isDirectory = false ∧
    (isRegular n = true → ∃ mode time group, n = .file content mode time group)

theorem Holds.of_root {content : Bytes} (h : d.Holds directory raw place content)
    (hroot : d'.root = d.root) : d'.Holds directory raw place content := by
  refine ⟨(locateWith_of_root hroot ..).trans h.leads, ?_⟩
  unfold node?
  rw [hroot]
  exact h.stands

theorem Shows.holds {content : Bytes} {mode : Mode} (h : d.Shows directory raw place content mode) :
    d.Holds directory raw place content := by
  obtain ⟨time, group, hfile⟩ := h.file
  exact ⟨h.leads, _, hfile, rfl, fun _ => ⟨mode, time, group, rfl⟩⟩

theorem holds_of_openToWrite (htrim : Way.trimSlashes raw = raw)
    (h : d.openToWrite directory mask true raw = .ok (place, d')) :
    d'.Holds directory raw place [] := by
  have hgrows := grows_of_openToWrite h
  obtain ⟨hlocate, hcases⟩ := openToWrite_cases h
  rw [htrim] at hlocate
  refine ⟨locateWith_of_grows hgrows hlocate, ?_⟩
  rcases hcases with ⟨hnone, habove, rfl⟩ | ⟨old, mode, time, group, hold, rfl⟩ |
    ⟨⟨n, hn, hirregular, hdir⟩, rfl⟩
  · exact ⟨_, node?_put (Or.inr ⟨hnone, habove⟩) rfl, rfl, fun _ => ⟨_, _, _, rfl⟩⟩
  · exact ⟨_, (put_file hold [] mode d.changeTime group).2, rfl, fun _ => ⟨_, _, _, rfl⟩⟩
  · exact ⟨n, hn, hdir, fun hregular => by rw [hirregular] at hregular; cases hregular⟩

theorem Holds.fill {old content : Bytes} (h : d.Holds directory raw place old)
    (hfill : d.fill place content = .ok d') : d'.Holds directory raw place content := by
  obtain ⟨n, hn, hdir, hregular⟩ := h.stands
  refine ⟨locateWith_of_grows (grows_of_fill hfill) h.leads, ?_⟩
  rcases fill_cases hfill with ⟨found, mode, time, group, hfound, rfl⟩ | ⟨hnofile, rfl⟩
  · exact ⟨_, (put_file hfound content mode d.changeTime group).2, rfl, fun _ => ⟨_, _, _, rfl⟩⟩
  · refine ⟨n, hn, hdir, fun hfile => ?_⟩
    obtain ⟨mode, time, group, rfl⟩ := hregular hfile
    exact absurd hn (hnofile _ _ _ _)

end Disk

end Worksheet
