-- Where the files of artifacts are exported to. Artifacts that have been written file by file have
-- no key with two points in it, so below the root that they are exported to there are only names.
import Worksheet.Artifacts
import Worksheet.Proofs.LinkedWalks
import Worksheet.Proofs.ModuleFiles
import Worksheet.Proofs.Utf8RoundTrip

namespace Worksheet

open Text (Bytes CodePoint Octets Points)

/-! ## Names of texts -/

namespace Text

theorem mem_of_mem_split {α : Type} [DecidableEq α] {sep c : α} {cs p : List α}
    (hp : p ∈ split sep cs) (hc : c ∈ p) : c ∈ cs := by
  have hne : c ≠ sep := by
    rintro rfl
    exact not_mem_of_mem_split hp hc
  rw [← intercalate_split sep cs]
  exact (mem_intercalate_of_ne hne _).mpr ⟨p, hp, hc⟩

namespace FileName

theorem ofPoints_cons (p : CodePoint) (text : Points) :
    ofPoints (p :: text) = ofPoints [p] ++ ofPoints text := by
  unfold ofPoints
  rw [List.flatMap_cons, List.flatMap_singleton]

/-- A character in the ASCII range stands for itself. -/
theorem eq_of_mem_ofPoints {p : CodePoint} {c : Char} (hmem : c ∈ ofPoints [p])
    (hc : c.toNat < 0x80) : p = .ofChar c := by
  unfold ofPoints at hmem
  rw [List.flatMap_singleton] at hmem
  cases hstray : strayOctet? p with
  | some b =>
    rw [hstray] at hmem
    rw [List.mem_singleton.mp hmem] at hc
    unfold strayOctet? at hstray
    split at hstray
    · next hrange =>
      have hbounds : 0xDC80 ≤ p.val ∧ p.val ≤ 0xDCFF := by simpa using hrange
      have hvalid : (p.val - 0xDC00).isValidChar := Or.inl (by omega)
      rw [← Option.some.inj hstray, char_toNat_ofNat hvalid] at hc
      omega
    · cases hstray
  | none =>
    rw [hstray] at hmem
    obtain ⟨b, hb, rfl⟩ := List.mem_map.mp hmem
    rw [Octets.toNat_ofNat_byte] at hc
    have hvalue := Utf8.eq_of_mem_encodePoint p.isLt hb hc
    exact Fin.ext (hvalue.symm.trans (Octets.toNat_ofNat_byte b).symm)

theorem ofPoints_singleton_ne_nil (p : CodePoint) : ofPoints [p] ≠ [] := by
  have hencoded : Utf8.encodePoint p.val ≠ [] := by
    unfold Utf8.encodePoint
    split
    · exact List.cons_ne_nil _ _
    split
    · exact List.cons_ne_nil _ _
    split <;> exact List.cons_ne_nil _ _
  unfold ofPoints
  rw [List.flatMap_singleton]
  split
  · exact List.cons_ne_nil _ _
  · exact mt List.map_eq_nil_iff.mp hencoded

theorem ofPoints_ofChar_of_ascii {c : Char} (hc : c.toNat < 0x80) :
    ofPoints [.ofChar c] = [c] := by
  have hstring := ofPoints_ofString (String.ofList [c])
  rw [Octets.ofString_of_ascii (by simpa using hc)] at hstring
  rwa [Points.ofString, String.toList_ofList] at hstring

/-- A name of characters in the ASCII range is that of one text only. -/
theorem eq_ofChars_of_ascii {text : Points} (h : ∀ c ∈ ofPoints text, c.toNat < 0x80) :
    text = Points.ofChars (ofPoints text) := by
  induction text with
  | nil => rfl
  | cons p rest ih =>
    rw [ofPoints_cons] at h ⊢
    obtain ⟨c, more, hcons⟩ := List.exists_cons_of_ne_nil (ofPoints_singleton_ne_nil p)
    have hmem : c ∈ ofPoints [p] := hcons ▸ List.mem_cons_self ..
    have hc := h c (List.mem_append_left _ hmem)
    have hp : p = .ofChar c := eq_of_mem_ofPoints hmem hc
    have hrest := ih fun b hb => h b (List.mem_append_right _ hb)
    rw [hp, ofPoints_ofChar_of_ascii hc, List.singleton_append]
    unfold Points.ofChars at hrest ⊢
    rw [List.map_cons, ← hrest, ← hp]

theorem mem_of_mem_ofPoints {text : Points} {c : Char} (hmem : c ∈ ofPoints text)
    (hc : c.toNat < 0x80) : .ofChar c ∈ text := by
  induction text with
  | nil => cases hmem
  | cons p rest ih =>
    rw [ofPoints_cons] at hmem
    rcases List.mem_append.mp hmem with hfirst | hrest
    · rw [eq_of_mem_ofPoints hfirst hc]
      exact List.mem_cons_self ..
    · exact List.mem_cons_of_mem _ (ih hrest)

end FileName

end Text

/-- Components that a path can be made of and that lead down. -/
structure Disk.AreNames (parts : List Octets) : Prop where
  named : Named parts
  names : ∀ c ∈ parts, IsName c

namespace Disk.AreNames

variable {parts further : List Octets}

theorem above (h : AreNames parts) (hfurther : further <+: parts) : AreNames further :=
  ⟨fun c hc => h.named c (hfurther.subset hc), fun c hc => h.names c (hfurther.subset hc)⟩

theorem append (h : AreNames parts) (h' : AreNames further) : AreNames (parts ++ further) :=
  ⟨fun c hc => (List.mem_append.mp hc).elim (h.named c) (h'.named c),
    fun c hc => (List.mem_append.mp hc).elim (h.names c) (h'.names c)⟩

end Disk.AreNames

/-! ## Artifacts that have been written -/

namespace Artifacts

variable {a : Artifacts} {raw part : Points}

theorem isKeyPart_of_mem_partsOf (h : part ∈ partsOf raw) : IsKeyPart part := by
  obtain ⟨hpiece, hcomponent⟩ := List.mem_filter.mp h
  refine ⟨hcomponent, Text.not_mem_of_mem_split hpiece, fun hback => ?_⟩
  obtain ⟨c, -, hc⟩ := List.mem_map.mp (Text.mem_of_mem_split hpiece hback)
  split at hc
  · exact absurd hc (by decide)
  · next hne => exact hne hc

theorem mem_setFile {k : Points} {data : Bytes} {files : List (Points × Bytes)}
    {file : Points × Bytes} (h : file ∈ setFile k data files) : file.1 = k ∨ file ∈ files := by
  induction files with
  | nil => exact Or.inl (congrArg Prod.fst (List.mem_singleton.mp h))
  | cons entry rest ih =>
    obtain ⟨k', data'⟩ := entry
    unfold setFile at h
    split at h
    · next hk =>
      rcases List.mem_cons.mp h with rfl | hrest
      · exact Or.inl hk
      · exact Or.inr (List.mem_cons_of_mem _ hrest)
    · rcases List.mem_cons.mp h with rfl | hrest
      · exact Or.inr (List.mem_cons_self ..)
      · exact (ih hrest).imp_right (List.mem_cons_of_mem _)

/-- Artifacts that have been written file by file. -/
inductive Written : Artifacts → Prop
  | empty (name : String) : Written (.empty name)
  | write {a a' : Artifacts} {raw : Points} {data : Bytes} : Written a →
    a.write raw data = .ok a' → Written a'

/-- No key of theirs leads out of their root. -/
theorem Written.not_mem_partsOf (h : a.Written) {file : Points × Bytes} (hfile : file ∈ a.files) :
    parentPart ∉ partsOf file.1 := by
  induction h with
  | empty => cases hfile
  | @write a a' raw data _ hwrite ih =>
    unfold Artifacts.write key key? at hwrite
    split at hwrite
    · next k hkey =>
      cases hwrite
      split at hkey
      · cases hkey
      · next hinside =>
        cases hkey
        rcases mem_setFile hfile with hk | hold
        · rw [hk, partsOf_joinParts fun part hpart => isKeyPart_of_mem_partsOf hpart]
          intro hmem
          rw [List.contains_iff_mem.mpr hmem, Bool.or_true] at hinside
          exact hinside rfl
        · exact ih hold
    · cases hwrite

theorem written_of_loadFiles {d : Disk} {root : Path} {places : List Place}
    {a' : Artifacts} (ha : a.Written) (h : loadFiles d root places a = .ok a') : a'.Written := by
  induction places generalizing a with
  | nil =>
    cases h
    exact ha
  | cons below rest ih =>
    unfold loadFiles at h
    split at h
    · cases h
    · exact ih ha h
    · split at h
      · next hwrite => exact ih (ha.write hwrite) h
      · cases h

theorem written_of_load {d : Disk} {root : Path} {name : String}
    (h : load d root name = .ok a) : a.Written := by
  unfold load at h
  split at h
  · split at h
    · cases h
      exact .empty _
    · cases h
  · dsimp only at h
    split at h
    · cases h
    · exact written_of_loadFiles (.empty _) h

/-- What the components of a key are called on the disk. -/
def names (k : Points) : List Octets := (partsOf k).map Text.FileName.ofPoints

theorem Written.areNames (h : a.Written) {file : Points × Bytes} (hfile : file ∈ a.files) :
    Disk.AreNames (names file.1) := by
  have hascii : ∀ {part : Points} {cs : List Char}, Text.FileName.ofPoints part = cs →
      (∀ c ∈ cs, c.toNat < 0x80) → part = Points.ofChars cs := by
    rintro part cs rfl hcs
    exact Text.FileName.eq_ofChars_of_ascii hcs
  refine ⟨fun c hc => ?_, fun c hc => ?_⟩ <;> obtain ⟨part, hpart, rfl⟩ := List.mem_map.mp hc
  all_goals obtain ⟨hcomponent, hslash, -⟩ := isKeyPart_of_mem_partsOf hpart
  · refine ⟨fun hnil => ?_, fun hmem => hslash ?_⟩
    · rw [hascii hnil nofun] at hcomponent
      cases hcomponent
    · exact Text.FileName.mem_of_mem_ofPoints hmem (by decide)
  · refine ⟨fun hpoint => ?_, fun hpoints => ?_⟩
    · rw [hascii hpoint (by simp)] at hcomponent
      exact absurd hcomponent (by decide)
    · rw [hascii hpoints (by simp)] at hpart
      exact h.not_mem_partsOf hfile hpart

end Artifacts

end Worksheet
