-- Artifacts are kept by the normal form of their paths. After any writes, a path finds what has
-- last been written under its normal form, whatever spelling it was written with, and the normal
-- forms are listed once each and in order.
import Mathlib.Data.List.Induction
import Worksheet.Proofs.ExportedNames

namespace Worksheet

open Text (Bytes CodePoint Points)

namespace Artifacts

variable {a a' : Artifacts} {raw k part : Points} {data : Bytes}

/-! ## Normal forms -/

/-- The text with a slash for each backslash. -/
def slashed (raw : Points) : Points := raw.map fun c => if c = backslash then slash else c

/-- A path that leads to something below: it is relative, and no component of it leads up. -/
structure Inside (raw : Points) : Prop where
  relative : (slashed raw).head? ≠ some slash
  below : parentPart ∉ Text.split slash (slashed raw)

/-- A path that is its own normal form. -/
structure Canonical (k : Points) : Prop where
  relative : k.head? ≠ some slash
  noBackslash : backslash ∉ k
  noParent : parentPart ∉ Text.split slash k
  noEmpty : [] ∉ Text.split slash k
  point : Points.ofString "." ∈ Text.split slash k → k = Points.ofString "."

theorem slash_ne_backslash : slash ≠ backslash := by decide

theorem isAbsolute_iff : isAbsolute raw = true ↔ (slashed raw).head? = some slash := by
  unfold isAbsolute slashed
  cases raw with
  | nil => simp
  | cons c rest =>
    by_cases hc : c = backslash
    · subst hc
      simp
    · simp [hc]

theorem mem_partsOf_iff :
    part ∈ partsOf raw ↔ part ∈ Text.split slash (slashed raw) ∧ isComponent part = true :=
  List.mem_filter

theorem parentPart_mem_partsOf_iff :
    parentPart ∈ partsOf raw ↔ parentPart ∈ Text.split slash (slashed raw) :=
  mem_partsOf_iff.trans (and_iff_left (by decide))

theorem inside_iff :
    Inside raw ↔ (isAbsolute raw || (partsOf raw).contains parentPart) = false := by
  rw [Bool.or_eq_false_iff, ← Bool.not_eq_true, isAbsolute_iff, ← Bool.not_eq_true,
    List.contains_iff_mem, parentPart_mem_partsOf_iff]
  exact ⟨fun h => ⟨h.relative, h.below⟩, fun h => ⟨h.1, h.2⟩⟩

theorem key?_of_inside (h : Inside raw) : key? raw = some (joinParts (partsOf raw)) := by
  unfold key?
  rw [inside_iff.mp h]
  rfl

theorem key?_eq_none_iff : key? raw = none ↔ ¬Inside raw := by
  constructor
  · intro h hinside
    rw [key?_of_inside hinside] at h
    cases h
  · intro h
    rw [inside_iff, Bool.not_eq_false] at h
    exact if_pos h

theorem slashed_eq_self (h : backslash ∉ raw) : slashed raw = raw := by
  refine (List.map_congr_left fun c hc => if_neg ?_).trans (List.map_id raw)
  rintro rfl
  exact h hc

/-- What is joined of components that lead down is in normal form. -/
theorem canonical_joinParts {parts : List Points} (hparts : ∀ part ∈ parts, IsKeyPart part)
    (hparent : parentPart ∉ parts) : Canonical (joinParts parts) := by
  by_cases hnil : parts = []
  · subst hnil
    exact ⟨by decide, by decide, by decide, by decide, fun _ => rfl⟩
  have hjoin : joinParts parts = [slash].intercalate parts := if_neg hnil
  have hsplit : Text.split slash (joinParts parts) = parts := by
    rw [hjoin, Text.split_eq_splitOn,
      List.splitOn_intercalate slash (fun part hpart => (hparts part hpart).2.1) hnil]
  have hempty : [] ∉ parts := fun hmem => Bool.noConfusion (hparts _ hmem).1
  refine ⟨fun hhead => ?_, fun hback => ?_, ?_, ?_, fun hpoint => ?_⟩
  · obtain ⟨rest, hrest⟩ := List.head?_eq_some_iff.mp hhead
    rw [hrest, Text.split_eq_splitOn] at hsplit
    have hfirst : (slash :: rest).splitOn slash = [] :: rest.splitOn slash :=
      List.splitOn_append_cons_self [] rest
    rw [hfirst] at hsplit
    exact hempty (hsplit ▸ List.mem_cons_self ..)
  · rw [hjoin] at hback
    obtain ⟨part, hpart, hmem⟩ :=
      (Text.mem_intercalate_of_ne slash_ne_backslash.symm parts).mp hback
    exact (hparts part hpart).2.2 hmem
  · rwa [hsplit]
  · rwa [hsplit]
  · rw [hsplit] at hpoint
    exact absurd (hparts _ hpoint).1 (by decide)

theorem canonical_of_key? (h : key? raw = some k) : Canonical k := by
  have hinside : Inside raw := Classical.byContradiction fun hout => by
    rw [key?_eq_none_iff.mpr hout] at h
    cases h
  rw [key?_of_inside hinside] at h
  cases h
  exact canonical_joinParts (fun part hpart => isKeyPart_of_mem_partsOf hpart)
    (mt parentPart_mem_partsOf_iff.mp hinside.below)

/-- A normal form is the normal form of itself. -/
theorem key?_of_canonical (h : Canonical k) : key? k = some k := by
  have hself : slashed k = k := slashed_eq_self h.noBackslash
  have hinside : Inside k := ⟨hself.symm ▸ h.relative, hself.symm ▸ h.noParent⟩
  rw [key?_of_inside hinside]
  by_cases hpoint : k = Points.ofString "."
  · subst hpoint
    decide
  · have hparts : partsOf k = Text.split slash k := by
      unfold partsOf
      rw [show k.map _ = k from hself]
      refine List.filter_eq_self.mpr fun part hpart => ?_
      have hne : part ≠ [] := fun hnil => h.noEmpty (hnil ▸ hpart)
      have hnopoint : part ≠ Points.ofString "." := fun heq => hpoint (h.point (heq ▸ hpart))
      simp [isComponent, hne, hnopoint]
    have hnil : Text.split slash k ≠ [] := by
      rw [← List.length_pos_iff, Text.length_split]
      omega
    unfold joinParts
    rw [hparts, if_neg hnil, Text.intercalate_split]

/-- The normal form of a path has the components of the path that say where to go. -/
theorem key?_eq_some_iff :
    key? raw = some k ↔ Inside raw ∧ Canonical k ∧ partsOf k = partsOf raw := by
  have hparts : partsOf (joinParts (partsOf raw)) = partsOf raw :=
    partsOf_joinParts fun part hpart => isKeyPart_of_mem_partsOf hpart
  constructor
  · intro h
    have hcanonical := canonical_of_key? h
    have hinside : Inside raw := Classical.byContradiction fun hout => by
      rw [key?_eq_none_iff.mpr hout] at h
      cases h
    rw [key?_of_inside hinside] at h
    cases h
    exact ⟨hinside, hcanonical, hparts⟩
  · rintro ⟨hinside, hcanonical, hsame⟩
    have hk := key?_of_canonical hcanonical
    have hkinside : Inside k := Classical.byContradiction fun hout => by
      rw [key?_eq_none_iff.mpr hout] at hk
      cases hk
    rw [key?_of_inside hkinside, hsame] at hk
    rw [key?_of_inside hinside, hk]

/-! ## Files -/

theorem lookup_setFile (k k' : Points) (data : Bytes) (files : List (Points × Bytes)) :
    (setFile k data files).lookup k' = if k' = k then some data else files.lookup k' := by
  induction files with
  | nil =>
    unfold setFile
    rw [List.lookup_cons]
    by_cases hk : k' = k
    · simp [hk]
    · simp [hk, beq_false_of_ne hk]
  | cons entry rest ih =>
    obtain ⟨k₁, d⟩ := entry
    unfold setFile
    by_cases hsame : k₁ = k
    · subst hsame
      rw [if_pos rfl, List.lookup_cons, List.lookup_cons]
      by_cases hk : k' = k₁
      · simp [hk]
      · simp [hk, beq_false_of_ne hk]
    · rw [if_neg hsame, List.lookup_cons, List.lookup_cons, ih]
      by_cases hk : k' = k₁
      · subst hk
        simp [hsame]
      · simp [beq_false_of_ne hk]

/-- A path that is new comes last. -/
theorem setFile_of_not_mem {files : List (Points × Bytes)} (h : k ∉ files.map (·.1)) :
    setFile k data files = files ++ [(k, data)] := by
  induction files with
  | nil => rfl
  | cons entry rest ih =>
    obtain ⟨hne, hrest⟩ := not_or.mp (mt List.mem_cons.mpr h)
    unfold setFile
    rw [if_neg (Ne.symm hne), ih hrest]
    rfl

/-- A path that is known keeps its place. -/
theorem keys_setFile_of_mem {files : List (Points × Bytes)} (h : k ∈ files.map (·.1)) :
    (setFile k data files).map (·.1) = files.map (·.1) := by
  induction files with
  | nil => cases h
  | cons entry rest ih =>
    unfold setFile
    split
    · rfl
    · next hne =>
      rw [List.map_cons, ih ((List.mem_cons.mp h).resolve_left (Ne.symm hne))]
      rfl

theorem mem_keys_setFile_iff {files : List (Points × Bytes)} {k' : Points} :
    k' ∈ (setFile k data files).map (·.1) ↔ k' = k ∨ k' ∈ files.map (·.1) := by
  by_cases hmem : k ∈ files.map (·.1)
  · rw [keys_setFile_of_mem hmem]
    exact ⟨Or.inr, fun h => h.elim (fun heq => heq ▸ hmem) id⟩
  · rw [setFile_of_not_mem hmem, List.map_append, List.mem_append, List.map_singleton,
      List.mem_singleton]
    exact or_comm

theorem nodup_setFile {files : List (Points × Bytes)} (h : (files.map (·.1)).Nodup) :
    ((setFile k data files).map (·.1)).Nodup := by
  by_cases hmem : k ∈ files.map (·.1)
  · rwa [keys_setFile_of_mem hmem]
  · rw [setFile_of_not_mem hmem, List.map_append, List.map_singleton, List.nodup_append]
    refine ⟨h, by simp, fun k₁ hk₁ k₂ hk₂ => ?_⟩
    rintro rfl
    obtain rfl := List.mem_singleton.mp hk₂
    exact hmem hk₁

end Artifacts

/-! ## Order -/

namespace Text.Points

theorem precedes_iff {s t : Points} : s.precedes t = true ↔ ¬t < s := by
  induction s generalizing t with
  | nil => simp [precedes]
  | cons a s ih =>
    cases t with
    | nil => simp [precedes]
    | cons b t =>
      unfold precedes
      rw [List.cons_lt_cons_iff]
      by_cases hlt : a.val < b.val
      · simp only [hlt, if_true, true_iff]
        rintro (hback | ⟨rfl, -⟩)
        · exact absurd hlt (Nat.lt_asymm hback)
        · exact absurd hlt (Nat.lt_irrefl _)
      · by_cases hgt : b.val < a.val
        · simp only [hlt, hgt, if_true, if_false, Bool.false_eq_true, false_iff]
          exact fun hnot => hnot (Or.inl hgt)
        · obtain rfl : a = b := Fin.ext (by omega)
          simp only [hlt, if_false, ih]
          simp

/-- Texts without repetition are sorted to one after the other. -/
theorem pairwise_lt_mergeSort {texts : List Points} (h : texts.Nodup) :
    (texts.mergeSort precedes).Pairwise (· < ·) := by
  have hsorted : (texts.mergeSort precedes).Pairwise fun a b => a.precedes b = true := by
    refine List.pairwise_mergeSort (fun a b c hab hbc => ?_) (fun a b => ?_) texts
    · rw [precedes_iff, List.not_lt] at hab hbc ⊢
      exact List.le_trans hab hbc
    · rw [Bool.or_eq_true, precedes_iff, precedes_iff, List.not_lt, List.not_lt]
      exact List.le_total a b
  have hdifferent : (texts.mergeSort precedes).Nodup :=
    (List.mergeSort_perm texts precedes).nodup_iff.mpr h
  refine (hsorted.and hdifferent).imp fun {a b} hab => ?_
  refine Classical.byContradiction fun hnot => hab.2 ?_
  exact List.le_antisymm (List.not_lt.mp (precedes_iff.mp hab.1)) (List.not_lt.mp hnot)

end Text.Points

namespace Artifacts

variable {a : Artifacts} {raw k : Points} {data : Bytes}

/-! ## Writes -/

theorem write_of_key (h : key? raw = some k) (a : Artifacts) (data : Bytes) :
    a.write raw data = .ok { a with files := setFile k data a.files } := by
  unfold write key
  rw [h]
  rfl

theorem write_of_no_key (h : key? raw = none) (a : Artifacts) (data : Bytes) :
    a.write raw data = .error (.outside raw) := by
  unfold write key
  rw [h]
  rfl

theorem read_of_key (h : key? raw = some k) (a : Artifacts) :
    a.read raw = (a.files.lookup k).elim (.error (.missing k)) .ok := by
  unfold read key
  rw [h]
  dsimp only
  cases a.files.lookup k <;> rfl

theorem contains_of_key (h : key? raw = some k) (a : Artifacts) :
    a.contains raw = .ok (a.files.lookup k).isSome := by
  unfold contains key
  rw [h]
  rfl

/-- A write that is refused leaves everything as it is. -/
def tryWrite (a : Artifacts) (w : Points × Bytes) : Artifacts :=
  match a.write w.1 w.2 with
  | .ok a' => a'
  | .error _ => a

def afterWrites (a : Artifacts) (writes : List (Points × Bytes)) : Artifacts :=
  writes.foldl tryWrite a

theorem afterWrites_concat (a : Artifacts) (writes : List (Points × Bytes)) (w : Points × Bytes) :
    a.afterWrites (writes ++ [w]) = (a.afterWrites writes).tryWrite w := by
  unfold afterWrites
  rw [List.foldl_append, List.foldl_cons, List.foldl_nil]

/-- The latest of the writes under a normal form wrote this. -/
def Latest (writes : List (Points × Bytes)) (k : Points) (data : Bytes) : Prop :=
  ∃ before raw after, writes = before ++ (raw, data) :: after ∧ key? raw = some k ∧
    ∀ w ∈ after, key? w.1 ≠ some k

theorem latest_concat_self (writes : List (Points × Bytes)) {new : Bytes}
    (h : key? raw = some k) : Latest (writes ++ [(raw, new)]) k data ↔ new = data := by
  constructor
  · rintro ⟨before, raw', after, heq, -, hafter⟩
    rcases List.eq_nil_or_concat after with rfl | ⟨init, last, rfl⟩
    · have hlast := List.append_inj_right' heq rfl
      cases hlast
      rfl
    · rw [List.concat_eq_append, ← List.cons_append, ← List.append_assoc] at heq
      have hlast := List.append_inj_right' heq rfl
      cases hlast
      exact absurd h (hafter (raw, new) (by simp))
  · rintro rfl
    exact ⟨writes, raw, [], rfl, h, nofun⟩

theorem latest_concat_ne (writes : List (Points × Bytes)) {w : Points × Bytes}
    (h : key? w.1 ≠ some k) : Latest (writes ++ [w]) k data ↔ Latest writes k data := by
  constructor
  · rintro ⟨before, raw', after, heq, hraw, hafter⟩
    rcases List.eq_nil_or_concat after with rfl | ⟨init, last, rfl⟩
    · have hlast := List.append_inj_right' heq rfl
      cases hlast
      exact absurd hraw h
    · rw [List.concat_eq_append, ← List.cons_append, ← List.append_assoc] at heq
      refine ⟨before, raw', init, List.append_inj_left' heq rfl, hraw, fun w' hw' => ?_⟩
      exact hafter w' (by simp [hw'])
  · rintro ⟨before, raw', after, rfl, hraw, hafter⟩
    refine ⟨before, raw', after ++ [w], by simp, hraw, fun w' hw' => ?_⟩
    rcases List.mem_append.mp hw' with hold | hnew
    · exact hafter w' hold
    · rw [List.mem_singleton.mp hnew]
      exact h

/-- What artifacts hold after some writes. -/
structure Reflects (a : Artifacts) (writes : List (Points × Bytes)) : Prop where
  latest : ∀ k data, a.files.lookup k = some data ↔ Latest writes k data
  keys : ∀ k, k ∈ a.files.map (·.1) ↔ ∃ w ∈ writes, key? w.1 = some k
  single : (a.files.map (·.1)).Nodup

theorem reflects_empty (name : String) : (empty name).Reflects [] := by
  refine ⟨fun k data => ⟨nofun, ?_⟩, fun k => ⟨nofun, ?_⟩, List.nodup_nil⟩
  · rintro ⟨before, raw, after, heq, -⟩
    cases before <;> cases heq
  · rintro ⟨w, ⟨⟩, -⟩

theorem Reflects.tryWrite {writes : List (Points × Bytes)} (h : a.Reflects writes)
    (w : Points × Bytes) : (a.tryWrite w).Reflects (writes ++ [w]) := by
  obtain ⟨raw, data⟩ := w
  have hkeys : ∀ k, (∃ w ∈ writes ++ [(raw, data)], key? w.1 = some k) ↔
      key? raw = some k ∨ ∃ w ∈ writes, key? w.1 = some k := by
    intro k
    simp [or_and_right, exists_or, or_comm]
  unfold Artifacts.tryWrite
  cases hkey : key? raw with
  | none =>
    rw [write_of_no_key hkey]
    refine ⟨fun k data' => ?_, fun k => ?_, h.single⟩
    · rw [h.latest, latest_concat_ne writes (by simp [hkey])]
    · rw [h.keys, hkeys, hkey]
      exact (or_iff_right nofun).symm
  | some k₀ =>
    rw [write_of_key hkey]
    refine ⟨fun k data' => ?_, fun k => ?_, nodup_setFile h.single⟩
    · dsimp only
      rw [lookup_setFile]
      by_cases hk : k = k₀
      · rw [if_pos hk, latest_concat_self writes (hk ▸ hkey)]
        exact ⟨Option.some.inj, congrArg some⟩
      · rw [if_neg hk, h.latest, latest_concat_ne writes]
        rw [hkey]
        exact fun heq => hk (Option.some.inj heq).symm
    · rw [mem_keys_setFile_iff, h.keys, hkeys, hkey, Option.some.injEq]
      exact or_congr_left eq_comm

theorem reflects_afterWrites (name : String) (writes : List (Points × Bytes)) :
    ((empty name).afterWrites writes).Reflects writes := by
  induction writes using List.reverseRecOn with
  | nil => exact reflects_empty name
  | append_singleton writes w ih =>
    rw [afterWrites_concat]
    exact ih.tryWrite w

/-- When no two writes under one normal form differ, each of them can be read. -/
theorem Reflects.lookup_iff {writes : List (Points × Bytes)} (h : a.Reflects writes)
    (hsame : ∀ w ∈ writes, ∀ w' ∈ writes, key? w.1 = some k → key? w'.1 = some k → w.2 = w'.2) :
    a.files.lookup k = some data ↔ ∃ w ∈ writes, key? w.1 = some k ∧ w.2 = data := by
  have hfrom : ∀ {data : Bytes}, a.files.lookup k = some data →
      ∃ w ∈ writes, key? w.1 = some k ∧ w.2 = data := by
    intro data hdata
    obtain ⟨before, raw, after, rfl, hraw, -⟩ := (h.latest k data).mp hdata
    exact ⟨(raw, data), by simp, hraw, rfl⟩
  refine ⟨hfrom, ?_⟩
  rintro ⟨w, hw, hkey, rfl⟩
  obtain ⟨found, hfound⟩ :=
    Option.isSome_iff_exists.mp (isSome_lookup_iff.mpr ((h.keys k).mpr ⟨w, hw, hkey⟩))
  obtain ⟨w', hw', hkey', rfl⟩ := hfrom hfound
  rw [hfound, hsame w hw w' hw' hkey hkey']

/-- When each key has been written with one content only, the files are what has been written. -/
theorem Reflects.mem_files_iff {writes : List (Points × Bytes)} (h : a.Reflects writes)
    (hkey : ∀ w ∈ writes, key? w.1 = some w.1)
    (hsame : ∀ w ∈ writes, ∀ w' ∈ writes, w.1 = w'.1 → w.2 = w'.2) (f : Points × Bytes) :
    f ∈ a.files ↔ f ∈ writes := by
  obtain ⟨k, data⟩ := f
  have hwritten : ∀ w ∈ writes, key? w.1 = some k → w.1 = k := fun w hw hk =>
    Option.some.inj ((hkey w hw).symm.trans hk)
  rw [← lookup_eq_some_iff_mem h.single, h.lookup_iff fun w hw w' hw' hk hk' =>
    hsame w hw w' hw' ((hwritten w hw hk).trans (hwritten w' hw' hk').symm)]
  constructor
  · rintro ⟨w, hw, hk, rfl⟩
    exact hwritten w hw hk ▸ hw
  · intro hw
    exact ⟨(k, data), hw, hkey _ hw, rfl⟩

/-- Artifacts that have been written file by file hold what has been written. -/
theorem Written.reflects (h : a.Written) : ∃ writes, a.Reflects writes := by
  induction h with
  | empty name => exact ⟨[], reflects_empty name⟩
  | @write a a' raw data _ hwrite ih =>
    obtain ⟨writes, hreflects⟩ := ih
    have htry : a.tryWrite (raw, data) = a' := by
      unfold Artifacts.tryWrite
      rw [hwrite]
    exact ⟨writes ++ [(raw, data)], htry ▸ hreflects.tryWrite (raw, data)⟩

theorem Reflects.key?_of_mem {writes : List (Points × Bytes)} (h : a.Reflects writes)
    (hk : k ∈ a.files.map (·.1)) : key? k = some k := by
  obtain ⟨w, -, hw⟩ := (h.keys k).mp hk
  exact key?_of_canonical (canonical_of_key? hw)

/-- The order in which artifacts list their keys depends on the keys only. -/
theorem toList_eq_of_keys {b : Artifacts} (ha : (a.files.map (·.1)).Nodup)
    (hb : (b.files.map (·.1)).Nodup)
    (h : ∀ k, k ∈ a.files.map (·.1) ↔ k ∈ b.files.map (·.1)) : a.toList = b.toList := by
  have hperm := (List.perm_ext_iff_of_nodup ha hb).mpr fun k => h k
  refine List.Perm.eq_of_pairwise (fun k k' _ _ hlt hgt => ?_)
    (Text.Points.pairwise_lt_mergeSort ha) (Text.Points.pairwise_lt_mergeSort hb)
    (((List.mergeSort_perm ..).trans hperm).trans (List.mergeSort_perm ..).symm)
  exact absurd hgt (List.lt_asymm hlt)

/-- Every path is kept by its normal form, which is its own, and which paths have in common that
name the same components. Exactly the paths that are absolute or lead up are refused, and change
nothing. All others find what has last been written under their normal form, whichever of its paths
that was written with, and nothing if there is no such write. The normal forms are listed in their
order, each of them once. -/
theorem paths_find_what_was_written_under_their_normal_form (name : String)
    (writes : List (Points × Bytes)) :
    let a := (empty name).afterWrites writes
    (∀ raw k, key? raw = some k ↔ Inside raw ∧ Canonical k ∧ partsOf k = partsOf raw) ∧
      (∀ k ∈ a.files.map (·.1), Canonical k ∧ key? k = some k) ∧
      (∀ raw data, ((∃ fault, a.write raw data = .error fault) ↔ ¬Inside raw) ∧
        ∀ fault, a.write raw data = .error fault →
          fault.className = "ValueError" ∧ a.tryWrite (raw, data) = a) ∧
      (∀ raw k, key? raw = some k →
        (∀ data, a.read raw = .ok data ↔ Latest writes k data) ∧
        ((¬∃ w ∈ writes, key? w.1 = some k) →
          ∃ fault, a.read raw = .error fault ∧ fault.className = "KeyError") ∧
        ∃ there, a.contains raw = .ok there ∧
          (there = true ↔ ∃ w ∈ writes, key? w.1 = some k)) ∧
      a.toList.Pairwise (· < ·) ∧
      (∀ k, k ∈ a.toList ↔ ∃ w ∈ writes, key? w.1 = some k) ∧
      a.size = a.toList.length := by
  intro a
  have hreflects : a.Reflects writes := reflects_afterWrites name writes
  have hmem : ∀ k, k ∈ a.toList ↔ k ∈ a.files.map (·.1) := fun k => List.mem_mergeSort
  refine ⟨fun raw k => key?_eq_some_iff, fun k hk => ?_, fun raw data => ?_, fun raw k hkey => ?_,
    Text.Points.pairwise_lt_mergeSort hreflects.single, fun k => (hmem k).trans (hreflects.keys k),
    ?_⟩
  · obtain ⟨w, -, hw⟩ := (hreflects.keys k).mp hk
    exact ⟨canonical_of_key? hw, key?_of_canonical (canonical_of_key? hw)⟩
  · cases hkey : key? raw with
    | none =>
      have hwrite := write_of_no_key hkey a data
      refine ⟨⟨fun _ => key?_eq_none_iff.mp hkey, fun _ => ⟨_, hwrite⟩⟩, fun fault hfault => ?_⟩
      cases hwrite.symm.trans hfault
      refine ⟨rfl, ?_⟩
      unfold Artifacts.tryWrite
      rw [hwrite]
    | some k =>
      have hwrite := write_of_key hkey a data
      refine ⟨⟨fun ⟨fault, hfault⟩ => ?_, fun hout => ?_⟩, fun fault hfault => ?_⟩
      · cases hwrite.symm.trans hfault
      · cases hkey.symm.trans (key?_eq_none_iff.mpr hout)
      · cases hwrite.symm.trans hfault
  · have hfound : (a.files.lookup k).isSome = true ↔ ∃ w ∈ writes, key? w.1 = some k :=
      isSome_lookup_iff.trans (hreflects.keys k)
    refine ⟨fun data => ?_, fun hno => ⟨.missing k, ?_, rfl⟩, _, contains_of_key hkey a, hfound⟩
    · rw [← hreflects.latest, read_of_key hkey]
      cases a.files.lookup k <;> simp
    · have hnone : a.files.lookup k = none := by
        rw [← Option.not_isSome_iff_eq_none, hfound]
        exact hno
      rw [read_of_key hkey, hnone]
      rfl
  · unfold size toList
    rw [List.length_mergeSort, List.length_map]

/-- Two spellings of one path share what the later of them has written, and a path that leads up
has written nothing. -/
theorem two_spellings_share_what_is_written :
    let a := (empty "d").afterWrites
      [(.ofString "a\\b", [1]), (.ofString "../x", [2]), (.ofString "a//b/.", [3])]
    (∀ data, a.read (.ofString "./a/b") = .ok data ↔ data = [3]) ∧
      (∃ fault, a.write (.ofString "../x") [2] = .error fault) ∧
      (∃ fault, a.read (.ofString "x") = .error fault ∧ fault.className = "KeyError") ∧
      ∀ k, k ∈ a.toList ↔ k = .ofString "a/b" := by
  intro a
  obtain ⟨-, -, hrefused, hfound, -, hlisted, -⟩ :=
    paths_find_what_was_written_under_their_normal_form "d"
      [(.ofString "a\\b", [1]), (.ofString "../x", [2]), (.ofString "a//b/.", [3])]
  have hfirst : key? (.ofString "a\\b") = some (.ofString "a/b") := by decide
  have hup : key? (.ofString "../x") = none := by decide
  have hlast : key? (.ofString "a//b/.") = some (.ofString "a/b") := by decide
  refine ⟨fun data => ?_, (hrefused _ _).1.mpr (key?_eq_none_iff.mp hup), ?_, fun k => ?_⟩
  · refine ((hfound _ (.ofString "a/b") (by decide)).1 data).trans (Iff.trans ?_ eq_comm)
    exact latest_concat_self [(.ofString "a\\b", [1]), (.ofString "../x", [2])] hlast
  · refine (hfound (.ofString "x") (.ofString "x") (by decide)).2.1 ?_
    simp [hfirst, hup, hlast]
    decide
  · rw [hlisted]
    simp [hfirst, hup, hlast, eq_comm]

end Artifacts

end Worksheet
