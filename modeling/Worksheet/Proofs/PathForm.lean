-- Paths and the ways that they are given to the system as. A path in normal form is what its text
-- is read as, and following its components does not depend on how it has been spelled.
import Worksheet.Disk.Tree
import Worksheet.Proofs.Utf8RoundTrip

namespace Worksheet

open Text (Octets)

/-! ## Pieces of a text -/

namespace Text

theorem splitAfter_eq_splitOnPPrepend {α : Type} [DecidableEq α] (sep : α) (piece cs : List α) :
    splitAfter sep piece cs = cs.splitOnPPrepend (· == sep) piece := by
  induction cs generalizing piece with
  | nil => rfl
  | cons c cs ih =>
    unfold splitAfter List.splitOnPPrepend
    by_cases hc : c = sep <;> simp [hc, ih]

theorem split_eq_splitOn {α : Type} [DecidableEq α] (sep : α) (cs : List α) :
    split sep cs = cs.splitOn sep :=
  splitAfter_eq_splitOnPPrepend sep [] cs

theorem not_mem_of_mem_splitAfter {α : Type} [DecidableEq α] {sep : α} {piece cs p : List α}
    (hpiece : sep ∉ piece) (hp : p ∈ splitAfter sep piece cs) : sep ∉ p := by
  induction cs generalizing piece with
  | nil =>
    have heq : p = piece.reverse := by simpa [splitAfter] using hp
    simpa [heq] using hpiece
  | cons c cs ih =>
    unfold splitAfter at hp
    split at hp
    · rcases List.mem_cons.mp hp with heq | hrest
      · simpa [heq] using hpiece
      · exact ih (List.not_mem_nil) hrest
    · rename_i hc
      refine ih ?_ hp
      simp [hpiece, Ne.symm hc]

/-- No piece holds the separator. -/
theorem not_mem_of_mem_split {α : Type} [DecidableEq α] {sep : α} {cs p : List α}
    (hp : p ∈ split sep cs) : sep ∉ p :=
  not_mem_of_mem_splitAfter List.not_mem_nil hp

end Text

/-- What stands between the slashes of a way: an empty piece for each slash of its anchor, and
then its components. -/
theorem split_anchored (a : Anchor) {pieces : List Octets} (hne : pieces ≠ [])
    (h : ∀ p ∈ pieces, '/' ∉ p) :
    ∃ n, Text.split '/' (a.text.toList ++ ['/'].intercalate pieces) =
      List.replicate n [] ++ pieces := by
  have hcut := List.splitOn_intercalate '/' h hne
  have hslash : ∀ cs : Octets, ('/' :: cs).splitOn '/' = [] :: cs.splitOn '/' :=
    fun cs => List.splitOn_append_cons_self [] cs
  rw [Text.split_eq_splitOn]
  cases a with
  | current => exact ⟨0, hcut⟩
  | root => exact ⟨1, (hslash _).trans (congrArg _ hcut)⟩
  | doubleRoot => exact ⟨2, (hslash _).trans (congrArg _ ((hslash _).trans (congrArg _ hcut)))⟩

/-! ## Ways -/

namespace Way

/-- Every component is a name: it is not empty, and holds no slash. -/
def Named (w : Way) : Prop := ∀ c ∈ w.parts, c ≠ [] ∧ '/' ∉ c

/-- The place that a way leads to when nothing on it is a link. -/
def destination (current : Place) (w : Way) : Place :=
  Place.settle (if w.anchor = .current then current else []) w.parts

theorem components_octets (w : Way) (h : w.Named) :
    Disk.components w.octets = w.parts ∨ w.parts = [] ∧ Disk.components w.octets = [['.']] := by
  obtain ⟨anchor, parts⟩ := w
  unfold Disk.components octets
  by_cases hne : parts = []
  · subst hne
    cases anchor with
    | current => exact Or.inr ⟨rfl, rfl⟩
    | root => exact Or.inl rfl
    | doubleRoot => exact Or.inl rfl
  · have hno : ¬(anchor = .current ∧ parts = []) := fun hboth => hne hboth.2
    obtain ⟨n, hsplit⟩ := split_anchored anchor hne fun c hc => (h c hc).2
    rw [if_neg hno, hsplit, List.filter_append]
    refine Or.inl ?_
    have hblank : (List.replicate n ([] : Octets)).filter (fun c => !c.isEmpty) = [] := by
      simp
    have hkept : parts.filter (fun c => !c.isEmpty) = parts :=
      List.filter_eq_self.mpr fun c hc => by simp [(h c hc).1]
    rw [hblank, hkept, List.nil_append]

theorem isAbsolute_octets (w : Way) (h : w.Named) :
    Disk.isAbsolute w.octets = true ↔ w.anchor ≠ .current := by
  obtain ⟨anchor, parts⟩ := w
  unfold Disk.isAbsolute octets
  cases anchor with
  | root => simp [Anchor.text]
  | doubleRoot => simp [Anchor.text]
  | current =>
    cases parts with
    | nil => simp
    | cons c rest =>
      obtain ⟨hne, hslash⟩ := h c (List.mem_cons_self ..)
      cases c with
      | nil => exact absurd rfl hne
      | cons b c =>
        have hb : b ≠ '/' := by
          rintro rfl
          exact hslash (List.mem_cons_self ..)
        cases rest <;> simp [Anchor.text, List.intercalate_cons_cons, hb]

end Way

namespace Place

theorem settle_point (start : Place) (rest : List Octets) :
    start.settle (['.'] :: rest) = start.settle rest := by
  simp [settle]

theorem settle_points (start : Place) (rest : List Octets) :
    start.settle (['.', '.'] :: rest) = settle start.dropLast rest := by
  simp [settle]

theorem settle_name (start : Place) {c : Octets} (rest : List Octets) (hne : c ≠ [])
    (hpoint : c ≠ ['.']) (hpoints : c ≠ ['.', '.']) :
    start.settle (c :: rest) = settle (start ++ [c]) rest := by
  simp [settle, hne, hpoint, hpoints]

theorem settle_empty (start : Place) (rest : List Octets) :
    start.settle ([] :: rest) = start.settle rest := by
  simp [settle]

theorem settle_append (start : Place) (before after : List Octets) :
    start.settle (before ++ after) = (start.settle before).settle after := by
  induction before generalizing start with
  | nil => rfl
  | cons c before ih =>
    rw [List.cons_append]
    by_cases hne : c = []
    · rw [hne, settle_empty, settle_empty, ih]
    by_cases hpoint : c = ['.']
    · rw [hpoint, settle_point, settle_point, ih]
    by_cases hpoints : c = ['.', '.']
    · rw [hpoints, settle_points, settle_points, ih]
    · rw [settle_name _ _ hne hpoint hpoints, settle_name _ _ hne hpoint hpoints, ih]

end Place

/-- A way starts where its anchor says. -/
theorem Way.start_octets {w : Way} (h : w.Named) (directory : Place) :
    (if Disk.isAbsolute w.octets then [] else directory) =
      if w.anchor = .current then directory else [] := by
  by_cases hanchor : w.anchor = .current
  · rw [if_pos hanchor, if_neg (by rw [w.isAbsolute_octets h]; exact not_not_intro hanchor)]
  · rw [if_neg hanchor, if_pos ((w.isAbsolute_octets h).mpr hanchor)]

/-- The octets of a way lead where its components lead. -/
theorem Way.settle_octets (w : Way) (h : w.Named) (current : Place) :
    Place.settle (if Disk.isAbsolute w.octets then [] else current) (Disk.components w.octets) =
      w.destination current := by
  unfold destination
  rw [start_octets h]
  rcases w.components_octets h with hparts | ⟨hparts, hpoint⟩
  · rw [hparts]
  · rw [hpoint, hparts, Place.settle_point]

theorem intercalate_append_singleton (init : List Octets) (last : Octets) :
    ∃ front, ['/'].intercalate (init ++ [last]) = front ++ last := by
  induction init with
  | nil => exact ⟨[], by simp⟩
  | cons c init ih =>
    obtain ⟨front, hfront⟩ := ih
    refine ⟨c ++ ['/'] ++ front, ?_⟩
    rw [List.cons_append, List.intercalate_cons_of_ne_nil (by simp), hfront]
    simp

/-- A way that ends in a name has no slash at its end. -/
theorem Way.octets_of_parts_ne_nil {w : Way} (h : w.Named) (hne : w.parts ≠ []) :
    ∃ front b, w.octets = front ++ [b] ∧ b ≠ '/' := by
  obtain ⟨anchor, parts⟩ := w
  have hno : ¬(anchor = .current ∧ parts = []) := fun hboth => hne hboth.2
  obtain ⟨hlast, hslash⟩ := h _ (List.getLast_mem hne)
  obtain ⟨front, hfront⟩ := intercalate_append_singleton parts.dropLast (parts.getLast hne)
  rw [List.dropLast_concat_getLast] at hfront
  refine ⟨anchor.text.toList ++ front ++ (parts.getLast hne).dropLast,
    (parts.getLast hne).getLast hlast, ?_, ?_⟩
  · unfold octets
    rw [if_neg hno, hfront, List.append_assoc _ _ [_], List.dropLast_concat_getLast,
      List.append_assoc]
  · intro hend
    exact hslash (hend ▸ List.getLast_mem hlast)

theorem Way.trimSlashes_octets {w : Way} (h : w.Named) (hne : w.parts ≠ []) :
    Way.trimSlashes w.octets = w.octets := by
  obtain ⟨front, b, hoctets, hb⟩ := octets_of_parts_ne_nil h hne
  rw [hoctets]
  simp [trimSlashes, hb]

theorem Way.endsInSlash_octets {w : Way} (h : w.Named) (hne : w.parts ≠ []) :
    Disk.endsInSlash w.octets = false := by
  obtain ⟨front, b, hoctets, hb⟩ := octets_of_parts_ne_nil h hne
  rw [hoctets]
  simp [Disk.endsInSlash, hb]

/-! ## Paths in normal form -/

/-- A component of a path in normal form. -/
def IsComponent (part : String) : Prop := part ≠ "" ∧ part ≠ "." ∧ '/' ∉ part.toList

namespace Path

def IsNormal (p : Path) : Prop := ∀ part ∈ p.parts, IsComponent part

theorem isNormal_ofString (s : String) : (ofString s).IsNormal := by
  intro part hpart
  unfold ofString ofChars at hpart
  obtain ⟨cs, hcs, rfl⟩ := List.mem_map.mp hpart
  obtain ⟨hmem, hcomponent⟩ := List.mem_filter.mp hcs
  have hslash := Text.not_mem_of_mem_split hmem
  have hboth : cs ≠ [] ∧ cs ≠ ['.'] := by simpa [isComponent] using hcomponent
  refine ⟨fun hnil => hboth.1 ?_, fun hpoint => hboth.2 ?_, ?_⟩
  · simpa using congrArg String.toList hnil
  · simpa using congrArg String.toList hpoint
  · rwa [String.toList_ofList]

theorem isNormal_join {p q : Path} (hp : p.IsNormal) (hq : q.IsNormal) : (p.join q).IsNormal := by
  unfold join
  split
  · exact hq
  · intro part hpart
    rcases List.mem_append.mp hpart with hmem | hmem
    · exact hp part hmem
    · exact hq part hmem

theorem isNormal_parent {p : Path} (h : p.IsNormal) : p.parent.IsNormal :=
  fun part hpart => h part ((List.dropLast_sublist p.parts).subset hpart)

theorem named_way {p : Path} (h : p.IsNormal) : p.way.Named := by
  intro c hc
  obtain ⟨part, hpart, rfl⟩ := List.mem_map.mp hc
  obtain ⟨hne, -, hslash⟩ := h part hpart
  refine ⟨fun hnil => hne (Text.Octets.ofString_eq_nil_iff.mp hnil), fun hmem => hslash ?_⟩
  exact Text.Octets.mem_of_mem_ofString (by decide) hmem

theorem anchorOf_text (a : Anchor) (cs : Octets) (h : cs.head? ≠ some '/') :
    anchorOf (a.text.toList ++ cs) = a := by
  have hnone : cs.takeWhile (· = '/') = [] := by
    cases cs with
    | nil => rfl
    | cons c cs =>
      have hc : c ≠ '/' := by simpa using h
      simp [hc]
  cases a <;> simp [anchorOf, Anchor.text, hnone]

theorem head?_intercalate {pieces : List Octets} (h : ∀ p ∈ pieces, p ≠ [] ∧ '/' ∉ p) :
    (['/'].intercalate pieces).head? ≠ some '/' := by
  cases pieces with
  | nil => simp
  | cons p rest =>
    obtain ⟨hne, hslash⟩ := h p (List.mem_cons_self ..)
    cases p with
    | nil => exact absurd rfl hne
    | cons b p =>
      have hb : b ≠ '/' := by
        rintro rfl
        exact hslash (List.mem_cons_self ..)
      cases rest <;> simp [List.intercalate_cons_cons, hb]

/-- A path in normal form is what its text is read as. -/
theorem ofString_text {p : Path} (h : p.IsNormal) : ofString p.text = p := by
  obtain ⟨anchor, parts⟩ := p
  unfold text
  by_cases hne : parts = []
  · subst hne
    cases anchor <;> rfl
  · have hno : ¬(anchor = .current ∧ parts = []) := fun hboth => hne hboth.2
    have hpieces : ∀ p ∈ parts.map String.toList, p ≠ [] ∧ '/' ∉ p := by
      intro p hp
      obtain ⟨part, hpart, rfl⟩ := List.mem_map.mp hp
      obtain ⟨hempty, -, hslash⟩ := h part hpart
      exact ⟨by simpa using hempty, hslash⟩
    obtain ⟨n, hsplit⟩ := split_anchored anchor (by simpa using hne) fun p hp => (hpieces p hp).2
    rw [if_neg hno]
    unfold ofString ofChars
    rw [String.toList_append, String.toList_intercalate]
    have hsep : ("/" : String).toList = ['/'] := rfl
    rw [hsep, anchorOf_text anchor _ (head?_intercalate hpieces), hsplit, List.filter_append]
    have hblank : (List.replicate n ([] : Octets)).filter isComponent = [] := by
      simp [isComponent]
    have hkept : (parts.map String.toList).filter isComponent = parts.map String.toList := by
      refine List.filter_eq_self.mpr fun p hp => ?_
      obtain ⟨part, hpart, rfl⟩ := List.mem_map.mp hp
      obtain ⟨hempty, hpoint, -⟩ := h part hpart
      have hchars : part.toList ≠ ['.'] := fun heq =>
        hpoint (String.toList_inj.mp (heq.trans rfl))
      simp [isComponent, hempty, hchars]
    rw [hblank, hkept, List.nil_append, List.map_map]
    simp

end Path

end Worksheet
