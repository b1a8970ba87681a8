-- Names of files as texts. Whatever bytes a name is made of, its text is the text of this name
-- only; and the text can be a component of a key unless the name has a backslash in it.
import Worksheet.Proofs.LoadedTrees

namespace Worksheet

open Text (Bytes Octets Points)

namespace Text

namespace Utf8

variable {b c d e : UInt8} {rest bytes : Bytes} {n : Nat} {p : Piece}

/-! ## What a piece takes -/

/-- What a piece takes of some bytes is the encoding of its character, or no byte of it is a
character of its own. -/
structure Piece.Covers (p : Piece) (bytes : Bytes) : Prop where
  positive : p.width ≠ 0
  spelled : ∀ c, p.content = .ok c → encodePoint c.toNat = bytes.take p.width
  stray : ∀ flaw, p.content = .error flaw → ∀ b ∈ bytes.take p.width, 0x80 ≤ b.toNat

theorem covers_char {width : Nat} (hwidth : width ≠ 0) (hvalid : n.isValidChar)
    (h : encodePoint n = bytes.take width) : Piece.Covers ⟨width, .ok (Char.ofNat n)⟩ bytes := by
  refine ⟨hwidth, ?_, nofun⟩
  rintro _ ⟨⟩
  rwa [char_toNat_ofNat hvalid]

theorem covers_flaw {width : Nat} {flaw : Flaw} (hwidth : width ≠ 0)
    (h : ∀ b ∈ bytes.take width, 0x80 ≤ b.toNat) : Piece.Covers ⟨width, .error flaw⟩ bytes :=
  ⟨hwidth, nofun, fun _ _ => h⟩

theorem ofNat_eq_of_toNat (h : n = b.toNat) : UInt8.ofNat n = b := h ▸ UInt8.ofNat_toNat

theorem isContinuation_iff : isContinuation b = true ↔ 0x80 ≤ b.toNat ∧ b.toNat < 0xC0 := by
  simp [isContinuation]

theorem continuation_eq (hb : isContinuation b = true) (hn : n % 64 = low b) :
    continuation n = b := by
  rw [isContinuation_iff] at hb
  refine ofNat_eq_of_toNat ?_
  unfold low at hn
  omega

theorem covers_two (hlow : 0xC2 ≤ b.toNat) (hhigh : b.toNat < 0xE0)
    (hc : isContinuation c = true) :
    Piece.Covers ⟨2, .ok (Char.ofNat (b.toNat % 32 * 64 + low c))⟩ (b :: c :: rest) := by
  have hlowc : low c < 64 := Nat.mod_lt _ (by decide)
  refine covers_char (by decide) (Or.inl (by omega)) ?_
  unfold encodePoint
  rw [if_neg (by omega), if_pos (by omega), ofNat_eq_of_toNat (b := b) (by omega),
    continuation_eq hc (by omega)]
  rfl

theorem covers_three (hlow : 0xE0 ≤ b.toNat) (hhigh : b.toNat < 0xF0) (hc : fits b c = true)
    (hd : isContinuation d = true) :
    Piece.Covers ⟨3, .ok (Char.ofNat (b.toNat % 16 * 4096 + low c * 64 + low d))⟩
      (b :: c :: d :: rest) := by
  obtain ⟨hc, hoverlong, hsurrogate, -⟩ := (fits_iff b c).mp hc
  have hrange := isContinuation_iff.mp hc
  have hlowc : low c = c.toNat - 0x80 := by
    unfold low
    omega
  have hlowd : low d < 64 := Nat.mod_lt _ (by decide)
  refine covers_char (by decide) ?_ ?_
  · unfold Nat.isValidChar
    omega
  · unfold encodePoint
    rw [if_neg (by omega), if_neg (by omega), if_pos (by omega),
      ofNat_eq_of_toNat (b := b) (by omega), continuation_eq hc (by omega),
      continuation_eq hd (by omega)]
    rfl

theorem covers_four (hlow : 0xF0 ≤ b.toNat) (hhigh : b.toNat < 0xF5) (hc : fits b c = true)
    (hd : isContinuation d = true) (he : isContinuation e = true) :
    Piece.Covers ⟨4, .ok (Char.ofNat (b.toNat % 8 * 262144 + low c * 4096 + low d * 64 + low e))⟩
      (b :: c :: d :: e :: rest) := by
  obtain ⟨hc, -, -, hoverlong, hlast⟩ := (fits_iff b c).mp hc
  have hrange := isContinuation_iff.mp hc
  have hlowc : low c = c.toNat - 0x80 := by
    unfold low
    omega
  have hlowd : low d < 64 := Nat.mod_lt _ (by decide)
  have hlowe : low e < 64 := Nat.mod_lt _ (by decide)
  refine covers_char (by decide) (Or.inr (by omega)) ?_
  unfold encodePoint
  rw [if_neg (by omega), if_neg (by omega), if_neg (by omega),
    ofNat_eq_of_toNat (b := b) (by omega), continuation_eq hc (by omega),
    continuation_eq hd (by omega), continuation_eq he (by omega)]
  rfl

theorem isContinuation_of_fits (h : fits b c = true) : isContinuation c = true :=
  ((fits_iff b c).mp h).1

theorem high_of_continuation (h : isContinuation b = true) : 0x80 ≤ b.toNat :=
  (isContinuation_iff.mp h).1

theorem covers_piece3 (hlow : 0xE0 ≤ b.toNat) (hhigh : b.toNat < 0xF0) (rest : Bytes) :
    (piece3 b rest).Covers (b :: rest) := by
  have hb : 0x80 ≤ b.toNat := Nat.le_trans (by decide) hlow
  have hone : ∀ flaw, Piece.Covers ⟨1, .error flaw⟩ (b :: rest) := fun _ =>
    covers_flaw (by decide) (by simpa using hb)
  cases rest with
  | nil => exact hone _
  | cons c rest =>
    unfold piece3
    dsimp only
    split
    · exact hone _
    next hc =>
    rw [Bool.not_eq_true, Bool.not_eq_false'] at hc
    have hc' := high_of_continuation (isContinuation_of_fits hc)
    cases rest with
    | nil => exact covers_flaw (by decide) (by simp [hb, hc'])
    | cons d rest =>
      dsimp only
      split
      · exact covers_flaw (by decide) (by simp [hb, hc'])
      next hd =>
      rw [Bool.not_eq_true, Bool.not_eq_false'] at hd
      exact covers_three hlow hhigh hc hd

theorem covers_piece4 (hlow : 0xF0 ≤ b.toNat) (hhigh : b.toNat < 0xF5) (rest : Bytes) :
    (piece4 b rest).Covers (b :: rest) := by
  have hb : 0x80 ≤ b.toNat := Nat.le_trans (by decide) hlow
  have hone : ∀ flaw, Piece.Covers ⟨1, .error flaw⟩ (b :: rest) := fun _ =>
    covers_flaw (by decide) (by simpa using hb)
  cases rest with
  | nil => exact hone _
  | cons c rest =>
    unfold piece4
    dsimp only
    split
    · exact hone _
    next hc =>
    rw [Bool.not_eq_true, Bool.not_eq_false'] at hc
    have hc' := high_of_continuation (isContinuation_of_fits hc)
    cases rest with
    | nil => exact covers_flaw (by decide) (by simp [hb, hc'])
    | cons d rest =>
      dsimp only
      split
      · exact covers_flaw (by decide) (by simp [hb, hc'])
      next hd =>
      rw [Bool.not_eq_true, Bool.not_eq_false'] at hd
      have hd' := high_of_continuation hd
      cases rest with
      | nil => exact covers_flaw (by decide) (by simp [hb, hc', hd'])
      | cons e rest =>
        dsimp only
        split
        · exact covers_flaw (by decide) (by simp [hb, hc', hd'])
        next he =>
        rw [Bool.not_eq_true, Bool.not_eq_false'] at he
        exact covers_four hlow hhigh hc hd he

/-- A piece takes what it spells, and no character of one byte is lost in a flaw. -/
theorem covers_piece (b : UInt8) (rest : Bytes) : (piece b rest).Covers (b :: rest) := by
  have hone : ∀ flaw, 0x80 ≤ b.toNat → Piece.Covers ⟨1, .error flaw⟩ (b :: rest) := fun _ hb =>
    covers_flaw (by decide) (by simpa using hb)
  unfold piece
  dsimp only
  split
  · next hascii =>
    refine covers_char (by decide) (Or.inl (by omega)) ?_
    unfold encodePoint
    rw [if_pos hascii, ofNat_eq_of_toNat rfl]
    rfl
  next hb =>
  rw [Nat.not_lt] at hb
  split
  · exact hone _ hb
  next hlow =>
  split
  · next hhigh =>
    cases rest with
    | nil => exact hone _ hb
    | cons c rest =>
      dsimp only
      split
      · next hc => exact covers_two (Nat.not_lt.mp hlow) hhigh hc
      · exact hone _ hb
  next hlow =>
  split
  · next hhigh => exact covers_piece3 (Nat.not_lt.mp hlow) hhigh rest
  next hlow =>
  split
  · next hhigh => exact covers_piece4 (Nat.not_lt.mp hlow) hhigh rest
  · exact hone _ hb

/-! ## The pieces of some bytes -/

theorem piecesAfter_cons (found : List Piece) (b : UInt8) (rest : Bytes) :
    piecesAfter found (b :: rest) =
      piecesAfter (piece b rest :: found) (rest.drop ((piece b rest).width - 1)) := by
  conv_lhs => unfold piecesAfter

theorem piecesAfter_eq (found : List Piece) (bytes : Bytes) :
    piecesAfter found bytes = found.reverse ++ pieces bytes := by
  induction hlength : bytes.length using Nat.strongRecOn generalizing found bytes with
  | ind length ih =>
    cases bytes with
    | nil =>
      unfold pieces piecesAfter
      exact (List.append_nil _).symm
    | cons b rest =>
      have hshorter : (rest.drop ((piece b rest).width - 1)).length < length := by
        rw [← hlength, List.length_drop, List.length_cons]
        omega
      have hrest := fun found => ih _ hshorter found _ rfl
      unfold pieces
      rw [piecesAfter_cons, piecesAfter_cons, hrest, hrest]
      simp

theorem pieces_cons (b : UInt8) (rest : Bytes) :
    pieces (b :: rest) = piece b rest :: pieces ((b :: rest).drop (piece b rest).width) := by
  obtain ⟨width, hwidth⟩ := Nat.exists_eq_succ_of_ne_zero (covers_piece b rest).positive
  unfold pieces
  rw [piecesAfter_cons, piecesAfter_eq, hwidth]
  rfl

end Utf8

namespace FileName

variable {text : Points} {name : Octets} {c : Char}

/-! ## Names of bytes -/

theorem ofPoints_append (s t : Points) : ofPoints (s ++ t) = ofPoints s ++ ofPoints t :=
  List.flatMap_append

theorem strayOctet?_strayPoint {b : UInt8} (h : 0x80 ≤ b.toNat) :
    strayOctet? (strayPoint b) = some (Char.ofNat b.toNat) := by
  have hb : b.toNat < 256 := b.toNat_lt
  have hvalue : (strayPoint b).val = 0xDC00 + b.toNat := Nat.mod_eq_of_lt (by omega)
  unfold strayOctet?
  rw [hvalue, if_pos (by simp; omega), Nat.add_sub_cancel_left]

theorem ofPoints_map_strayPoint {bytes : Bytes} (h : ∀ b ∈ bytes, 0x80 ≤ b.toNat) :
    ofPoints (bytes.map strayPoint) = Octets.ofBytes bytes := by
  induction bytes with
  | nil => rfl
  | cons b bytes ih =>
    have hfirst : ofPoints [strayPoint b] = [Char.ofNat b.toNat] := by
      unfold ofPoints
      rw [List.flatMap_singleton, strayOctet?_strayPoint (h b (List.mem_cons_self ..))]
    rw [List.map_cons, ofPoints_cons, hfirst, ih fun x hx => h x (List.mem_cons_of_mem _ hx)]
    rfl

theorem ofPoints_piecePoints {p : Utf8.Piece} {bytes : Bytes} (h : p.Covers bytes) :
    ofPoints (piecePoints p bytes) = Octets.ofBytes (bytes.take p.width) := by
  unfold piecePoints
  cases hcontent : p.content with
  | ok c =>
    rw [← h.spelled c hcontent]
    unfold ofPoints
    rw [List.flatMap_singleton, strayOctet?_ofChar]
    rfl
  | error flaw => exact ofPoints_map_strayPoint (h.stray flaw hcontent)

theorem ofPoints_pointsAfter (bytes : Bytes) :
    ofPoints (pointsAfter bytes (Utf8.pieces bytes)) = Octets.ofBytes bytes := by
  induction hlength : bytes.length using Nat.strongRecOn generalizing bytes with
  | ind length ih =>
    cases bytes with
    | nil =>
      unfold Utf8.pieces Utf8.piecesAfter
      rfl
    | cons b rest =>
      have hcovers := Utf8.covers_piece b rest
      have hpositive := hcovers.positive
      have hshorter : ((b :: rest).drop (Utf8.piece b rest).width).length < length := by
        rw [List.length_drop, hlength]
        rw [List.length_cons] at hlength
        omega
      rw [Utf8.pieces_cons]
      unfold pointsAfter
      rw [ofPoints_append, ofPoints_piecePoints hcovers, ih _ hshorter _ rfl]
      unfold Octets.ofBytes
      rw [← List.map_append, List.take_append_drop]

/-- A name that the system can have given: one of bytes. -/
def IsOfBytes (name : Octets) : Prop := ∃ bytes, name = Octets.ofBytes bytes

/-- A name of bytes is that of its text. -/
theorem ofPoints_points (h : IsOfBytes name) : ofPoints (points name) = name := by
  obtain ⟨bytes, rfl⟩ := h
  unfold points
  dsimp only
  rw [Octets.toBytes_ofBytes, ofPoints_pointsAfter]

theorem mem_ofPoints_of_mem (h : .ofChar c ∈ text) (hc : c.toNat < 0x80) : c ∈ ofPoints text := by
  obtain ⟨before, after, rfl⟩ := List.append_of_mem h
  rw [ofPoints_append, ofPoints_cons, ofPoints_ofChar_of_ascii hc]
  exact List.mem_append_right _ (List.mem_cons_self ..)

/-- In the ASCII range a name has the characters of its text. -/
theorem mem_points_iff (h : IsOfBytes name) (hc : c.toNat < 0x80) :
    .ofChar c ∈ points name ↔ c ∈ name := by
  constructor
  · intro hmem
    rw [← ofPoints_points h]
    exact mem_ofPoints_of_mem hmem hc
  · intro hmem
    rw [← ofPoints_points h] at hmem
    exact mem_of_mem_ofPoints hmem hc

end FileName

end Text

namespace Artifacts

variable {c : Octets}

/-- A legal name is that of a component of a key, unless it has a backslash. -/
theorem isKeyName_of_isLegal (h : Disk.IsLegal c) (hbytes : Text.FileName.IsOfBytes c)
    (hback : '\\' ∉ c) : IsKeyName c := by
  have hreadBack := Text.FileName.ofPoints_points hbytes
  have hne : ∀ s : String, c ≠ Octets.ofString s → Text.FileName.points c ≠ .ofString s := by
    intro s hs heq
    rw [heq, Text.FileName.ofPoints_ofString] at hreadBack
    exact hs hreadBack.symm
  refine ⟨⟨?_, fun hmem => ?_, fun hmem => ?_⟩, ?_, hreadBack⟩
  · have hempty : Text.FileName.points c ≠ [] := hne "" h.named.1
    have hpoint := hne "." h.entry.1
    simp [isComponent, hempty, hpoint]
  · exact h.named.2 ((Text.FileName.mem_points_iff hbytes (by decide)).mp hmem)
  · exact hback ((Text.FileName.mem_points_iff hbytes (by decide)).mp hmem)
  · exact hne ".." h.entry.2.1

end Artifacts

end Worksheet
