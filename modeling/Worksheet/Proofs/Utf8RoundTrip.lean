-- UTF-8 that has been written is read back. Every character is one piece of the bytes that are
-- written for it, so the names of files and the strings that they are made of stand for each other.
import Worksheet.Text.Octets

namespace Worksheet.Text

namespace Utf8

/-! ## Bytes -/

theorem toNat_continuation (n : Nat) : (continuation n).toNat = 0x80 + n % 64 := by
  simp only [continuation, UInt8.toNat_ofNat']
  omega

@[simp]
theorem isContinuation_continuation (n : Nat) : isContinuation (continuation n) = true := by
  simp only [isContinuation, toNat_continuation, Bool.and_eq_true, decide_eq_true_eq]
  omega

@[simp]
theorem low_continuation (n : Nat) : low (continuation n) = n % 64 := by
  simp only [low, toNat_continuation]
  omega

/-- Four first bytes ask more of the second byte than the others do. -/
theorem fits_iff (first second : UInt8) :
    fits first second = true ↔ isContinuation second = true ∧
      (first.toNat = 0xE0 → 0xA0 ≤ second.toNat) ∧ (first.toNat = 0xED → second.toNat < 0xA0) ∧
      (first.toNat = 0xF0 → 0x90 ≤ second.toNat) ∧ (first.toNat = 0xF4 → second.toNat < 0x90) := by
  unfold fits
  rw [Bool.and_eq_true]
  refine and_congr_right fun _ => ?_
  split <;> rename_i hfirst
  · simp [hfirst]
  · simp [hfirst]
  · simp [hfirst]
  · simp [hfirst]
  · rename_i h1 h2 h3
    exact iff_of_true rfl ⟨fun h => absurd h h1, fun h => absurd h h2, fun h => absurd h h3,
      fun h => absurd h hfirst⟩

/-! ## Pieces -/

theorem piece3_of_fits {b c d : UInt8} {rest : Bytes} (hc : fits b c = true)
    (hd : isContinuation d = true) :
    piece3 b (c :: d :: rest) =
      ⟨3, .ok (Char.ofNat (b.toNat % 16 * 4096 + low c * 64 + low d))⟩ := by
  simp [piece3, hc, hd]

theorem piece4_of_fits {b c d e : UInt8} {rest : Bytes} (hc : fits b c = true)
    (hd : isContinuation d = true) (he : isContinuation e = true) :
    piece4 b (c :: d :: e :: rest) =
      ⟨4, .ok (Char.ofNat (b.toNat % 8 * 262144 + low c * 4096 + low d * 64 + low e))⟩ := by
  simp [piece4, hc, hd, he]

theorem char_toNat_valid (c : Char) :
    c.toNat < 0xD800 ∨ 0xDFFF < c.toNat ∧ c.toNat < 0x110000 := c.valid

section

variable {c : Char}

theorem piece_one_byte (h : c.toNat < 0x80) (rest : Bytes) :
    piece (UInt8.ofNat c.toNat) rest = ⟨1, .ok c⟩ := by
  have hb : (UInt8.ofNat c.toNat).toNat = c.toNat :=
    UInt8.toNat_ofNat_of_lt (Nat.lt_trans h (by decide))
  unfold piece
  simp only [hb]
  rw [if_pos h, Char.ofNat_toNat]

theorem piece_two_bytes (hlow : 0x80 ≤ c.toNat) (hhigh : c.toNat < 0x800) (rest : Bytes) :
    piece (UInt8.ofNat (0xC0 + c.toNat / 64)) (continuation c.toNat :: rest) = ⟨2, .ok c⟩ := by
  have hb : (UInt8.ofNat (0xC0 + c.toNat / 64)).toNat = 0xC0 + c.toNat / 64 :=
    UInt8.toNat_ofNat_of_lt (show 0xC0 + c.toNat / 64 < 256 by omega)
  have hvalue : (0xC0 + c.toNat / 64) % 32 * 64 + c.toNat % 64 = c.toNat := by omega
  unfold piece
  simp only [hb]
  rw [if_neg (by omega), if_neg (by omega), if_pos (by omega)]
  simp only [isContinuation_continuation, low_continuation, hvalue, Char.ofNat_toNat, if_true]

theorem piece_three_bytes (hlow : 0x800 ≤ c.toNat) (hhigh : c.toNat < 0x10000) (rest : Bytes) :
    piece (UInt8.ofNat (0xE0 + c.toNat / 4096))
      (continuation (c.toNat / 64) :: continuation c.toNat :: rest) = ⟨3, .ok c⟩ := by
  have hvalid := char_toNat_valid c
  have hb : (UInt8.ofNat (0xE0 + c.toNat / 4096)).toNat = 0xE0 + c.toNat / 4096 :=
    UInt8.toNat_ofNat_of_lt (show 0xE0 + c.toNat / 4096 < 256 by omega)
  have hvalue : (0xE0 + c.toNat / 4096) % 16 * 4096 + c.toNat / 64 % 64 * 64 + c.toNat % 64 =
      c.toNat := by omega
  have hfits :
      fits (UInt8.ofNat (0xE0 + c.toNat / 4096)) (continuation (c.toNat / 64)) = true := by
    rw [fits_iff, hb, toNat_continuation]
    exact ⟨isContinuation_continuation _, by omega, by omega, by omega, by omega⟩
  unfold piece
  simp only [hb]
  rw [if_neg (by omega), if_neg (by omega), if_neg (by omega), if_pos (by omega),
    piece3_of_fits hfits (isContinuation_continuation _), hb, low_continuation,
    low_continuation, hvalue, Char.ofNat_toNat]

theorem piece_four_bytes (hlow : 0x10000 ≤ c.toNat) (rest : Bytes) :
    piece (UInt8.ofNat (0xF0 + c.toNat / 262144))
      (continuation (c.toNat / 4096) :: continuation (c.toNat / 64) :: continuation c.toNat ::
        rest) = ⟨4, .ok c⟩ := by
  have hvalid := char_toNat_valid c
  have hb : (UInt8.ofNat (0xF0 + c.toNat / 262144)).toNat = 0xF0 + c.toNat / 262144 :=
    UInt8.toNat_ofNat_of_lt (show 0xF0 + c.toNat / 262144 < 256 by omega)
  have hvalue : (0xF0 + c.toNat / 262144) % 8 * 262144 + c.toNat / 4096 % 64 * 4096 +
      c.toNat / 64 % 64 * 64 + c.toNat % 64 = c.toNat := by omega
  have hfits :
      fits (UInt8.ofNat (0xF0 + c.toNat / 262144)) (continuation (c.toNat / 4096)) = true := by
    rw [fits_iff, hb, toNat_continuation]
    exact ⟨isContinuation_continuation _, by omega, by omega, by omega, by omega⟩
  unfold piece
  simp only [hb]
  rw [if_neg (by omega), if_neg (by omega), if_neg (by omega), if_neg (by omega),
    if_pos (by omega),
    piece4_of_fits hfits (isContinuation_continuation _) (isContinuation_continuation _), hb,
    low_continuation, low_continuation, low_continuation, hvalue, Char.ofNat_toNat]

end

/-- The bytes of a character are one piece, which spells it. -/
theorem piece_encodePoint (c : Char) (rest : Bytes) :
    ∃ b tail, encodePoint c.toNat = b :: tail ∧
      piece b (tail ++ rest) = ⟨tail.length + 1, .ok c⟩ := by
  unfold encodePoint
  split
  · next hone => exact ⟨_, _, rfl, piece_one_byte hone _⟩
  · next hone =>
    split
    · next htwo => exact ⟨_, _, rfl, piece_two_bytes (Nat.not_lt.mp hone) htwo _⟩
    · next htwo =>
      split
      · next hthree => exact ⟨_, _, rfl, piece_three_bytes (Nat.not_lt.mp htwo) hthree _⟩
      · next hthree => exact ⟨_, _, rfl, piece_four_bytes (Nat.not_lt.mp hthree) _⟩

theorem piecesAfter_encodeChars (found : List Piece) (cs : List Char) :
    piecesAfter found (encodeChars cs) =
      found.reverse ++ cs.map fun c => ⟨(encodePoint c.toNat).length, .ok c⟩ := by
  induction cs generalizing found with
  | nil =>
    unfold encodeChars piecesAfter
    simp
  | cons c cs ih =>
    obtain ⟨b, tail, hbytes, hpiece⟩ := piece_encodePoint c (encodeChars cs)
    have hcons : encodeChars (c :: cs) = b :: (tail ++ encodeChars cs) := by
      simp [encodeChars, hbytes]
    rw [hcons]
    unfold piecesAfter
    rw [hpiece]
    simp only [Nat.add_sub_cancel, List.drop_left, ih, List.reverse_cons, List.map_cons, hbytes,
      List.length_cons, List.append_assoc, List.singleton_append]

theorem pieces_encodeChars (cs : List Char) :
    pieces (encodeChars cs) = cs.map fun c => ⟨(encodePoint c.toNat).length, .ok c⟩ :=
  piecesAfter_encodeChars [] cs

theorem decodeLossy_encodeChars (cs : List Char) : decodeLossy (encodeChars cs) = cs := by
  unfold decodeLossy
  rw [pieces_encodeChars, List.map_map]
  exact List.map_id cs

theorem flawed?_eq_none {found : List Piece} (h : ∀ p ∈ found, ∃ c, p.content = .ok c)
    (position : Nat) : flawed? position found = none := by
  induction found generalizing position with
  | nil => rfl
  | cons p rest ih =>
    obtain ⟨c, hc⟩ := h p List.mem_cons_self
    unfold flawed?
    rw [hc]
    exact ih (fun q hq => h q (List.mem_cons_of_mem _ hq)) _

theorem decode_encodeChars (cs : List Char) : decode (encodeChars cs) = .ok cs := by
  have hsound : ∀ p ∈ pieces (encodeChars cs), ∃ c, p.content = .ok c := by
    rw [pieces_encodeChars]
    rintro p hp
    obtain ⟨c, -, rfl⟩ := List.mem_map.mp hp
    exact ⟨c, rfl⟩
  unfold decode
  dsimp only
  rw [flawed?_eq_none hsound, pieces_encodeChars, List.filterMap_map]
  exact congrArg Except.ok (List.filterMap_some ..)

/-- A byte below 0x80 stands for itself only. -/
theorem eq_of_mem_encodePoint {n : Nat} (hvalid : n < 0x110000) {b : UInt8}
    (hmem : b ∈ encodePoint n) (hb : b.toNat < 0x80) : b.toNat = n := by
  have hne : ∀ m, b ≠ continuation m := by
    rintro m rfl
    rw [toNat_continuation] at hb
    omega
  have hlead : ∀ m, 0xC0 ≤ m → m < 0x100 → b ≠ UInt8.ofNat m := by
    rintro m hlow hhigh rfl
    rw [UInt8.toNat_ofNat'] at hb
    omega
  unfold encodePoint at hmem
  split at hmem
  · have hbyte : b = UInt8.ofNat n := by simpa using hmem
    rw [hbyte, UInt8.toNat_ofNat']
    omega
  split at hmem
  · simp only [List.mem_cons, List.not_mem_nil, hne, or_false,
      hlead (0xC0 + n / 64) (by omega) (by omega)] at hmem
  split at hmem
  · simp only [List.mem_cons, List.not_mem_nil, hne, or_false,
      hlead (0xE0 + n / 4096) (by omega) (by omega)] at hmem
  · simp only [List.mem_cons, List.not_mem_nil, hne, or_false,
      hlead (0xF0 + n / 262144) (by omega) (by omega)] at hmem

end Utf8

/-! ## Names -/

theorem char_toNat_ofNat {n : Nat} (h : n.isValidChar) : (Char.ofNat n).toNat = n := by
  rw [Char.ofNat, dif_pos h]
  rfl

namespace Octets

theorem toNat_ofNat_byte (b : UInt8) : (Char.ofNat b.toNat).toNat = b.toNat := by
  have hb : b.toNat < 256 := b.toNat_lt
  exact char_toNat_ofNat (Or.inl (by omega))

theorem toBytes_ofBytes (bytes : Bytes) : toBytes (ofBytes bytes) = bytes := by
  unfold toBytes ofBytes
  rw [List.map_map]
  refine (List.map_congr_left fun b _ => ?_).trans (List.map_id bytes)
  simp [toNat_ofNat_byte]

@[simp]
theorem spelled_ofString (s : String) : spelled (ofString s) = s := by
  unfold spelled ofString Utf8.encodeString
  rw [toBytes_ofBytes, Utf8.decodeLossy_encodeChars, String.ofList_toList]

theorem ofString_inj {s t : String} : ofString s = ofString t ↔ s = t := by
  constructor
  · intro h
    rw [← spelled_ofString s, h, spelled_ofString]
  · exact congrArg ofString

theorem ofString_append (s t : String) : ofString (s ++ t) = ofString s ++ ofString t := by
  unfold ofString ofBytes Utf8.encodeString Utf8.encodeChars
  rw [String.toList_append, List.flatMap_append, List.map_append]

theorem ofString_eq_nil_iff {s : String} : ofString s = [] ↔ s = "" :=
  ofString_inj (t := "")

/-- A text of characters below 0x80 is its own encoding. -/
theorem ofString_of_ascii {cs : List Char} (h : ∀ c ∈ cs, c.toNat < 0x80) :
    ofString (String.ofList cs) = cs := by
  unfold ofString ofBytes Utf8.encodeString Utf8.encodeChars
  rw [String.toList_ofList]
  induction cs with
  | nil => rfl
  | cons c cs ih =>
    have hc := h c (List.mem_cons_self ..)
    have hbyte : (UInt8.ofNat c.toNat).toNat = c.toNat := by
      rw [UInt8.toNat_ofNat']
      omega
    rw [List.flatMap_cons, List.map_append, ih fun d hd => h d (List.mem_cons_of_mem _ hd)]
    simp [Utf8.encodePoint, hc, hbyte]

/-- An octet below 0x80 is in the encoding of a text only where the text has it. -/
theorem mem_of_mem_ofString {c : Char} (hc : c.toNat < 0x80) {s : String}
    (h : c ∈ ofString s) : c ∈ s.toList := by
  unfold ofString ofBytes Utf8.encodeString Utf8.encodeChars at h
  obtain ⟨b, hb, rfl⟩ := List.mem_map.mp h
  obtain ⟨d, hd, hmem⟩ := List.mem_flatMap.mp hb
  rw [toNat_ofNat_byte] at hc
  have hvalid : d.toNat < 0x110000 := (CodePoint.ofChar d).isLt
  have hsame := Utf8.eq_of_mem_encodePoint hvalid hmem hc
  rw [hsame, Char.ofNat_toNat]
  exact hd

end Octets

end Worksheet.Text
