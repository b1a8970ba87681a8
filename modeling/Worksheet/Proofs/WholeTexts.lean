-- Bytes that are UTF-8 as a whole. They are told by the number of their characters: no byte that
-- opens a character is lost in a reading, so other bytes are read as more characters than they have
-- such bytes, or else they hold less than those bytes announce.
import Mathlib.Algebra.GroupWithZero.Nat
import Worksheet.Proofs.NameTexts

namespace Worksheet.Text.Utf8

variable {b c d e : UInt8} {bytes rest tail : Bytes} {cs : List Char} {p : Piece}

/-! ## Whole texts -/

/-- The bytes are those of some characters. -/
def Whole (bytes : Bytes) : Prop := ∃ cs, bytes = encodeChars cs

theorem encodeChars_append (cs ds : List Char) :
    encodeChars (cs ++ ds) = encodeChars cs ++ encodeChars ds := by
  unfold encodeChars
  exact List.flatMap_append

theorem encodeChars_cons (c : Char) (cs : List Char) :
    encodeChars (c :: cs) = encodePoint c.toNat ++ encodeChars cs := List.flatMap_cons

theorem whole_nil : Whole [] := ⟨[], rfl⟩

theorem whole_encodeChars (cs : List Char) : Whole (encodeChars cs) := ⟨cs, rfl⟩

theorem encodeChars_inj {ds : List Char} (h : encodeChars cs = encodeChars ds) : cs = ds := by
  rw [← decodeLossy_encodeChars cs, h, decodeLossy_encodeChars]

/-- Characters are the same when their bytes begin in the same way. -/
theorem eq_of_encodePoint_append {c c' : Char}
    (h : encodePoint c.toNat ++ rest = encodePoint c'.toNat ++ tail) : c = c' ∧ rest = tail := by
  obtain ⟨b, more, hbytes, hpiece⟩ := piece_encodePoint c rest
  obtain ⟨b', more', hbytes', hpiece'⟩ := piece_encodePoint c' tail
  rw [hbytes, hbytes', List.cons_append, List.cons_append] at h
  obtain ⟨rfl, hsame⟩ := List.cons.inj h
  rw [hsame, hpiece'] at hpiece
  obtain ⟨hwidth, hchar⟩ := Piece.mk.inj hpiece
  cases hchar
  rw [hbytes] at hbytes'
  obtain rfl := (List.cons.inj hbytes').2
  exact ⟨rfl, List.append_cancel_left hsame⟩

/-- Characters that come first in the bytes of a text come first in the text. -/
theorem encodeChars_append_eq {ds : List Char} (h : encodeChars cs ++ tail = encodeChars ds) :
    ∃ more, ds = cs ++ more ∧ tail = encodeChars more := by
  induction cs generalizing ds with
  | nil => exact ⟨ds, rfl, h⟩
  | cons c cs ih =>
    cases ds with
    | nil =>
      obtain ⟨b, more, hbytes, -⟩ := piece_encodePoint c []
      rw [encodeChars_cons, hbytes] at h
      cases h
    | cons d ds =>
      rw [encodeChars_cons, encodeChars_cons, List.append_assoc] at h
      obtain ⟨rfl, hrest⟩ := eq_of_encodePoint_append h
      obtain ⟨more, rfl, htail⟩ := ih hrest
      exact ⟨more, rfl, htail⟩

/-- A character has its first byte, and then continuation bytes only. -/
theorem encodePoint_eq_cons (n : Nat) : ∃ b more, encodePoint n = b :: more ∧
    ∀ c ∈ more, isContinuation c = true := by
  unfold encodePoint
  split
  · exact ⟨_, [], rfl, by simp⟩
  · split
    · exact ⟨_, _, rfl, by simp⟩
    · split
      · exact ⟨_, _, rfl, by simp⟩
      · exact ⟨_, _, rfl, by simp⟩

theorem piece_of_isContinuation (hb : isContinuation b = true) (rest : Bytes) :
    piece b rest = ⟨1, .error .start⟩ := by
  rw [isContinuation_iff] at hb
  unfold piece
  dsimp only
  rw [if_neg (by omega), if_pos (by omega)]

/-- No text begins inside a character. -/
theorem isContinuation_of_cons (h : b :: rest = encodeChars cs) : isContinuation b = false := by
  cases cs with
  | nil => cases h
  | cons c cs =>
    obtain ⟨first, more, hfirst, hpiece⟩ := piece_encodePoint c (encodeChars cs)
    rw [encodeChars_cons, hfirst, List.cons_append] at h
    obtain ⟨rfl, -⟩ := List.cons.inj h
    rw [Bool.eq_false_iff]
    intro hb
    rw [piece_of_isContinuation hb] at hpiece
    cases (Piece.mk.inj hpiece).2

/-- A text that goes on with the first byte of a character is whole up to there. -/
theorem whole_of_append_cons (hwhole : Whole (bytes ++ b :: rest))
    (hb : isContinuation b = false) : Whole bytes := by
  obtain ⟨cs, h⟩ := hwhole
  induction cs generalizing bytes with
  | nil =>
    unfold encodeChars at h
    simp at h
  | cons c cs ih =>
    rw [encodeChars_cons] at h
    rcases List.append_eq_append_iff.mp h with ⟨inside, hpoint, hrest⟩ | ⟨bytes', rfl, hrest⟩
    · obtain ⟨first, more, hfirst, hmore⟩ := encodePoint_eq_cons c.toNat
      cases inside with
      | nil =>
        rw [List.append_nil] at hpoint
        exact ⟨[c], by rw [← hpoint, encodeChars_cons]; exact (List.append_nil _).symm⟩
      | cons b' inside =>
        -- The byte is one of this character; being no continuation byte, it is the first one.
        obtain rfl := (List.cons.inj hrest).1
        cases bytes with
        | nil => exact whole_nil
        | cons first' bytes =>
          rw [hfirst, List.cons_append] at hpoint
          have hmem : b ∈ more := by
            rw [(List.cons.inj hpoint).2]
            exact List.mem_append_right _ List.mem_cons_self
          rw [hmore b hmem] at hb
          cases hb
    · obtain ⟨ds, rfl⟩ := ih hrest.symm
      exact ⟨c :: ds, (encodeChars_cons c ds).symm⟩

/-! ## Reading without a flaw -/

/-- A piece is no character. -/
def Piece.isFlawed (p : Piece) : Bool :=
  match p.content with
  | .ok _ => false
  | .error _ => true

theorem decodeLossy_nil : decodeLossy [] = [] := by
  unfold decodeLossy pieces piecesAfter
  rfl

theorem length_decodeLossy (bytes : Bytes) :
    (decodeLossy bytes).length = (pieces bytes).length := List.length_map _

theorem length_drop_width (b : UInt8) (rest : Bytes) :
    ((b :: rest).drop (piece b rest).width).length < (b :: rest).length := by
  have hpositive := (covers_piece b rest).positive
  rw [List.length_drop, List.length_cons]
  omega

/-- Bytes that are read without a flaw are those of what is read. -/
theorem eq_encodeChars_of_not_flawed (h : ∀ p ∈ pieces bytes, p.isFlawed = false) :
    bytes = encodeChars (decodeLossy bytes) := by
  induction hlength : bytes.length using Nat.strongRecOn generalizing bytes with
  | ind length ih =>
    cases bytes with
    | nil =>
      rw [decodeLossy_nil]
      rfl
    | cons b rest =>
      have hcovers := covers_piece b rest
      rw [pieces_cons] at h
      have hfirst := h _ List.mem_cons_self
      have hrest := ih _ (hlength ▸ length_drop_width b rest)
        (fun p hp => h p (List.mem_cons_of_mem _ hp)) rfl
      cases hcontent : (piece b rest).content with
      | error flaw => simp [Piece.isFlawed, hcontent] at hfirst
      | ok c =>
        have hread : decodeLossy (b :: rest) =
            c :: decodeLossy ((b :: rest).drop (piece b rest).width) := by
          unfold decodeLossy
          rw [pieces_cons, List.map_cons, hcontent]
        rw [hread, encodeChars_cons, hcovers.spelled c hcontent, ← hrest, List.take_append_drop]

theorem not_flawed_of_flawed? {found : List Piece} {position : Nat}
    (h : flawed? position found = none) : ∀ p ∈ found, p.isFlawed = false := by
  induction found generalizing position with
  | nil => exact fun _ hp => nomatch hp
  | cons q found ih =>
    unfold flawed? at h
    cases hcontent : q.content with
    | error flaw =>
      rw [hcontent] at h
      cases h
    | ok c =>
      rw [hcontent] at h
      rintro p hp
      rcases List.mem_cons.mp hp with rfl | hp
      · unfold Piece.isFlawed
        rw [hcontent]
      · exact ih h p hp

/-- Some bytes can be read strictly exactly when they are whole. -/
theorem decode_eq_ok_iff : decode bytes = .ok cs ↔ bytes = encodeChars cs := by
  constructor
  · intro h
    have hnone : flawed? 0 (pieces bytes) = none := by
      unfold decode at h
      dsimp only at h
      split at h
      · cases h
      · assumption
    have hbytes := eq_encodeChars_of_not_flawed (not_flawed_of_flawed? hnone)
    rw [hbytes, decode_encodeChars] at h
    rw [hbytes, Except.ok.inj h]
  · rintro rfl
    exact decode_encodeChars cs

/-! ## Counting -/

/-- How many bytes a character has that opens with a byte. -/
def announced (b : UInt8) : Nat :=
  if b.toNat < 0x80 then 1
  else if b.toNat < 0xC0 then 0
  else if b.toNat < 0xE0 then 2
  else if b.toNat < 0xF0 then 3
  else 4

/-- The number of bytes that open a character. -/
def begun (bytes : Bytes) : Nat := bytes.countP fun b => !isContinuation b

/-- The number of bytes that those announce. -/
def due (bytes : Bytes) : Nat := (bytes.map announced).sum

theorem begun_append (bytes rest : Bytes) : begun (bytes ++ rest) = begun bytes + begun rest :=
  List.countP_append

theorem due_append (bytes rest : Bytes) : due (bytes ++ rest) = due bytes + due rest := by
  unfold due
  rw [List.map_append, List.sum_append]

theorem begun_cons (b : UInt8) (rest : Bytes) :
    begun (b :: rest) = (!isContinuation b).toNat + begun rest := by
  unfold begun
  rw [List.countP_cons, Nat.add_comm]
  cases isContinuation b <;> rfl

theorem due_cons (b : UInt8) (rest : Bytes) : due (b :: rest) = announced b + due rest := by
  unfold due
  rw [List.map_cons, List.sum_cons]

theorem announced_one (h : b.toNat < 0x80) : announced b = 1 := if_pos h

theorem announced_two (hlow : 0xC0 ≤ b.toNat) (hhigh : b.toNat < 0xE0) : announced b = 2 := by
  unfold announced
  rw [if_neg (by omega), if_neg (by omega), if_pos hhigh]

theorem announced_three (hlow : 0xE0 ≤ b.toNat) (hhigh : b.toNat < 0xF0) : announced b = 3 := by
  unfold announced
  rw [if_neg (by omega), if_neg (by omega), if_neg (by omega), if_pos hhigh]

theorem announced_four (hlow : 0xF0 ≤ b.toNat) : announced b = 4 := by
  unfold announced
  rw [if_neg (by omega), if_neg (by omega), if_neg (by omega), if_neg (by omega)]

theorem announced_of_isContinuation (hb : isContinuation b = true) : announced b = 0 := by
  rw [isContinuation_iff] at hb
  unfold announced
  rw [if_neg (by omega), if_pos (by omega)]

/-- Continuation bytes open nothing. -/
theorem counts_of_continuations (h : ∀ b ∈ bytes, isContinuation b = true) :
    begun bytes = 0 ∧ due bytes = 0 := by
  induction bytes with
  | nil => exact ⟨rfl, rfl⟩
  | cons b bytes ih =>
    have hb := h b List.mem_cons_self
    obtain ⟨hbegun, hdue⟩ := ih fun c hc => h c (List.mem_cons_of_mem _ hc)
    rw [begun_cons, due_cons, announced_of_isContinuation hb, hb, hbegun, hdue]
    exact ⟨rfl, rfl⟩

theorem counts_of_announced {more : Bytes} (hb : announced b = more.length + 1)
    (hmore : ∀ c ∈ more, isContinuation c = true) :
    begun (b :: more) = 1 ∧ due (b :: more) = (b :: more).length := by
  have hlead : isContinuation b = false := by
    rw [Bool.eq_false_iff]
    intro hcontinues
    rw [announced_of_isContinuation hcontinues] at hb
    omega
  obtain ⟨hbegun, hdue⟩ := counts_of_continuations hmore
  rw [begun_cons, due_cons, hlead, hb, hbegun, hdue]
  exact ⟨rfl, rfl⟩

/-- A character has as many bytes as the first one announces. -/
theorem counts_encodePoint (c : Char) :
    begun (encodePoint c.toNat) = 1 ∧ due (encodePoint c.toNat) = (encodePoint c.toNat).length := by
  have hvalid := char_toNat_valid c
  have hbyte : ∀ n, n < 256 → (UInt8.ofNat n).toNat = n := fun n => UInt8.toNat_ofNat_of_lt
  unfold encodePoint
  split
  · have hb := hbyte c.toNat (by omega)
    exact counts_of_announced (announced_one (by omega)) (by simp)
  · split
    · have hb := hbyte (0xC0 + c.toNat / 64) (by omega)
      exact counts_of_announced (announced_two (by omega) (by omega)) (by simp)
    · split
      · have hb := hbyte (0xE0 + c.toNat / 4096) (by omega)
        exact counts_of_announced (announced_three (by omega) (by omega)) (by simp)
      · have hb := hbyte (0xF0 + c.toNat / 262144) (by omega)
        exact counts_of_announced (announced_four (by omega)) (by simp)

theorem counts_encodeChars (cs : List Char) :
    begun (encodeChars cs) = cs.length ∧ due (encodeChars cs) = (encodeChars cs).length := by
  induction cs with
  | nil => exact ⟨rfl, rfl⟩
  | cons c cs ih =>
    obtain ⟨hbegun, hdue⟩ := counts_encodePoint c
    rw [encodeChars_cons, begun_append, due_append, List.length_append, hbegun, hdue, ih.1, ih.2,
      List.length_cons]
    omega

/-- What a piece takes of some bytes: a byte with continuation bytes after it, no more of them than
announced, and less than announced if the piece is flawed. One that opens with a continuation byte
has nothing announced. -/
structure Piece.Spends (p : Piece) (b : UInt8) (rest : Bytes) : Prop where
  width : p.width ≤ rest.length + 1
  more : ∀ c ∈ rest.take (p.width - 1), isContinuation c = true
  budget : p.width + p.isFlawed.toNat ≤ announced b + 2 * (isContinuation b).toNat

/-- A flaw of one byte, if that is no character. -/
theorem spends_flaw (hb : 0x80 ≤ b.toNat) (flaw : Flaw) (rest : Bytes) :
    Piece.Spends ⟨1, .error flaw⟩ b rest := by
  refine ⟨by simp, by simp, ?_⟩
  change 2 ≤ _
  by_cases hlead : b.toNat < 0xC0
  · have hcontinues : isContinuation b = true := isContinuation_iff.mpr ⟨hb, hlead⟩
    rw [hcontinues]
    exact Nat.le_add_left _ _
  · have hannounced : 2 ≤ announced b := by
      unfold announced
      rw [if_neg (by omega), if_neg hlead]
      split
      · exact Nat.le_refl _
      · split <;> decide
    omega

theorem spends_of_announced {n width : Nat} {content : Except Flaw Char}
    (hannounced : announced b = n) (hwidth : width ≤ rest.length + 1)
    (hmore : ∀ c ∈ rest.take (width - 1), isContinuation c = true)
    (hbudget : width + (Piece.mk width content).isFlawed.toNat ≤ n) :
    Piece.Spends ⟨width, content⟩ b rest :=
  ⟨hwidth, hmore, Nat.le_trans (hannounced ▸ hbudget) (Nat.le_add_right _ _)⟩

theorem spends_piece3 (hlow : 0xE0 ≤ b.toNat) (hhigh : b.toNat < 0xF0) (rest : Bytes) :
    (piece3 b rest).Spends b rest := by
  have hone := spends_flaw (b := b) (Nat.le_trans (by decide) hlow)
  have hannounced := announced_three hlow hhigh
  cases rest with
  | nil => exact hone _ _
  | cons c rest =>
    unfold piece3
    dsimp only
    split
    · exact hone _ _
    next hc =>
    rw [Bool.not_eq_true, Bool.not_eq_false'] at hc
    have hc' := isContinuation_of_fits hc
    cases rest with
    | nil => exact spends_of_announced hannounced (by simp) (by simp [hc']) (by decide)
    | cons d rest =>
      dsimp only
      split
      · exact spends_of_announced hannounced (by simp) (by simp [hc']) (by decide)
      next hd =>
      rw [Bool.not_eq_true, Bool.not_eq_false'] at hd
      exact spends_of_announced hannounced (by simp) (by simp [hc', hd]) (Nat.le_refl _)

theorem spends_piece4 (hlow : 0xF0 ≤ b.toNat) (rest : Bytes) : (piece4 b rest).Spends b rest := by
  have hone := spends_flaw (b := b) (Nat.le_trans (by decide) hlow)
  have hannounced := announced_four hlow
  cases rest with
  | nil => exact hone _ _
  | cons c rest =>
    unfold piece4
    dsimp only
    split
    · exact hone _ _
    next hc =>
    rw [Bool.not_eq_true, Bool.not_eq_false'] at hc
    have hc' := isContinuation_of_fits hc
    cases rest with
    | nil => exact spends_of_announced hannounced (by simp) (by simp [hc']) (by decide)
    | cons d rest =>
      dsimp only
      split
      · exact spends_of_announced hannounced (by simp) (by simp [hc']) (by decide)
      next hd =>
      rw [Bool.not_eq_true, Bool.not_eq_false'] at hd
      cases rest with
      | nil => exact spends_of_announced hannounced (by simp) (by simp [hc', hd]) (by decide)
      | cons e rest =>
        dsimp only
        split
        · exact spends_of_announced hannounced (by simp) (by simp [hc', hd]) (by decide)
        next he =>
        rw [Bool.not_eq_true, Bool.not_eq_false'] at he
        exact spends_of_announced hannounced (by simp) (by simp [hc', hd, he]) (Nat.le_refl _)

theorem spends_piece (b : UInt8) (rest : Bytes) : (piece b rest).Spends b rest := by
  unfold piece
  dsimp only
  split
  · next hascii =>
    exact spends_of_announced (announced_one hascii) (by simp) (by simp) (Nat.le_refl _)
  next hb =>
  have hone := spends_flaw (Nat.not_lt.mp hb)
  split
  · exact hone _ _
  next hlow =>
  split
  · next hhigh =>
    cases rest with
    | nil => exact hone _ _
    | cons c rest =>
      dsimp only
      split
      · next hc =>
        exact spends_of_announced (announced_two (by omega) hhigh) (by simp) (by simp [hc])
          (Nat.le_refl _)
      · exact hone _ _
  next hlow =>
  split
  · next hhigh => exact spends_piece3 (Nat.not_lt.mp hlow) hhigh rest
  next hlow =>
  split
  · exact spends_piece4 (Nat.not_lt.mp hlow) rest
  · exact hone _ _

/-- Bytes that are read as too few characters hold less than they announce. -/
theorem counts_pieces (bytes : Bytes) :
    bytes.length + (pieces bytes).countP Piece.isFlawed + 2 * begun bytes ≤
      due bytes + 2 * (pieces bytes).length := by
  induction hlength : bytes.length using Nat.strongRecOn generalizing bytes with
  | ind length ih =>
    cases bytes with
    | nil =>
      unfold pieces piecesAfter
      simp [← hlength, begun]
    | cons b rest =>
      have hspends := spends_piece b rest
      have hpositive := (covers_piece b rest).positive
      have hrest := ih _ (hlength ▸ length_drop_width b rest) _ rfl
      obtain ⟨width, hwidth⟩ := Nat.exists_eq_succ_of_ne_zero hpositive
      have hdrop : (b :: rest).drop (piece b rest).width = rest.drop width := by
        rw [hwidth]
        rfl
      have hmore := hspends.more
      have hbudget := hspends.budget
      have hwhole := hspends.width
      rw [hwidth, Nat.succ_sub_one] at hmore
      obtain ⟨hbegun, hdue⟩ := counts_of_continuations hmore
      have hbegun' := begun_append (rest.take width) (rest.drop width)
      have hdue' := due_append (rest.take width) (rest.drop width)
      rw [List.take_append_drop] at hbegun' hdue'
      rw [hdrop, List.length_drop] at hrest
      rw [pieces_cons, hdrop, List.countP_cons, List.length_cons, begun_cons, due_cons, ← hlength,
        List.length_cons]
      cases hflawed : (piece b rest).isFlawed <;> cases hcontinues : isContinuation b <;>
        simp only [hflawed, hcontinues, Bool.toNat_true, Bool.toNat_false, Bool.not_true,
          Bool.not_false, if_true, Bool.false_eq_true, if_false] at hbudget ⊢ <;> omega

/-- Bytes that are as many as they announce, and are read as no more characters than begin in them,
are those characters. -/
theorem whole_of_counts (hdue : due bytes = bytes.length)
    (hread : (decodeLossy bytes).length ≤ begun bytes) :
    bytes = encodeChars (decodeLossy bytes) := by
  have hcounts := counts_pieces bytes
  rw [length_decodeLossy] at hread
  have hnone : (pieces bytes).countP Piece.isFlawed = 0 := by omega
  rw [List.countP_eq_zero] at hnone
  exact eq_encodeChars_of_not_flawed fun p hp => Bool.eq_false_iff.mpr (hnone p hp)

end Worksheet.Text.Utf8
