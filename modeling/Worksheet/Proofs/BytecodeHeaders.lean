-- Headers of bytecode files. Whatever the time and the size of a source are, the three words behind
-- the magic number can be packed, and a reader of the file finds them there modulo 2^32.
import Mathlib.Data.Int.Bitwise
import Mathlib.Data.Int.ModEq
import Mathlib.Data.Nat.ModEq
import Mathlib.Data.Rat.Floor
import Worksheet.Compile.Bytecode

namespace Worksheet

namespace Bytecode

open Text (Bytes)

variable {n n' : Int} {size size' : Nat} {seconds seconds' : Int} {code : Bytes} {time : ℚ}

/-! ## Numbers as bytes -/

/-- So many bytes of a number, the lowest first. -/
def littleEndian : (width : Nat) → Nat → Bytes
  | 0, _ => []
  | width + 1, n => UInt8.ofNat n :: littleEndian width (n / 256)

/-- The number that bytes stand for, the lowest first. -/
def numberOf : Bytes → Nat
  | [] => 0
  | b :: bytes => b.toNat + 256 * numberOf bytes

theorem numberOf_littleEndian (width n : Nat) :
    numberOf (littleEndian width n) = n % 256 ^ width := by
  induction width generalizing n with
  | zero => simp [littleEndian, numberOf, Nat.mod_one]
  | succ width ih =>
    rw [littleEndian, numberOf, ih, Nat.pow_succ', Nat.mod_mul]
    rfl

theorem word_eq (n : Int) : word n = littleEndian 4 (n % 4294967296).toNat := by
  simp [littleEndian, word, Nat.div_div_eq_div_mul]

theorem numberOf_word (n : Int) : (numberOf (word n) : Int) = n % 4294967296 := by
  have hlow : 0 ≤ n % 4294967296 := Int.emod_nonneg n (by decide)
  have hhigh : n % 4294967296 < 4294967296 := Int.emod_lt_of_pos n (by decide)
  rw [word_eq, numberOf_littleEndian]
  omega

/-- Words tell numbers apart as far as they differ modulo 2^32. -/
theorem word_eq_iff : word n = word n' ↔ n ≡ n' [ZMOD 4294967296] := by
  constructor
  · intro h
    have hnumber := congrArg (fun bytes => (numberOf bytes : Int)) h
    simp only [numberOf_word] at hnumber
    exact hnumber
  · intro h
    rw [word_eq, word_eq, h]

/-! ## Packing -/

/-- A number is packed into the four bytes of a word, if it lies between 0 and 2^32. -/
def packWord? (n : Int) : Option Bytes :=
  if 0 ≤ n ∧ n < 4294967296 then some (littleEndian 4 n.toNat) else none

/-- Words one after the other, if all of them can be packed. -/
def packWords? (ns : List Int) : Option Bytes := (ns.mapM packWord?).map List.flatten

/-- The lowest 32 bits of a number. A negative number has all its upper bits set. -/
def lowBits (n : Int) : Int := Int.land n 0xFFFFFFFF

/-- The lowest 32 bits are the rest modulo 2^32, with either sign. -/
theorem lowBits_eq (n : Int) : lowBits n = n % 4294967296 := by
  unfold lowBits
  cases n with
  | ofNat m =>
    have hmask : m &&& 0xFFFFFFFF = m % 4294967296 := Nat.and_two_pow_sub_one_eq_mod m 32
    change ((m &&& 0xFFFFFFFF : Nat) : Int) = (m : Int) % 4294967296
    rw [hmask, Int.natCast_mod]
    rfl
  | negSucc k =>
    -- The bits of -(k + 1) are those of k turned over.
    have hbits : Nat.ldiff 0xFFFFFFFF k = 2 ^ 32 - (k % 2 ^ 32 + 1) := by
      apply Nat.eq_of_testBit_eq
      intro i
      rw [Nat.testBit_ldiff, Nat.testBit_two_pow_sub_succ (Nat.mod_lt k (by decide)),
        Nat.testBit_mod_two_pow, show (0xFFFFFFFF : Nat) = 2 ^ 32 - 1 from rfl,
        Nat.testBit_two_pow_sub_one]
      by_cases hi : i < 32 <;> simp [hi]
    change ((Nat.ldiff 0xFFFFFFFF k : Nat) : Int) = Int.negSucc k % 4294967296
    rw [hbits]
    omega

theorem packWord?_lowBits (n : Int) : packWord? (lowBits n) = some (word n) := by
  have hlow : 0 ≤ n % 4294967296 := Int.emod_nonneg n (by decide)
  have hhigh : n % 4294967296 < 4294967296 := Int.emod_lt_of_pos n (by decide)
  unfold packWord?
  rw [lowBits_eq, if_pos ⟨hlow, hhigh⟩, word_eq]

/-! ## Times -/

/-- The whole number next to a time on the side of zero. -/
def truncated (time : ℚ) : ℤ := if 0 ≤ time then ⌊time⌋ else ⌈time⌉

theorem truncated_neg (time : ℚ) : truncated (-time) = -truncated time := by
  unfold truncated
  rcases lt_trichotomy time 0 with h | rfl | h
  · rw [if_pos (by linarith), if_neg (by linarith), Int.floor_neg]
  · simp
  · rw [if_neg (by linarith), if_pos h.le, Int.ceil_neg]

theorem truncated_fraction (num den : Nat) : truncated ((num : ℚ) / den) = (num / den : Nat) := by
  have hfloor := Rat.floor_intCast_div_natCast (num : Int) den
  unfold truncated
  rw [if_pos (by positivity), Int.natCast_div, ← hfloor, Int.cast_natCast]

/-- The whole seconds of a time that is a double. -/
theorem wholeSeconds_eq {x : Double} (h : x.toRat? = some time) :
    wholeSeconds x = .ok (truncated time) := by
  -- Sign, numerator and denominator of the number, whatever the sign of its exponent is.
  have hsigned : ∀ (negative : Bool) (num den : Nat),
      truncated (mkRat (if negative then -(num : Int) else num) den) =
        if negative then -((num / den : Nat) : Int) else (num / den : Nat) := by
    intro negative num den
    have hfraction := truncated_fraction num den
    rw [Rat.mkRat_eq_div]
    cases negative with
    | false => simpa using hfraction
    | true => simpa [neg_div, truncated_neg] using hfraction
  cases x with
  | finite negative m e canonical =>
    unfold Double.toRat? at h
    unfold wholeSeconds
    by_cases he : 0 ≤ e
    · simp only [if_pos he, Option.some.injEq] at h ⊢
      rw [← h, hsigned, Nat.div_one]
    · simp only [if_neg he, Option.some.injEq] at h ⊢
      rw [← h, hsigned]
  | infinite negative => cases h
  | nan => cases h

/-! ## Files -/

/-- The bytes of a file for a source that was changed at a time, with its words packed. -/
def stamped? (code : Bytes) (sourceSize : Nat) (time : ℚ) : Option Bytes :=
  (packWords? [0, lowBits (truncated time), lowBits sourceSize]).map fun words =>
    magic ++ words ++ code

theorem stamped?_eq (code : Bytes) (sourceSize : Nat) (time : ℚ) :
    stamped? code sourceSize time = some (file code sourceSize (truncated time)) := by
  have hflags : packWord? 0 = some (word 0) := packWord?_lowBits 0
  unfold stamped? packWords? file header
  simp [hflags, packWord?_lowBits]

/-- What a header tells: the magic number and three words. -/
structure Header where
  magic : Bytes
  flags : Nat
  seconds : Nat
  size : Nat
  deriving DecidableEq, Repr

/-- Reads the header of a file, and gives what stands behind it. -/
def readHeader? (data : Bytes) : Option (Header × Bytes) :=
  if 16 ≤ data.length then
    some (⟨data.take 4, numberOf ((data.drop 4).take 4), numberOf ((data.drop 8).take 4),
      numberOf ((data.drop 12).take 4)⟩, data.drop 16)
  else none

theorem readHeader?_file (code : Bytes) (size : Nat) (seconds : Int) :
    readHeader? (file code size seconds) =
      some (⟨magic, 0, numberOf (word seconds), numberOf (word size)⟩, code) := rfl

theorem header_eq_iff : header seconds size = header seconds' size' ↔
    seconds ≡ seconds' [ZMOD 4294967296] ∧ size ≡ size' [MOD 4294967296] := by
  rw [← Int.natCast_modEq_iff, Nat.cast_ofNat, ← word_eq_iff, ← word_eq_iff]
  constructor
  · intro h
    have hlast := List.append_inj' h rfl
    exact ⟨(List.append_inj' hlast.1 rfl).2, hlast.2⟩
  · rintro ⟨hseconds, hsize⟩
    unfold header
    rw [hseconds, hsize]

/-- Whatever the time and the size of a source are, its file can be packed: a header of 16 bytes, and
the code. The header tells no flags, the size modulo 2^32, and the one word that the time without its
fraction is modulo 2^32. Headers differ if times without their fractions, or sizes, differ modulo
2^32. A time that is a double makes the same file. -/
theorem a_header_tells_a_time_and_a_size_up_to_a_word (code : Bytes) (size : Nat) (time : ℚ) :
    ∃ (data : Bytes) (word : Nat),
      stamped? code size time = some data ∧
      data = header (truncated time) size ++ code ∧ (header (truncated time) size).length = 16 ∧
      readHeader? data = some (⟨magic, 0, word, size % 4294967296⟩, code) ∧
      (∀ n : Int, 0 ≤ n ∧ n < 4294967296 ∧ n ≡ truncated time [ZMOD 4294967296] ↔ n = word) ∧
      (∀ x : Double, x.toRat? = some time → fileAt code size x = .ok data) ∧
      ∀ (size' : Nat) (time' : ℚ),
        header (truncated time) size = header (truncated time') size' ↔
          truncated time ≡ truncated time' [ZMOD 4294967296] ∧ size ≡ size' [MOD 4294967296] := by
  have hword := numberOf_word (truncated time)
  have hsize : numberOf (word size) = size % 4294967296 := by
    have := numberOf_word size
    omega
  refine ⟨_, numberOf (word (truncated time)), stamped?_eq code size time, rfl, rfl, ?_, ?_, ?_, ?_⟩
  · rw [readHeader?_file, hsize]
  · intro n
    unfold Int.ModEq
    omega
  · intro x hx
    unfold fileAt
    rw [wholeSeconds_eq hx]
    rfl
  · intro size' time'
    exact header_eq_iff

/-- The double that is -3/2. -/
def beforeTheEpoch : Double := .finite true 6755399441055744 (-52) (by decide)

/-- A time before zero is cut off towards zero too: the word is that of -1. -/
theorem a_time_before_zero_is_a_word :
    beforeTheEpoch.toRat? = some (-3 / 2) ∧
      fileAt [0x4E] 5 beforeTheEpoch = .ok (magic ++ [0, 0, 0, 0] ++ [0xFF, 0xFF, 0xFF, 0xFF] ++
        [5, 0, 0, 0] ++ [0x4E]) := by
  have htime : beforeTheEpoch.toRat? = some (-3 / 2) := by
    simp [Double.toRat?, beforeTheEpoch, Rat.mkRat_eq_div]
    norm_num
  obtain ⟨data, word, hdata, hfile, -, -, -, hdouble, -⟩ :=
    a_header_tells_a_time_and_a_size_up_to_a_word [0x4E] 5 (-3 / 2)
  refine ⟨htime, ?_⟩
  rw [hdouble _ htime, hfile]
  have htruncated : truncated (-3 / 2) = -1 := by
    unfold truncated
    norm_num
  rw [htruncated]
  rfl

end Bytecode

end Worksheet
