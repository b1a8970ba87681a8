-- Times of files as numbers of seconds. Rounding to a double keeps a number of ordinary size a
-- number of ordinary size, so the time of a file, whose seconds the system counts in a word of 64
-- bits, can always be written into a bytecode file.
import Mathlib.Algebra.Order.Field.Rat
import Mathlib.Tactic.FieldSimp
import Mathlib.Tactic.GCongr
import Mathlib.Tactic.Linarith
import Mathlib.Tactic.NormNum
import Mathlib.Tactic.Positivity
import Mathlib.Tactic.Ring
import Worksheet.Compile.Bytecode

namespace Worksheet

/-! ## Rounding -/

namespace Double

theorem nearest_le {num den bound : Nat} (h : num < bound * den) : nearest num den ≤ bound := by
  have hquotient : num / den < bound := Nat.div_lt_of_lt_mul (by rwa [Nat.mul_comm] at h)
  unfold nearest
  dsimp only
  split
  · omega
  · split
    · omega
    · split <;> omega

theorem le_nearest {num den bound : Nat} (hden : 0 < den) (h : bound * den ≤ num) :
    bound ≤ nearest num den := by
  have hquotient : bound ≤ num / den := (Nat.le_div_iff_mul_le hden).mpr h
  unfold nearest
  dsimp only
  split
  · omega
  · split
    · omega
    · split <;> omega

/-- The unit divides the fraction. -/
theorem inUnits_spec (num : Nat) {den : Nat} (hden : 0 < den) (e : Int) :
    0 < (inUnits num den e).2 ∧
      ((inUnits num den e).1 : ℚ) / (inUnits num den e).2 = num / den / 2 ^ e := by
  have hden' : (den : ℚ) ≠ 0 := by positivity
  unfold inUnits
  split
  · next he =>
    obtain ⟨n, rfl⟩ := Int.eq_ofNat_of_zero_le he
    refine ⟨Nat.mul_pos hden (Nat.two_pow_pos _), ?_⟩
    simp only [Int.toNat_natCast, Nat.pow_eq, Nat.cast_mul, Nat.cast_pow, Nat.cast_ofNat,
      zpow_natCast]
    field_simp
  · next he =>
    obtain ⟨n, hn⟩ : ∃ n : Nat, e = -(n : Int) := ⟨(-e).toNat, by omega⟩
    subst hn
    refine ⟨hden, ?_⟩
    simp only [neg_neg, Int.toNat_natCast, Nat.pow_eq, Nat.cast_mul, Nat.cast_pow, Nat.cast_ofNat,
      zpow_neg, zpow_natCast]
    field_simp

/-- The logarithms of its parts tell of a fraction which power of two it is next to. -/
theorem fraction_bounds {num den : Nat} (hnum : num ≠ 0) (hden : den ≠ 0) :
    (2 : ℚ) ^ ((num.log2 : ℤ) - den.log2 - 1) ≤ num / den ∧
      (num : ℚ) / den < 2 ^ ((num.log2 : ℤ) - den.log2 + 1) := by
  have hnumLow : (2 : ℚ) ^ num.log2 ≤ num := by exact_mod_cast Nat.log2_self_le hnum
  have hnumHigh : (num : ℚ) < 2 ^ (num.log2 + 1) := by
    exact_mod_cast (Nat.lt_log2_self : num < 2 ^ (num.log2 + 1))
  have hdenLow : (2 : ℚ) ^ den.log2 ≤ den := by exact_mod_cast Nat.log2_self_le hden
  have hdenHigh : (den : ℚ) ≤ 2 ^ (den.log2 + 1) := by
    exact_mod_cast (Nat.lt_log2_self : den < 2 ^ (den.log2 + 1)).le
  have hpos : (0 : ℚ) < den := by exact_mod_cast Nat.pos_of_ne_zero hden
  have hlow : (2 : ℚ) ^ ((num.log2 : ℤ) - den.log2 - 1) = 2 ^ num.log2 / 2 ^ (den.log2 + 1) := by
    rw [sub_sub, zpow_sub₀ two_ne_zero, zpow_natCast]
    norm_cast
  have hhigh : (2 : ℚ) ^ ((num.log2 : ℤ) - den.log2 + 1) = 2 ^ (num.log2 + 1) / 2 ^ den.log2 := by
    rw [sub_add_eq_add_sub, zpow_sub₀ two_ne_zero, zpow_natCast]
    norm_cast
  rw [hlow, hhigh]
  constructor
  · gcongr
  · calc (num : ℚ) / den ≤ num / 2 ^ den.log2 := by gcongr
      _ < 2 ^ (num.log2 + 1) / 2 ^ den.log2 := by gcongr

/-- A whole quotient tells on which side of a power of two a fraction is. -/
theorem div_lt_iff_cast {num den bound : Nat} (hden : 0 < den) :
    num / den < bound ↔ (num : ℚ) / den < bound := by
  rw [Nat.div_lt_iff_lt_mul hden, div_lt_iff₀ (by exact_mod_cast hden)]
  exact_mod_cast Iff.rfl

/-- In its unit a fraction has 53 bits, unless the unit is the least one. -/
theorem unitExponent_spec {num den : Nat} (hnum : num ≠ 0) (hden : 0 < den) :
    ∃ e : Int, unitExponent num den = max e (-1074) ∧
      (2 : ℚ) ^ (e + 52) ≤ num / den ∧ (num : ℚ) / den < 2 ^ (e + 53) := by
  obtain ⟨hlow, hhigh⟩ := fraction_bounds hnum hden.ne'
  set guess : Int := (num.log2 : Int) - den.log2 - 52 with hguess
  have hscale : ∀ k : Nat,
      (num : ℚ) / den / 2 ^ guess < 2 ^ k ↔ (num : ℚ) / den < 2 ^ (guess + k) := by
    intro k
    rw [div_lt_iff₀ (zpow_pos two_pos guess), zpow_add₀ two_ne_zero, zpow_natCast, mul_comm]
  obtain ⟨hpos, hvalue⟩ := inUnits_spec num hden guess
  have hbelow : ∀ k : Nat, (inUnits num den guess).1 / (inUnits num den guess).2 < Nat.pow 2 k ↔
      (num : ℚ) / den < 2 ^ (guess + k) := by
    intro k
    rw [div_lt_iff_cast hpos, hvalue, ← hscale k, Nat.pow_eq]
    push_cast
    rfl
  have htop : ¬Nat.pow 2 53 ≤ (inUnits num den guess).1 / (inUnits num den guess).2 := by
    rw [not_le, hbelow 53]
    convert hhigh using 2
    push_cast
    omega
  have hexponent : unitExponent num den =
      max (if (inUnits num den guess).1 / (inUnits num den guess).2 < Nat.pow 2 52 then guess - 1
        else guess) (-1074) := by
    unfold unitExponent
    simp only [← hguess, htop, if_false]
  rw [hexponent]
  split
  · next hless =>
    rw [hbelow 52] at hless
    refine ⟨guess - 1, rfl, ?_, ?_⟩
    · convert hlow using 2
      omega
    · convert hless using 2
      push_cast
      omega
  · next hless =>
    rw [hbelow 52, not_lt] at hless
    refine ⟨guess, rfl, by exact_mod_cast hless, ?_⟩
    convert hhigh using 2
    omega

/-- The size of the number that a finite double is. -/
theorem abs_toRat? (negative : Bool) (m : Nat) (e : Int) (h : CanonicalDouble m e) :
    ∃ r, (finite negative m e h).toRat? = some r ∧ |r| = m * 2 ^ e := by
  have hsign : ∀ num den : Nat,
      |mkRat (if negative then -(num : Int) else num) den| = (num : ℚ) / den := by
    intro num den
    rw [Rat.mkRat_eq_div, abs_div]
    cases negative <;> simp
  unfold toRat?
  by_cases he : 0 ≤ e
  · obtain ⟨n, rfl⟩ := Int.eq_ofNat_of_zero_le he
    simp only [if_pos he]
    refine ⟨_, rfl, (hsign _ _).trans ?_⟩
    simp only [Int.toNat_natCast, Nat.pow_eq, zpow_natCast]
    push_cast
    rw [div_one]
  · obtain ⟨n, hn⟩ : ∃ n : Nat, e = -(n : Int) := ⟨(-e).toNat, by omega⟩
    subst hn
    simp only [if_neg he]
    refine ⟨_, rfl, (hsign _ _).trans ?_⟩
    simp only [neg_neg, Int.toNat_natCast, Nat.pow_eq, zpow_neg, zpow_natCast]
    push_cast
    rw [div_eq_mul_inv]

theorem ofUnits_spec (negative : Bool) {m : Nat} {e : Int} (hm : m ≤ 2 ^ 53)
    (hlow : 2 ^ 52 ≤ m ∨ e = -1074) (hleast : -1074 ≤ e) (hmost : e ≤ 970) :
    ∃ r, (ofUnits negative m e).toRat? = some r ∧ |r| = m * 2 ^ e := by
  rcases Nat.lt_or_eq_of_le hm with hless | rfl
  · have hfirst : CanonicalDouble m e := ⟨hless, hleast, by omega, hlow⟩
    unfold ofUnits
    rw [dif_pos hfirst]
    exact abs_toRat? negative m e hfirst
  · have hfirst : ¬CanonicalDouble (2 ^ 53) e := fun h => absurd h.1 (by decide)
    have hsecond : CanonicalDouble (2 ^ 53 / 2) (e + 1) :=
      ⟨by decide, by omega, by omega, .inl (by decide)⟩
    unfold ofUnits
    rw [dif_neg hfirst, dif_pos hsecond]
    obtain ⟨r, hr, habs⟩ := abs_toRat? negative (2 ^ 53 / 2) (e + 1) hsecond
    refine ⟨r, hr, habs.trans ?_⟩
    rw [zpow_add_one₀ two_ne_zero]
    norm_num
    ring

section

variable {num den : Nat} {e : Int}

/-- The count of units that a fraction is rounded to has 53 bits, unless the unit is the least
one. -/
theorem nearest_inUnits (hden : 0 < den) (hlow : (2 : ℚ) ^ (e + 52) ≤ num / den)
    (hhigh : (num : ℚ) / den < 2 ^ (e + 53)) {unit : Int} (hunit : unit = max e (-1074)) :
    nearest (inUnits num den unit).1 (inUnits num den unit).2 ≤ 2 ^ 53 ∧
      (2 ^ 52 ≤ nearest (inUnits num den unit).1 (inUnits num den unit).2 ∨ unit = -1074) := by
  obtain ⟨hcount, hvalue⟩ := inUnits_spec num hden unit
  have hcount' : (0 : ℚ) < (inUnits num den unit).2 := by exact_mod_cast hcount
  have hstep : (0 : ℚ) < 2 ^ unit := zpow_pos two_pos unit
  constructor
  · refine nearest_le ?_
    have hless : ((inUnits num den unit).1 : ℚ) / (inUnits num den unit).2 < 2 ^ 53 := by
      rw [hvalue, div_lt_iff₀ hstep, ← zpow_natCast, ← zpow_add₀ two_ne_zero]
      refine lt_of_lt_of_le hhigh (zpow_le_zpow_right₀ (by norm_num) ?_)
      push_cast
      omega
    rw [div_lt_iff₀ hcount'] at hless
    exact_mod_cast hless
  · rcases le_total (-1074) e with hnormal | hleast
    · have hsame : unit = e := hunit.trans (max_eq_left hnormal)
      refine .inl (le_nearest hcount ?_)
      have hle : (2 : ℚ) ^ 52 ≤ (inUnits num den unit).1 / (inUnits num den unit).2 := by
        rw [hvalue, le_div_iff₀ hstep, ← zpow_natCast, ← zpow_add₀ two_ne_zero, hsame]
        refine hlow.trans' (le_of_eq ?_)
        congr 1
        push_cast
        omega
      rw [le_div_iff₀ hcount'] at hle
      exact_mod_cast hle
    · exact .inr (hunit.trans (max_eq_right hleast))

/-- So many units as a double can count are at most twice the fraction, or they are tiny. -/
theorem units_le (hlow : (2 : ℚ) ^ (e + 52) ≤ num / den) :
    (2 : ℚ) ^ (53 + max e (-1074)) ≤ 2 * (num / den) + 1 := by
  rcases le_total (-1074) e with hnormal | hleast
  · have hdouble : (2 : ℚ) ^ (53 + e) = 2 * 2 ^ (e + 52) := by
      rw [← zpow_one_add₀ two_ne_zero]
      congr 1
      omega
    rw [max_eq_left hnormal]
    linarith
  · have htiny : (2 : ℚ) ^ (53 + (-1074) : ℤ) ≤ 1 :=
      zpow_le_one_of_nonpos₀ (by norm_num) (by omega)
    have hnonneg : (0 : ℚ) ≤ num / den := by positivity
    rw [max_eq_right hleast]
    exact htiny.trans (by linarith)

end

theorem ofFraction_spec (negative : Bool) {num den : Nat} (hden : 0 < den)
    (hsize : (num : ℚ) / den < 2 ^ 200) :
    ∃ r, (ofFraction negative num den).toRat? = some r ∧ |r| ≤ 2 * (num / den) + 1 := by
  unfold ofFraction
  by_cases hnum : num = 0
  · subst hnum
    obtain ⟨r, hr, habs⟩ := abs_toRat? negative 0 (-1074) (by decide)
    rw [if_pos rfl]
    refine ⟨r, hr, ?_⟩
    rw [habs]
    simp
  obtain ⟨e, he, hlow, hhigh⟩ := unitExponent_spec hnum hden
  have hsmall : e < 148 := by
    have hless : (2 : ℚ) ^ (e + 52) < 2 ^ (200 : ℤ) :=
      lt_of_le_of_lt hlow (by exact_mod_cast hsize)
    have := (zpow_lt_zpow_iff_right₀ (by norm_num : (1 : ℚ) < 2)).mp hless
    omega
  rw [if_neg hnum]
  dsimp only
  rw [he]
  obtain ⟨hmost, hbits⟩ := nearest_inUnits hden hlow hhigh rfl
  obtain ⟨r, hr, habs⟩ := ofUnits_spec negative hmost hbits (le_max_right _ _) (by omega)
  refine ⟨r, hr, ?_⟩
  calc |r| = nearest _ _ * 2 ^ max e (-1074) := habs
    _ ≤ 2 ^ (53 : ℤ) * 2 ^ max e (-1074) :=
      mul_le_mul_of_nonneg_right (by exact_mod_cast hmost) (zpow_pos two_pos _).le
    _ = 2 ^ (53 + max e (-1074)) := (zpow_add₀ two_ne_zero _ _).symm
    _ ≤ 2 * (num / den) + 1 := units_le hlow

/-- A number of ordinary size is rounded to a number of at most twice the size, and a little. -/
theorem ofRat_spec {q : ℚ} (h : |q| < 2 ^ 200) :
    ∃ r, (ofRat q).toRat? = some r ∧ |r| ≤ 2 * |q| + 1 := by
  have hsize : (q.num.natAbs : ℚ) / q.den = |q| := by
    rw [Nat.cast_natAbs, Int.cast_abs, ← abs_of_pos (by exact_mod_cast q.den_pos : (0 : ℚ) < q.den),
      ← abs_div, Rat.num_div_den]
  have := ofFraction_spec (q < 0) q.den_pos (hsize ▸ h)
  rwa [hsize] at this

end Double

/-! ## Times -/

namespace Bytecode

theorem wholeSeconds_of_toRat? {x : Double} {r : ℚ} (h : x.toRat? = some r) :
    ∃ seconds, wholeSeconds x = .ok seconds := by
  cases x with
  | finite negative m e canonical => exact ⟨_, rfl⟩
  | infinite negative => cases h
  | nan => cases h

/-- The time of a file whose seconds fit into 64 bits is a whole number of seconds and a rest. -/
theorem exists_wholeSeconds {nanoseconds : Int}
    (h : |nanoseconds| < 9223372036854775808 * 1000000000) :
    ∃ seconds, wholeSeconds (secondsOf nanoseconds) = .ok seconds := by
  obtain ⟨hlow, hhigh⟩ := abs_lt.mp h
  have hrest : |((nanoseconds % 1000000000 : ℤ) : ℚ)| ≤ 1000000000 := by
    have hnonneg : 0 ≤ nanoseconds % 1000000000 := Int.emod_nonneg _ (by decide)
    have hless : nanoseconds % 1000000000 < 1000000000 := Int.emod_lt_of_pos _ (by decide)
    rw [abs_of_nonneg (by exact_mod_cast hnonneg)]
    exact_mod_cast hless.le
  have hwhole : ((nanoseconds / 1000000000).natAbs : ℚ) / (1 : Nat) ≤ 9223372036854775808 := by
    rw [Nat.cast_one, div_one]
    exact_mod_cast (by omega : (nanoseconds / 1000000000).natAbs ≤ 9223372036854775808)
  obtain ⟨whole, hwholeEq, hwholeSize⟩ := Double.ofFraction_spec
    (nanoseconds / 1000000000 < 0) Nat.one_pos (hwhole.trans_lt (by norm_num))
  have hbillionth : |mkRat 1 1000000000| ≤ 1 := by
    rw [Rat.mkRat_eq_div]
    norm_num
  obtain ⟨billionth, hbillionthEq, hbillionthSize⟩ :=
    Double.ofRat_spec (hbillionth.trans_lt (by norm_num))
  have hpart : |billionth * ((nanoseconds % 1000000000 : ℤ) : ℚ)| ≤ 3 * 1000000000 := by
    rw [abs_mul]
    have : |billionth| ≤ 3 := by linarith
    gcongr
  obtain ⟨part, hpartEq, hpartSize⟩ := Double.ofRat_spec (hpart.trans_lt (by norm_num))
  have hsum : |whole + part| < 2 ^ 200 := by
    have hless := abs_add_le whole part
    have hbound : (9223372036854775808 : ℚ) * 2 + 1 + (3 * 1000000000 * 2 + 1) < 2 ^ 200 := by
      norm_num
    linarith
  obtain ⟨seconds, hseconds, -⟩ := Double.ofRat_spec hsum
  refine wholeSeconds_of_toRat? (r := seconds) ?_
  unfold secondsOf Double.ofInt
  simp only [hwholeEq, hbillionthEq, hpartEq, Option.getD_some, hseconds]

end Bytecode

end Worksheet
