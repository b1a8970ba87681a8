-- Texts of doubles. Rounding does not mind how a fraction is written, and leaves a double as it is;
-- so the digits that are written for a double are read as this double again, wherever the point
-- stands and with whatever power of ten.
import Mathlib.Data.List.DropRight
import Worksheet.Json.Writer
import Worksheet.Json.Reader
import Worksheet.Proofs.FileTimes

namespace Worksheet

/-! ## Fractions that are written in another way -/

namespace Double

variable {num den t m : Nat} {e : Int}

theorem nearest_mul (ht : 0 < t) (num den : Nat) :
    nearest (num * t) (den * t) = nearest num den := by
  have hdiv : num * t / (den * t) = num / den := Nat.mul_div_mul_right num den ht
  have hmod : num * t % (den * t) = num % den * t := Nat.mul_mod_mul_right t num den
  have hlow : 2 * (num % den * t) < den * t ↔ 2 * (num % den) < den := by
    rw [← Nat.mul_assoc]
    exact Nat.mul_lt_mul_right ht
  have hhigh : den * t < 2 * (num % den * t) ↔ den < 2 * (num % den) := by
    rw [← Nat.mul_assoc]
    exact Nat.mul_lt_mul_right ht
  unfold nearest
  simp only [hdiv, hmod, hlow, hhigh]

theorem nearest_of_dvd (hden : 0 < den) (m : Nat) : nearest (m * den) den = m :=
  Nat.le_antisymm
    (by
      unfold nearest
      simp [hden])
    (le_nearest hden (Nat.le_refl _))

theorem inUnits_mul (num den t : Nat) (e : Int) :
    inUnits (num * t) (den * t) e = ((inUnits num den e).1 * t, (inUnits num den e).2 * t) := by
  unfold inUnits
  split
  · exact Prod.ext rfl (Nat.mul_right_comm den t _)
  · exact Prod.ext (Nat.mul_right_comm num t _) rfl

/-- The unit of a fraction is told by its size. -/
theorem unitExponent_eq (hnum : num ≠ 0) (hden : 0 < den) (hlow : (2 : ℚ) ^ (e + 52) ≤ num / den)
    (hhigh : (num : ℚ) / den < 2 ^ (e + 53)) : unitExponent num den = max e (-1074) := by
  obtain ⟨e', he', hlow', hhigh'⟩ := unitExponent_spec hnum hden
  have hless := (zpow_lt_zpow_iff_right₀ (by norm_num : (1 : ℚ) < 2)).mp (hlow.trans_lt hhigh')
  have hless' := (zpow_lt_zpow_iff_right₀ (by norm_num : (1 : ℚ) < 2)).mp (hlow'.trans_lt hhigh)
  obtain rfl : e' = e := by omega
  exact he'

theorem unitExponent_mul (ht : 0 < t) (hnum : num ≠ 0) (hden : 0 < den) :
    unitExponent (num * t) (den * t) = unitExponent num den := by
  obtain ⟨e, he, hlow, hhigh⟩ := unitExponent_spec hnum hden
  have hsame : ((num * t : Nat) : ℚ) / (den * t : Nat) = num / den := by
    push_cast
    exact mul_div_mul_right _ _ (by exact_mod_cast ht.ne')
  rw [he]
  exact unitExponent_eq (Nat.mul_ne_zero hnum ht.ne') (Nat.mul_pos hden ht) (hsame ▸ hlow)
    (hsame ▸ hhigh)

/-- A fraction may be multiplied out before it is rounded. -/
theorem ofFraction_mul (ht : 0 < t) (hden : 0 < den) (negative : Bool) (num : Nat) :
    ofFraction negative (num * t) (den * t) = ofFraction negative num den := by
  unfold ofFraction
  by_cases hnum : num = 0
  · rw [if_pos hnum, if_pos (by rw [hnum, Nat.zero_mul])]
  rw [if_neg hnum, if_neg (Nat.mul_ne_zero hnum ht.ne'), unitExponent_mul ht hnum hden]
  dsimp only
  rw [inUnits_mul, nearest_mul ht]

/-- A fraction that is a double is that double. -/
theorem ofFraction_eq (negative : Bool) (hm : m ≠ 0) (h : CanonicalDouble m e) (hden : 0 < den)
    (hvalue : (num : ℚ) / den = m * 2 ^ e) : ofFraction negative num den = .finite negative m e h := by
  have hstep : (0 : ℚ) < 2 ^ e := zpow_pos two_pos e
  have hnum : num ≠ 0 := by
    rintro rfl
    rw [Nat.cast_zero, zero_div] at hvalue
    exact absurd hvalue.symm (mul_ne_zero (by exact_mod_cast hm) hstep.ne')
  have hhigh : (num : ℚ) / den < 2 ^ (e + 53) := by
    rw [hvalue, add_comm, zpow_add₀ two_ne_zero]
    exact mul_lt_mul_of_pos_right (by exact_mod_cast h.1) hstep
  have hunit : unitExponent num den = e := by
    rcases h.2.2.2 with hbits | rfl
    · have hlow : (2 : ℚ) ^ (e + 52) ≤ num / den := by
        rw [hvalue, add_comm, zpow_add₀ two_ne_zero]
        exact mul_le_mul_of_nonneg_right (by exact_mod_cast hbits) hstep.le
      rw [unitExponent_eq hnum hden hlow hhigh]
      exact max_eq_left h.2.1
    · obtain ⟨e', he', hlow', -⟩ := unitExponent_spec hnum hden
      have hless := (zpow_lt_zpow_iff_right₀ (by norm_num : (1 : ℚ) < 2)).mp (hlow'.trans_lt hhigh)
      rw [he']
      exact max_eq_right (by omega)
  obtain ⟨hcount, hunits⟩ := inUnits_spec num hden e
  have hexact : (inUnits num den e).1 = m * (inUnits num den e).2 := by
    have hcount' : ((inUnits num den e).2 : ℚ) ≠ 0 := by exact_mod_cast hcount.ne'
    rw [hvalue, mul_div_cancel_right₀ _ hstep.ne', div_eq_iff hcount'] at hunits
    exact_mod_cast hunits
  unfold ofFraction
  rw [if_neg hnum]
  dsimp only
  rw [hunit, hexact, nearest_of_dvd hcount]
  exact dif_pos h

end Double

namespace Numeral

variable {c k : Nat} {e : Int}

theorem digitCount_eq (hc : c ≠ 0) : digitCount c = (Nat.toDigits 10 c).length := if_neg hc

theorem toDigits_mul_ten (hc : c ≠ 0) : Nat.toDigits 10 (c * 10) = Nat.toDigits 10 c ++ ['0'] := by
  rw [Nat.toDigits_of_base_le (by decide) (Nat.le_mul_of_pos_left 10 (Nat.pos_of_ne_zero hc)),
    Nat.mul_div_cancel c (by decide), Nat.mul_mod_left]
  rfl

theorem digitCount_mul_pow (hc : c ≠ 0) (k : Nat) : digitCount (c * 10 ^ k) = digitCount c + k := by
  induction k with
  | zero => rw [pow_zero, Nat.mul_one, Nat.add_zero]
  | succ k ih =>
    have hne : c * 10 ^ k ≠ 0 := Nat.mul_ne_zero hc (by positivity)
    rw [pow_succ, ← Nat.mul_assoc, digitCount_eq (Nat.mul_ne_zero hne (by decide)),
      toDigits_mul_ten hne, List.length_append, ← digitCount_eq hne, ih]
    rfl

theorem digitCount_le_iff (hc : c ≠ 0) (hk : 0 < k) : digitCount c ≤ k ↔ c < 10 ^ k := by
  rw [digitCount_eq hc]
  exact Nat.length_toDigits_le_iff (by decide) hk

/-- A numeral that is neither zero nor far outside is rounded as a fraction. -/
theorem toDouble_of_near (negative : Bool) (hc : c ≠ 0) (hhigh : e + digitCount c ≤ 400)
    (hlow : -400 ≤ e + digitCount c) :
    (Numeral.mk negative c e).toDouble =
      .ofFraction negative (c * 10 ^ e.toNat) (10 ^ (-e).toNat) := by
  unfold toDouble
  dsimp only
  rw [if_neg hc, if_neg (by omega), if_neg (by omega)]
  split
  · next he =>
    rw [show (-e).toNat = 0 by omega]
    rfl
  · next he =>
    rw [show e.toNat = 0 by omega, pow_zero, Nat.mul_one]
    rfl

/-- Zeros at the end of the digits can be left to the power of ten. -/
theorem toDouble_mul_pow (negative : Bool) (c k : Nat) (e : Int) :
    (Numeral.mk negative (c * 10 ^ k) e).toDouble = (Numeral.mk negative c (e + k)).toDouble := by
  by_cases hc : c = 0
  · rw [hc, Nat.zero_mul]
    rfl
  have hne : c * 10 ^ k ≠ 0 := Nat.mul_ne_zero hc (by positivity)
  have htop : e + k + digitCount c = e + (digitCount (c * 10 ^ k) : Nat) := by
    rw [digitCount_mul_pow hc]
    push_cast
    ring
  by_cases hnear : e + k + digitCount c ≤ 400 ∧ -400 ≤ e + k + digitCount c
  · rw [toDouble_of_near negative hne (htop ▸ hnear.1) (htop ▸ hnear.2),
      toDouble_of_near negative hc hnear.1 hnear.2]
    have hfirst : c * 10 ^ k * 10 ^ e.toNat * 10 ^ (-(e + k)).toNat =
        c * 10 ^ (e + k).toNat * 10 ^ (-e).toNat := by
      rw [Nat.mul_assoc, Nat.mul_assoc, Nat.mul_assoc, ← pow_add, ← pow_add, ← pow_add]
      congr 2
      omega
    rw [← Double.ofFraction_mul (t := 10 ^ (-(e + k)).toNat) (by positivity) (by positivity),
      hfirst, Nat.mul_comm (10 ^ (-e).toNat),
      Double.ofFraction_mul (by positivity) (by positivity)]
  · unfold toDouble
    dsimp only
    rw [← htop, if_neg hc, if_neg hne]
    split
    · rfl
    · rw [if_pos (by omega), if_pos (by omega)]

end Numeral

/-! ## Digits that are chosen -/

namespace Text

theorem digit?_of_isDigit {c : Char} (h : c.isDigit = true) : digit? c = some (c.toNat - 48) := by
  have hrange : 48 ≤ c.toNat ∧ c.toNat ≤ 57 := by
    simpa [Char.isDigit, UInt32.le_iff_toNat_le] using h
  have hfirst : (decide (48 ≤ c.toNat) && decide (c.toNat < 48 + 10)) = true := by
    simp only [Bool.and_eq_true, decide_eq_true_eq]
    omega
  have hzeros : digitZeros = 48 :: digitZeros.tail := rfl
  unfold digit?
  rw [hzeros, List.find?_cons, hfirst]
  rfl

theorem digitsValue_eq {ds : List Char} (h : ∀ c ∈ ds, c.isDigit = true) :
    digitsValue ds = Nat.ofDigitChars 10 ds 0 := by
  have hall : ∀ n, ds.foldl (fun n c => 10 * n + (digit? c).getD 0) n =
      Nat.ofDigitChars 10 ds n := by
    induction ds with
    | nil => exact fun n => rfl
    | cons c ds ih =>
      intro n
      rw [List.foldl_cons, ih (fun d hd => h d (List.mem_cons_of_mem _ hd)),
        digit?_of_isDigit (h c List.mem_cons_self), Nat.ofDigitChars_cons]
      rfl
  exact hall 0

/-- Zeros behind digits. -/
theorem digitsValue_append_zeros {ds : List Char} (h : ∀ c ∈ ds, c.isDigit = true) (k : Nat) :
    digitsValue (ds ++ List.replicate k '0') = digitsValue ds * 10 ^ k := by
  have hzeros : ∀ c ∈ ds ++ List.replicate k '0', c.isDigit = true := by
    intro c hc
    rcases List.mem_append.mp hc with hmem | hmem
    · exact h c hmem
    · rw [List.eq_of_mem_replicate hmem]
      rfl
  rw [digitsValue_eq hzeros, digitsValue_eq h, Nat.ofDigitChars_append,
    Nat.ofDigitChars_replicate_zero, Nat.mul_comm]

/-- Zeros in front of digits. -/
theorem digitsValue_zeros_append (k : Nat) (ds : List Char) :
    digitsValue (List.replicate k '0' ++ ds) = digitsValue ds := by
  have hzeros : (List.replicate k '0').foldl (fun n c => 10 * n + (digit? c).getD 0) 0 = 0 := by
    induction k with
    | zero => rfl
    | succ k ih => exact ih
  unfold digitsValue
  rw [List.foldl_append, hzeros]

theorem digitsValue_toDigits (n : Nat) : digitsValue (Nat.toDigits 10 n) = n := by
  rw [digitsValue_eq fun c => Nat.isDigit_of_mem_toDigits (by decide) (by decide)]
  exact Nat.ofDigitChars_ten_toDigits

theorem head?_toDigits {n : Nat} (hn : n ≠ 0) : (Nat.toDigits 10 n).head? ≠ some '0' := by
  induction n using Nat.strongRecOn with
  | ind n ih =>
    by_cases hless : n < 10
    · rw [Nat.toDigits_of_lt_base hless]
      intro h
      exact hn (Nat.digitChar_eq_zero.mp (Option.some.inj h))
    · rw [Nat.toDigits_of_base_le (by decide) (Nat.not_lt.mp hless),
        List.head?_append_of_ne_nil _ Nat.toDigits_ne_nil]
      exact ih (n / 10) (by omega) (by omega)

end Text

namespace DecimalDigits

open Text (digitsValue)

/-- There are digits, and the first one is not zero. -/
structure IsProper (d : DecimalDigits) : Prop where
  nonempty : d.digits ≠ []
  digits : ∀ c ∈ d.digits, c.isDigit = true
  leading : d.digits.head? ≠ some '0'

/-- The numeral that the digits stand for. -/
def numeral (negative : Bool) (d : DecimalDigits) : Numeral :=
  ⟨negative, digitsValue d.digits, d.point - d.digits.length⟩

theorem exists_zeros (ds : List Char) :
    ∃ k, ds = (ds.reverse.dropWhile (· == '0')).reverse ++ List.replicate k '0' := by
  have hzeros : ds.rtakeWhile (· == '0') = List.replicate (ds.rtakeWhile (· == '0')).length '0' :=
    List.eq_replicate_of_mem fun c hc => by
      have hzero := List.mem_rtakeWhile_imp hc
      exact eq_of_beq hzero
  refine ⟨(ds.rtakeWhile (· == '0')).length, ?_⟩
  rw [← hzeros]
  exact List.rdropWhile_append_rtakeWhile.symm

/-- The digits of a number lose their zeros at the end only. -/
theorem exists_ofNumeral {c : Nat} (hc : c ≠ 0) (e : Int) :
    (ofNumeral c e).IsProper ∧
      ∃ k : Nat, digitsValue (ofNumeral c e).digits * 10 ^ k = c ∧
        (ofNumeral c e).point = e + k + (ofNumeral c e).digits.length := by
  obtain ⟨k, hk⟩ := exists_zeros (Nat.toDigits 10 c)
  have hdigits : ∀ b ∈ Nat.toDigits 10 c, b.isDigit = true := fun b =>
    Nat.isDigit_of_mem_toDigits (by decide) (by decide)
  have hvalue := Text.digitsValue_toDigits c
  have hhead := Text.head?_toDigits hc
  unfold ofNumeral
  dsimp only
  generalize hds : ((Nat.toDigits 10 c).reverse.dropWhile (· == '0')).reverse = ds at hk ⊢
  rw [hk] at hdigits hvalue hhead ⊢
  have hown : ∀ b ∈ ds, b.isDigit = true := fun b hb => hdigits b (List.mem_append_left _ hb)
  have hne : ds ≠ [] := by
    rintro rfl
    cases k with
    | zero => exact Nat.toDigits_ne_nil hk
    | succ k => exact hhead rfl
  refine ⟨⟨hne, hown, ?_⟩, k, ?_, ?_⟩
  · rwa [List.head?_append_of_ne_nil _ hne] at hhead
  · rwa [Text.digitsValue_append_zeros hown] at hvalue
  · rw [List.length_append, List.length_replicate]
    push_cast
    ring

theorem toDouble_ofNumeral (negative : Bool) {c : Nat} (hc : c ≠ 0) (e : Int) :
    ((ofNumeral c e).numeral negative).toDouble = (Numeral.mk negative c e).toDouble := by
  obtain ⟨-, k, hvalue, hpoint⟩ := exists_ofNumeral hc e
  have hshift := Numeral.toDouble_mul_pow negative (digitsValue (ofNumeral c e).digits) k e
  rw [hvalue] at hshift
  rw [hshift]
  unfold numeral
  rw [hpoint, Int.add_sub_cancel]

end DecimalDigits

namespace Double

variable {x : Double} {negative : Bool} {m : Nat} {e : Int}

def isFinite : Double → Bool
  | finite .. => true
  | _ => false

theorem coefficient_ne_zero (hm : m ≠ 0) {h : CanonicalDouble m e} {c : Nat} {p : Int}
    (hread : (Numeral.mk negative c p).toDouble = .finite negative m e h) : c ≠ 0 := by
  rintro rfl
  have hzero : (Numeral.mk negative 0 p).toDouble = zero negative := rfl
  rw [hzero] at hread
  unfold zero at hread
  cases hread
  exact hm rfl

theorem readsBack_of_fewestDigits {num den : Nat} {counts : List Nat} {c : Nat} {p : Int}
    (h : fewestDigits x num den counts = some (c, p)) : x.readsBack c p = true := by
  induction counts with
  | nil => cases h
  | cons n more ih =>
    unfold fewestDigits at h
    dsimp only at h
    split at h
    · next hnear =>
      cases h
      exact hnear
    · split at h
      · next hfar =>
        cases h
        exact hfar
      · exact ih h

/-- A number of halves has no less digits than its first one behind the point is far away. -/
theorem le_digitCount_mul_pow (hm : m ≠ 0) {n : Nat} (hn : n ≤ 1074) :
    n ≤ Numeral.digitCount (m * 5 ^ n) + 400 := by
  by_contra hless
  have hne : m * 5 ^ n ≠ 0 := Nat.mul_ne_zero hm (by positivity)
  obtain ⟨k, rfl⟩ : ∃ k, n = k + 401 := ⟨n - 401, by omega⟩
  have hk : k ≤ 673 := by omega
  have hpos : 0 < Numeral.digitCount (m * 5 ^ (k + 401)) := by
    rw [Numeral.digitCount_eq hne]
    exact Nat.length_toDigits_pos
  have hlow := (Numeral.digitCount_le_iff hne (by omega : 0 < k)).mp (by omega)
  have hsmall : 5 ^ 401 * 5 ^ k < 2 ^ k * 5 ^ k := by
    rw [← pow_add, ← mul_pow, Nat.add_comm]
    exact lt_of_le_of_lt (Nat.le_mul_of_pos_left _ (Nat.pos_of_ne_zero hm)) hlow
  have hpower : ∀ j, 5 ^ j < 2 ^ k → 2 * j < k := by
    intro j hj
    by_contra hmany
    have hfour : 2 ^ k ≤ 4 ^ j := by
      rw [show 4 = 2 ^ 2 by rfl, ← pow_mul]
      exact Nat.pow_le_pow_right (by decide) (Nat.not_lt.mp hmany)
    exact absurd (hj.trans_le hfour) (Nat.not_lt.mpr (Nat.pow_le_pow_left (by decide) j))
  have := hpower 401 (Nat.lt_of_mul_lt_mul_right hsmall)
  omega

/-- All digits of a double, without rounding, are read as this double. -/
theorem toDouble_exactNumeral (hm : m ≠ 0) (h : CanonicalDouble m e) (negative : Bool) :
    (Numeral.mk negative (exactNumeral m e).1 (exactNumeral m e).2).toDouble =
      .finite negative m e h := by
  obtain ⟨hbits, hleast, hmost, -⟩ := h
  unfold exactNumeral
  by_cases he : 0 ≤ e
  · obtain ⟨n, rfl⟩ := Int.eq_ofNat_of_zero_le he
    simp only [if_pos he, Int.toNat_natCast, Nat.pow_eq]
    have hne : m * 2 ^ n ≠ 0 := Nat.mul_ne_zero hm (by positivity)
    have hcount : Numeral.digitCount (m * 2 ^ n) ≤ 400 := by
      rw [Numeral.digitCount_le_iff hne (by decide)]
      calc m * 2 ^ n ≤ 2 ^ 53 * 2 ^ 971 :=
            Nat.mul_le_mul (Nat.le_of_lt hbits) (Nat.pow_le_pow_right (by decide) (by omega))
        _ < 10 ^ 400 := by decide +kernel
    rw [Numeral.toDouble_of_near negative hne (by omega) (by omega)]
    exact ofFraction_eq negative hm _ (by decide) (by simp)
  · obtain ⟨n, hn⟩ : ∃ n : Nat, e = -(n : Int) := ⟨(-e).toNat, by omega⟩
    subst hn
    simp only [if_neg he, neg_neg, Int.toNat_natCast, Nat.pow_eq]
    have hne : m * 5 ^ n ≠ 0 := Nat.mul_ne_zero hm (by positivity)
    have hcount : Numeral.digitCount (m * 5 ^ n) ≤ 400 + n := by
      rw [Numeral.digitCount_le_iff hne (by omega), pow_add]
      refine Nat.mul_lt_mul_of_lt_of_le (lt_of_lt_of_le hbits (by decide +kernel))
        (Nat.pow_le_pow_left (by decide) n) (by positivity)
    have hmany := le_digitCount_mul_pow hm (n := n) (by omega)
    rw [Numeral.toDouble_of_near negative hne (by omega) (by omega)]
    refine ofFraction_eq negative hm _ (by positivity) ?_
    have hten : (10 : ℚ) ^ n = 2 ^ n * 5 ^ n := by
      rw [← mul_pow]
      norm_num
    rw [zpow_neg, zpow_natCast, show (-(n : Int)).toNat = 0 by omega, neg_neg, Int.toNat_natCast]
    push_cast
    rw [hten]
    field_simp

/-- The digits that are chosen for a double are read as this double. -/
theorem shortest_spec (negative : Bool) (hm : m ≠ 0) (h : CanonicalDouble m e) :
    (shortest (.finite negative m e h) m e).IsProper ∧
      ((shortest (.finite negative m e h) m e).numeral negative).toDouble =
        .finite negative m e h := by
  have hchosen : ∃ c p, shortest (.finite negative m e h) m e = .ofNumeral c p ∧
      (Numeral.mk negative c p).toDouble = .finite negative m e h := by
    unfold shortest
    dsimp only
    cases hfewest : fewestDigits (.finite negative m e h) (fraction m e).1 (fraction m e).2
        (List.range' 1 17) with
    | some found =>
      obtain ⟨c, p⟩ := found
      exact ⟨c, p, rfl, eq_of_beq (readsBack_of_fewestDigits hfewest)⟩
    | none => exact ⟨_, _, rfl, toDouble_exactNumeral hm h negative⟩
  obtain ⟨c, p, hdigits, hread⟩ := hchosen
  have hc := coefficient_ne_zero hm hread
  rw [hdigits, DecimalDigits.toDouble_ofNumeral negative hc]
  exact ⟨(DecimalDigits.exists_ofNumeral hc p).1, hread⟩

end Double

/-! ## Characters of numbers -/

namespace NumberLayout

variable {l : NumberLayout} {d : DecimalDigits}

/-- Characters that numbers are written with. -/
def isNumberCharacter (c : Char) : Bool := c.isDigit || c = '-' || c = '+' || c = '.' || c = 'e'

theorem isNumberCharacter_of_isDigit {c : Char} (h : c.isDigit = true) :
    isNumberCharacter c = true := by
  simp [isNumberCharacter, h]

theorem isNumberCharacter_zeros (n : Nat) : ∀ c ∈ zeros n, isNumberCharacter c = true := fun c hc => by
  rw [List.eq_of_mem_replicate hc]
  rfl

theorem isNumberCharacter_digitsOf (n : Nat) : ∀ c ∈ digitsOf n, isNumberCharacter c = true :=
  fun _ hc => isNumberCharacter_of_isDigit
    (Nat.isDigit_of_mem_toDigits (by decide) (by decide) hc)

theorem isNumberCharacter_positional (h : d.IsProper) :
    ∀ c ∈ l.positional d, isNumberCharacter c = true := by
  have hdigits : ∀ c ∈ d.digits, isNumberCharacter c = true := fun c hc =>
    isNumberCharacter_of_isDigit (h.digits c hc)
  have hpoint : ∀ c ∈ (if l.keepsPoint then ['.', '0'] else []), isNumberCharacter c = true := by
    split <;> simp [isNumberCharacter]
  unfold positional
  dsimp only
  split
  · simp only [List.forall_mem_append, List.forall_mem_cons]
    exact ⟨⟨rfl, rfl, isNumberCharacter_zeros _⟩, hdigits⟩
  split
  · simp only [List.forall_mem_append]
    exact ⟨⟨hdigits, isNumberCharacter_zeros _⟩, hpoint⟩
  · simp only [List.forall_mem_append, List.forall_mem_cons]
    exact ⟨fun c hc => hdigits c (List.mem_of_mem_take hc), rfl,
      fun c hc => hdigits c (List.mem_of_mem_drop hc)⟩

theorem isNumberCharacter_scientific (h : d.IsProper) :
    ∀ c ∈ l.scientific d, isNumberCharacter c = true := by
  have hdigits : ∀ c ∈ d.digits, isNumberCharacter c = true := fun c hc =>
    isNumberCharacter_of_isDigit (h.digits c hc)
  have hexponent : ∀ c ∈ exponentText l.exponentWidth (d.point - 1), isNumberCharacter c = true := by
    unfold exponentText
    simp only [List.forall_mem_append, List.forall_mem_cons]
    refine ⟨?_, isNumberCharacter_zeros _, isNumberCharacter_digitsOf _⟩
    split <;> rfl
  unfold scientific
  simp only [List.forall_mem_append, List.forall_mem_cons]
  refine ⟨?_, rfl, hexponent⟩
  split
  · simp [isNumberCharacter]
  · next hone => exact hone ▸ hdigits
  · next hall =>
    rw [hall] at hdigits
    simp only [List.forall_mem_cons] at hdigits ⊢
    exact ⟨hdigits.1, rfl, hdigits.2⟩

/-- A finite double is written with these characters. -/
theorem isNumberCharacter_write (negative : Bool) {m : Nat} {e : Int} (h : CanonicalDouble m e) :
    ∀ c ∈ l.write Double.shortest (.finite negative m e h), isNumberCharacter c = true := by
  unfold write
  dsimp only
  simp only [List.forall_mem_append]
  refine ⟨by split <;> simp [isNumberCharacter], ?_⟩
  split
  · simp only [List.forall_mem_cons]
    exact ⟨rfl, by split <;> simp [isNumberCharacter]⟩
  · next hm =>
    have hproper := (Double.shortest_spec negative hm h).1
    unfold layOut
    split
    · exact isNumberCharacter_positional hproper
    · exact isNumberCharacter_scientific hproper

end NumberLayout

/-! ## Numerals that are read -/

namespace Json

open Text (digitsValue)

variable {ds whole part after after' rest : List Char} {limit : Nat}

/-- A text does not go on with a character of a class. -/
def Stops (test : Char → Bool) (rest : List Char) : Prop :=
  ∀ c, rest.head? = some c → test c = false

theorem takeDigits_append (hds : ∀ c ∈ ds, c.isDigit = true) (hrest : Stops Char.isDigit rest) :
    takeDigits (ds ++ rest) = (ds, rest) := by
  have hstop : rest.takeWhile NumberText.isDecimal = [] := by
    cases rest with
    | nil => rfl
    | cons c rest => exact List.takeWhile_cons_of_neg (Bool.eq_false_iff.mp (hrest c rfl))
  have hsplit := List.takeWhile_append_dropWhile (p := NumberText.isDecimal) (l := rest)
  rw [hstop, List.nil_append] at hsplit
  have hdecimal : ∀ c ∈ ds, NumberText.isDecimal c = true := hds
  unfold takeDigits
  rw [List.takeWhile_append_of_pos hdecimal, List.dropWhile_append_of_pos hdecimal, hstop, hsplit,
    List.append_nil]

theorem takeFraction_append (hne : part ≠ []) (hpart : ∀ c ∈ part, c.isDigit = true)
    (hrest : Stops Char.isDigit rest) :
    takeFraction ('.' :: (part ++ rest)) = some (part, rest) := by
  rw [takeFraction, takeDigits_append hpart hrest]
  exact if_neg (mt List.isEmpty_iff.mp hne)

theorem takeFraction_of_stops (hrest : Stops (· = '.') rest) : takeFraction rest = some ([], rest) := by
  unfold takeFraction
  split
  · next rest => exact absurd (hrest '.' rfl) (by decide)
  · rfl

theorem takeExponent_of_stops (hrest : Stops (fun c => c = 'e' || c = 'E') rest) :
    takeExponent rest = some (none, rest) := by
  cases rest with
  | nil => rfl
  | cons c rest =>
    unfold takeExponent
    exact if_neg (Bool.eq_false_iff.mp (hrest c rfl))

/-- An exponent is read as it was written, however broad. -/
theorem takeExponent_append (width : Nat) (e : Int) (hrest : Stops Char.isDigit rest) :
    takeExponent ('e' :: (NumberLayout.exponentText width e ++ rest)) = some (some e, rest) := by
  have hdigits : ∀ c ∈ NumberLayout.zeros (width - (Nat.toDigits 10 e.natAbs).length) ++
      Nat.toDigits 10 e.natAbs, c.isDigit = true := by
    intro c hc
    rcases List.mem_append.mp hc with hzero | hdigit
    · rw [List.eq_of_mem_replicate hzero]
      rfl
    · exact Nat.isDigit_of_mem_toDigits (by decide) (by decide) hdigit
  have hne : NumberLayout.zeros (width - (Nat.toDigits 10 e.natAbs).length) ++
      Nat.toDigits 10 e.natAbs ≠ [] := List.append_ne_nil_of_right_ne_nil _ Nat.toDigits_ne_nil
  have hvalue : digitsValue (NumberLayout.zeros (width - (Nat.toDigits 10 e.natAbs).length) ++
      Nat.toDigits 10 e.natAbs) = e.natAbs :=
    (Text.digitsValue_zeros_append _ _).trans (Text.digitsValue_toDigits _)
  have hsign : ∀ negative ds, NumberText.takeSign ((if negative then '-' else '+') :: ds) =
      (negative, ds) := by
    intro negative ds
    cases negative <;> rfl
  unfold takeExponent NumberLayout.exponentText NumberLayout.digitsOf
  dsimp only
  rw [if_pos (by decide), List.cons_append]
  have hsigned := hsign (decide (e < 0)) (NumberLayout.zeros (width -
    (Nat.toDigits 10 e.natAbs).length) ++ Nat.toDigits 10 e.natAbs ++ rest)
  simp only [decide_eq_true_eq] at hsigned
  rw [hsigned]
  dsimp only
  rw [takeDigits_append hdigits hrest]
  dsimp only
  have he : (if decide (e < 0) = true then -(e.natAbs : Int) else e.natAbs) = e := by
    simp only [decide_eq_true_eq]
    split <;> omega
  rw [if_neg (mt List.isEmpty_iff.mp hne), hvalue, he]

/-- The parts of a number tell what is read, whichever of them there are. -/
theorem takeUnsigned_append (negative : Bool) (hne : whole ≠ [])
    (hwhole : ∀ c ∈ whole, c.isDigit = true) (hlead : whole.head? = some '0' → whole.length = 1)
    (hlimit : whole.length ≤ limit) (hafter : Stops Char.isDigit after)
    (hpart : takeFraction after = some (part, after')) {e : Option Int}
    (he : takeExponent after' = some (e, rest)) :
    takeUnsigned limit negative (whole ++ after) =
      if part.isEmpty && e.isNone then
        some (.integer (if negative then -(digitsValue whole : Int) else digitsValue whole), rest)
      else some (.real (Numeral.mk negative (digitsValue (whole ++ part))
        (e.getD 0 - part.length)).toDouble, rest) := by
  have hgood : (whole.isEmpty || (whole.head? = some '0' && whole.length ≠ 1) ||
      limit < whole.length) = false := by
    simp only [Bool.or_eq_false_iff, Bool.and_eq_false_iff, decide_eq_false_iff_not]
    refine ⟨⟨Bool.eq_false_iff.mpr (mt List.isEmpty_iff.mp hne), ?_⟩, by omega⟩
    by_cases hhead : whole.head? = some '0'
    · exact Or.inr (not_not.mpr (hlead hhead))
    · exact Or.inl hhead
  unfold takeUnsigned
  rw [takeDigits_append hwhole hafter]
  dsimp only
  rw [hgood, if_neg Bool.false_ne_true, hpart]
  simp only [Option.bind_eq_bind, Option.bind_some, he]

/-- A text does not go on with a character that a number can go on with. -/
def EndsNumber (rest : List Char) : Prop :=
  Stops (fun c => c.isDigit || c = '.' || c = 'e' || c = 'E') rest

theorem EndsNumber.stops (h : EndsNumber rest) {test : Char → Bool}
    (htest : ∀ c, test c = true → (c.isDigit || c = '.' || c = 'e' || c = 'E') = true) :
    Stops test rest := fun c hc => Bool.eq_false_iff.mpr fun hyes =>
  Bool.eq_false_iff.mp (h c hc) (htest c hyes)

theorem EndsNumber.digit (h : EndsNumber rest) : Stops Char.isDigit rest :=
  h.stops fun c hc => by simp [hc]

theorem EndsNumber.point (h : EndsNumber rest) : Stops (· = '.') rest :=
  h.stops fun c hc => by simp [decide_eq_true_eq.mp hc]

theorem EndsNumber.exponent (h : EndsNumber rest) : Stops (fun c => c = 'e' || c = 'E') rest :=
  h.stops fun c hc => by
    rcases Bool.or_eq_true_iff.mp hc with h | h <;> simp [decide_eq_true_eq.mp h]

theorem stops_cons {test : Char → Bool} {c : Char} (h : test c = false) (rest : List Char) :
    Stops test (c :: rest) := by
  intro d hd
  cases hd
  exact h

/-- Digits in front of a point and behind it. -/
theorem takeUnsigned_point (hrest : EndsNumber rest) (negative : Bool) (hne : whole ≠ [])
    (hwhole : ∀ c ∈ whole, c.isDigit = true) (hlead : whole.head? = some '0' → whole.length = 1)
    (hlimit : whole.length ≤ limit) (hpart : part ≠ []) (hdigits : ∀ c ∈ part, c.isDigit = true) :
    takeUnsigned limit negative (whole ++ ('.' :: (part ++ rest))) =
      some (.real (Numeral.mk negative (digitsValue (whole ++ part)) (-part.length)).toDouble,
        rest) := by
  rw [takeUnsigned_append negative hne hwhole hlead hlimit (stops_cons (by decide) _)
    (takeFraction_append hpart hdigits hrest.digit) (takeExponent_of_stops hrest.exponent),
    if_neg (by simp [hpart])]
  simp

section Layouts

variable {l : NumberLayout} {d : DecimalDigits} (h : d.IsProper) (hrest : EndsNumber rest)
  (negative : Bool) (hlimit : 0 < limit)

theorem isDigit_of_mem_zeros (k : Nat) :
    ∀ c ∈ List.replicate k '0', c.isDigit = true := fun c hc => by
  rw [List.eq_of_mem_replicate hc]
  rfl

theorem isDigit_of_mem_zero : ∀ c ∈ ['0'], c.isDigit = true := isDigit_of_mem_zeros 1

include h hrest

/-- Zeros stand between the point and the digits. -/
theorem takeUnsigned_behind (hlimit : 0 < limit) (k : Nat) :
    takeUnsigned limit negative (['0'] ++ ('.' :: (List.replicate k '0' ++ d.digits ++ rest))) =
      some (.real (Numeral.mk negative (digitsValue d.digits)
        (-(k : Int) - d.digits.length)).toDouble, rest) := by
  have hpart : ∀ c ∈ List.replicate k '0' ++ d.digits, c.isDigit = true := fun c hc =>
    (List.mem_append.mp hc).elim (isDigit_of_mem_zeros k c) (h.digits c)
  have hvalue : digitsValue (['0'] ++ (List.replicate k '0' ++ d.digits)) = digitsValue d.digits :=
    Text.digitsValue_zeros_append (k + 1) d.digits
  rw [takeUnsigned_point hrest negative (List.cons_ne_nil '0' []) isDigit_of_mem_zero
    (fun _ => rfl) hlimit (List.append_ne_nil_of_right_ne_nil _ h.nonempty) hpart, hvalue,
    List.length_append, List.length_replicate]
  congr 5
  push_cast
  ring

/-- Zeros fill the place between the digits and the point, and one more stands behind it. -/
theorem takeUnsigned_before (k : Nat) (hlimit : d.digits.length + k ≤ limit) :
    takeUnsigned limit negative ((d.digits ++ List.replicate k '0') ++ ('.' :: (['0'] ++ rest))) =
      some (.real (Numeral.mk negative (digitsValue d.digits) k).toDouble, rest) := by
  have hwhole : ∀ c ∈ d.digits ++ List.replicate k '0', c.isDigit = true := fun c hc =>
    (List.mem_append.mp hc).elim (h.digits c) (isDigit_of_mem_zeros k c)
  have hlead : (d.digits ++ List.replicate k '0').head? ≠ some '0' := by
    rw [List.head?_append_of_ne_nil _ h.nonempty]
    exact h.leading
  have hvalue : digitsValue (d.digits ++ List.replicate k '0' ++ ['0']) =
      digitsValue d.digits * 10 ^ (k + 1) := by
    rw [List.append_assoc, ← Text.digitsValue_append_zeros h.digits, List.replicate_succ']
  rw [takeUnsigned_point hrest negative (List.append_ne_nil_of_left_ne_nil h.nonempty _) hwhole
    (fun hhead => absurd hhead hlead) (by rwa [List.length_append, List.length_replicate])
    (List.cons_ne_nil '0' []) isDigit_of_mem_zero, hvalue, Numeral.toDouble_mul_pow]
  congr 5
  simp

/-- The point stands among the digits. -/
theorem takeUnsigned_among {n : Nat} (hlimit : n ≤ limit) (hn : 0 < n)
    (hlength : n < d.digits.length) :
    takeUnsigned limit negative (d.digits.take n ++ ('.' :: (d.digits.drop n ++ rest))) =
      some (.real (Numeral.mk negative (digitsValue d.digits)
        ((n : Int) - d.digits.length)).toDouble, rest) := by
  have htake : d.digits.take n ≠ [] := by
    simp only [ne_eq, List.take_eq_nil_iff, not_or]
    exact ⟨hn.ne', h.nonempty⟩
  have hdrop : d.digits.drop n ≠ [] := by
    simp only [ne_eq, List.drop_eq_nil_iff]
    omega
  have hlead : (d.digits.take n).head? ≠ some '0' := by
    rw [List.head?_take, if_neg hn.ne']
    exact h.leading
  rw [takeUnsigned_point hrest negative htake (fun c hc => h.digits c (List.mem_of_mem_take hc))
    (fun hhead => absurd hhead hlead) (by rw [List.length_take]; omega) hdrop
    (fun c hc => h.digits c (List.mem_of_mem_drop hc)), List.take_append_drop, List.length_drop]
  congr 5
  omega

include hlimit

theorem takeUnsigned_positional (hkeeps : l.keepsPoint = true) (hpoint : d.point ≤ limit) :
    takeUnsigned limit negative (l.positional d ++ rest) =
      some (.real (d.numeral negative).toDouble, rest) := by
  unfold NumberLayout.positional NumberLayout.zeros DecimalDigits.numeral
  split
  · next hlow =>
    obtain ⟨k, hk⟩ : ∃ k : Nat, d.point = -k := ⟨(-d.point).toNat, by omega⟩
    rw [hk, neg_neg, Int.toNat_natCast, ← takeUnsigned_behind h hrest negative hlimit]
    simp
  next hpositive =>
  dsimp only
  split
  · next hshort =>
    obtain ⟨k, hk⟩ : ∃ k : Nat, d.point = d.digits.length + k :=
      ⟨d.point.toNat - d.digits.length, by omega⟩
    have hcount : d.point.toNat - d.digits.length = k := by omega
    have hroom : d.digits.length + k ≤ limit := by omega
    rw [hcount, hk, add_sub_cancel_left, ← takeUnsigned_before h hrest negative k hroom]
    simp
  · next hlong =>
    obtain ⟨n, hn⟩ : ∃ n : Nat, d.point = n := ⟨d.point.toNat, by omega⟩
    rw [hn] at hpoint hpositive hlong ⊢
    have hroom : n ≤ limit := by omega
    have hamong := takeUnsigned_among h hrest negative hroom (by omega) (by omega)
    rw [Int.toNat_natCast, List.append_assoc, List.cons_append, hamong]

theorem takeUnsigned_scientific :
    takeUnsigned limit negative (l.scientific d ++ rest) =
      some (.real (d.numeral negative).toDouble, rest) := by
  obtain ⟨hne, hdigits, hlead⟩ := h
  have hexponent := takeExponent_append l.exponentWidth (d.point - 1) hrest.digit
  have hstop : ∀ after, Stops Char.isDigit ('e' :: after) := stops_cons (by decide)
  unfold NumberLayout.scientific DecimalDigits.numeral
  split
  · next hnil => exact absurd hnil hne
  · next c hone =>
    rw [hone] at hdigits ⊢
    change takeUnsigned limit negative ([c] ++ ('e' ::
      (NumberLayout.exponentText l.exponentWidth (d.point - 1) ++ rest))) = _
    rw [takeUnsigned_append negative (List.cons_ne_nil c []) hdigits (fun _ => rfl) hlimit (hstop _)
      (takeFraction_of_stops (stops_cons (by decide) _)) hexponent, if_neg (by simp)]
    simp
  · next c more hmore hall =>
    rw [hall] at hdigits ⊢
    have htext : c :: '.' :: more ++ 'e' :: NumberLayout.exponentText l.exponentWidth (d.point - 1) ++
        rest = [c] ++ ('.' :: (more ++ ('e' ::
          (NumberLayout.exponentText l.exponentWidth (d.point - 1) ++ rest)))) := by simp
    have hfirst : ∀ b ∈ [c], b.isDigit = true := fun b hb =>
      hdigits b (List.mem_cons.mpr (Or.inl (List.mem_singleton.mp hb)))
    rw [htext, takeUnsigned_append negative (List.cons_ne_nil c []) hfirst (fun _ => rfl) hlimit
      (stops_cons (by decide) _) (takeFraction_append hmore
        (fun b hb => hdigits b (List.mem_cons_of_mem c hb)) (hstop _)) hexponent,
      if_neg (by simp)]
    rw [Option.getD_some, List.length_cons]
    congr 5
    push_cast
    ring

/-- Digits that are laid out are read as the numeral that they stand for. -/
theorem takeUnsigned_layOut (hkeeps : l.keepsPoint = true) (hhigh : l.high ≤ limit) :
    takeUnsigned limit negative (l.layOut d ++ rest) =
      some (.real (d.numeral negative).toDouble, rest) := by
  unfold NumberLayout.layOut
  split
  · next hplace =>
    have hpoint : d.point ≤ l.high := of_decide_eq_true (Bool.and_eq_true_iff.mp hplace).2
    exact takeUnsigned_positional h hrest negative hlimit hkeeps (hpoint.trans hhigh)
  · exact takeUnsigned_scientific h hrest negative hlimit

end Layouts

/-! ## Numbers among the words -/

theorem append_of_takeWord {word : String} {cs : List Char} (h : takeWord word cs = some rest) :
    cs = word.toList ++ rest := by
  unfold takeWord at h
  dsimp only at h
  split at h
  · next hword =>
    cases h
    conv_lhs => rw [← List.take_append_drop word.toList.length cs, hword]
  · cases h

/-- The sign of a number that is written. -/
def signText (negative : Bool) : List Char := if negative then ['-'] else []

/-- No word starts as a number does. -/
theorem takeWord_number (negative : Bool) {c : Char} (hc : c.isDigit = true) (more : List Char)
    {word : String} {v : Json} (hword : (word, v) ∈ words) :
    takeWord word (signText negative ++ c :: more) = none := by
  have hletters : ∀ p ∈ words, 2 ≤ p.1.toList.length ∧
      (p.1.toList.take 2).all (fun d => !d.isDigit) = true := by decide
  obtain ⟨hlength, hletter⟩ := hletters (word, v) hword
  by_contra hsome
  obtain ⟨rest, hrest⟩ := Option.ne_none_iff_exists'.mp hsome
  have hfront : c ∈ (signText negative ++ c :: more).take 2 := by
    cases negative
    · exact List.mem_cons_self
    · exact List.mem_cons_of_mem _ List.mem_cons_self
  rw [append_of_takeWord hrest, List.take_append_of_le_length hlength] at hfront
  have hother := List.all_eq_true.mp hletter c hfront
  rw [hc] at hother
  cases hother

theorem takeNumberOrWord_number (negative : Bool) {c : Char} (hc : c.isDigit = true)
    (more : List Char) :
    takeNumberOrWord limit (signText negative ++ c :: more) =
      takeUnsigned limit negative (c :: more) := by
  unfold takeNumberOrWord
  split
  · next hfound =>
    obtain ⟨⟨word, v⟩, hmem, hword⟩ := List.exists_of_findSome?_eq_some hfound
    dsimp only at hword
    rw [takeWord_number negative hc more hmem] at hword
    cases hword
  cases negative with
  | true => rfl
  | false =>
    have hminus : c ≠ '-' := by
      rintro rfl
      cases hc
    dsimp only [signText]
    split
    · next hsign => cases hsign; exact absurd rfl hminus
    · rfl

theorem takeUnsigned_cons_of_not_digit (negative : Bool) {c : Char} (hc : c.isDigit = false)
    (more : List Char) : takeUnsigned limit negative (c :: more) = none := by
  have hdecimal : ¬NumberText.isDecimal c = true := Bool.eq_false_iff.mp hc
  unfold takeUnsigned takeDigits
  rw [List.takeWhile_cons_of_neg hdecimal]
  rfl

/-- A text that starts with a digit is read as a number, after its sign. -/
theorem takeNumberOrWord_of_takeUnsigned {negative : Bool} {cs : List Char}
    {found : Json × List Char} (h : takeUnsigned limit negative cs = some found) :
    takeNumberOrWord limit (signText negative ++ cs) = some found := by
  cases cs with
  | nil => cases h
  | cons c more =>
    cases hc : c.isDigit with
    | true => rw [takeNumberOrWord_number negative hc, h]
    | false =>
      rw [takeUnsigned_cons_of_not_digit negative hc] at h
      cases h

/-- A finite double is read as it was written. -/
theorem takeNumberOrWord_write {l : NumberLayout} (hkeeps : l.keepsPoint = true)
    (hhigh : l.high ≤ limit) (hlimit : 0 < limit) (hrest : EndsNumber rest) (negative : Bool)
    {m : Nat} {e : Int} (h : CanonicalDouble m e) :
    takeNumberOrWord limit (l.write Double.shortest (.finite negative m e h) ++ rest) =
      some (.real (.finite negative m e h), rest) := by
  unfold NumberLayout.write
  dsimp only
  rw [List.append_assoc, hkeeps]
  change takeNumberOrWord limit (signText negative ++ _) = _
  refine takeNumberOrWord_of_takeUnsigned ?_
  split
  · next hzero =>
    subst hzero
    obtain rfl : e = -1074 := h.2.2.2.resolve_left (by decide)
    exact takeUnsigned_point hrest negative (List.cons_ne_nil '0' []) isDigit_of_mem_zero
      (fun _ => rfl) hlimit (List.cons_ne_nil '0' []) isDigit_of_mem_zero
  · next hm =>
    obtain ⟨hproper, hvalue⟩ := Double.shortest_spec negative hm h
    rw [takeUnsigned_layOut hproper hrest negative hlimit hkeeps hhigh, hvalue]

theorem toList_toString (n : Int) :
    (toString n).toList = signText (decide (n < 0)) ++ Nat.toDigits 10 n.natAbs := by
  have hdigits : ∀ k : Nat, k.repr.toList = Nat.toDigits 10 k := fun k => by
    rw [← Nat.toString_eq_repr, Nat.toString_eq_ofList_toDigits, String.toList_ofList]
  rw [Int.toString_eq_repr]
  cases n with
  | ofNat k => exact hdigits k
  | negSucc k =>
    have hneg : decide (Int.negSucc k < 0) = true := decide_eq_true (Int.negSucc_lt_zero k)
    have htext : (Int.negSucc k).repr = "-" ++ (k + 1).repr := rfl
    rw [hneg, htext, String.toList_append, hdigits]
    rfl

/-- Of a whole number only its sign and its digits are written. -/
theorem not_mem_toString {c : Char} (hsign : c ≠ '-') (hc : c.isDigit = false) (n : Int) :
    c ∉ (toString n).toList := by
  rw [toList_toString, List.mem_append, not_or]
  constructor
  · unfold signText
    split
    · simpa using hsign
    · exact List.not_mem_nil
  · intro hmem
    rw [Nat.isDigit_of_mem_toDigits (by decide) (by decide) hmem] at hc
    cases hc

/-- A whole number is read as it was written. -/
theorem takeNumberOrWord_toString (hrest : EndsNumber rest) (n : Int)
    (hlimit : (Nat.toDigits 10 n.natAbs).length ≤ limit) :
    takeNumberOrWord limit ((toString n).toList ++ rest) = some (.integer n, rest) := by
  have hdigits : ∀ c ∈ Nat.toDigits 10 n.natAbs, c.isDigit = true := fun c =>
    Nat.isDigit_of_mem_toDigits (by decide) (by decide)
  have hlead : (Nat.toDigits 10 n.natAbs).head? = some '0' →
      (Nat.toDigits 10 n.natAbs).length = 1 := by
    intro hhead
    have hzero : n.natAbs = 0 := by
      by_contra hn
      exact Text.head?_toDigits hn hhead
    rw [hzero]
    rfl
  rw [toList_toString, List.append_assoc]
  refine takeNumberOrWord_of_takeUnsigned ?_
  rw [takeUnsigned_append _ Nat.toDigits_ne_nil hdigits hlead hlimit hrest.digit
    (takeFraction_of_stops hrest.point) (takeExponent_of_stops hrest.exponent),
    Text.digitsValue_toDigits, if_pos (by rfl)]
  congr 3
  simp only [decide_eq_true_eq]
  split <;> omega

end Json

end Worksheet
