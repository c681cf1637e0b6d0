import Mathlib.Data.Int.Log
import Mathlib.Data.Rat.Floor
import Mathlib.Tactic.Positivity

/-!
Rounding to a binary floating point format, to the nearest number and of two to the
even one. The format has digits and a least unit but no greatest exponent: where a
rounded number is too large is for its user to say. Rounding keeps the order, and
whatever the format holds is its own rounding; the bounds that a program's
arithmetic rests on follow from these two.
-/

namespace FloatingPoint

section Numbers
variable {K : Type*} [Field K]

/-- The digits of a significand and the exponent of the least unit. -/
structure Format where
  precision : Nat
  least : ℤ
  hasDigit : 0 < precision

/-- A number that the format holds. -/
def Format.Holds (format : Format) (x : K) : Prop :=
  ∃ (significand : ℤ) (unit : ℤ), |significand| ≤ 2 ^ format.precision ∧ format.least ≤ unit ∧
    x = significand * 2 ^ unit

theorem Format.holds_intCast {format : Format} {n : ℤ} (whole : format.least ≤ 0)
    (size : |n| ≤ 2 ^ format.precision) : format.Holds (n : K) :=
  ⟨n, 0, size, whole, by simp⟩

end Numbers

section Rounding
variable {K : Type*} [Field K] [LinearOrder K] [FloorRing K]

/-- The nearest whole number, and of two the even one. -/
def roundEven (x : K) : ℤ :=
  if Int.fract x < 1 / 2 then ⌊x⌋
  else if 1 / 2 < Int.fract x then ⌊x⌋ + 1
  else if Even ⌊x⌋ then ⌊x⌋ else ⌊x⌋ + 1

namespace Format

variable (format : Format)

/-- The exponent of the unit at the last digit of a number. -/
def exponent (x : K) : ℤ := max (Int.log 2 |x| - (format.precision - 1)) format.least

/-- The number of the format that is nearest, and of two the one with an even last digit. -/
def nearest (x : K) : K :=
  roundEven (x / 2 ^ format.exponent x) * 2 ^ format.exponent x

theorem exponent_neg (x : K) : format.exponent (-x) = format.exponent x := by
  rw [exponent, exponent, abs_neg]

end Format

theorem floor_le_roundEven (x : K) : ⌊x⌋ ≤ roundEven x := by
  rw [roundEven]
  split_ifs <;> omega

theorem roundEven_le_floor_add_one (x : K) : roundEven x ≤ ⌊x⌋ + 1 := by
  rw [roundEven]
  split_ifs <;> omega

end Rounding

variable {K : Type*} [Field K] [LinearOrder K] [IsStrictOrderedRing K] [FloorRing K]

section Whole

@[simp] theorem roundEven_intCast (n : ℤ) : roundEven (n : K) = n := by
  have half : (0 : K) < 1 / 2 := by positivity
  rw [roundEven, Int.fract_intCast, if_pos half, Int.floor_intCast]

theorem roundEven_mono {x y : K} (order : x ≤ y) : roundEven x ≤ roundEven y := by
  rcases lt_or_eq_of_le (Int.floor_le_floor order) with apart | same
  · calc roundEven x ≤ ⌊x⌋ + 1 := roundEven_le_floor_add_one x
      _ ≤ ⌊y⌋ := apart
      _ ≤ roundEven y := floor_le_roundEven y
  · have parts : Int.fract x ≤ Int.fract y := by
      rw [Int.fract, Int.fract, same]
      linarith
    rw [roundEven, roundEven, same]
    split_ifs <;> first | omega | linarith

theorem roundEven_neg (x : K) : roundEven (-x) = -roundEven x := by
  by_cases whole : Int.fract x = 0
  · obtain ⟨n, rfl⟩ : ∃ n : ℤ, x = n := ⟨⌊x⌋, by rw [← sub_eq_zero]; exact whole⟩
    rw [← Int.cast_neg, roundEven_intCast, roundEven_intCast]
  -- Away from the whole numbers the two parts of `-x` are those of `x` turned round.
  · have part : Int.fract (-x) = 1 - Int.fract x := Int.fract_neg whole
    have floor : ⌊-x⌋ = -⌊x⌋ - 1 := by
      have split := Int.floor_add_fract (-x)
      have original := Int.floor_add_fract x
      have cast : ((⌊-x⌋ : ℤ) : K) = ((-⌊x⌋ - 1 : ℤ) : K) := by
        push_cast
        linarith
      exact_mod_cast cast
    have parity : Even (-⌊x⌋ - 1) ↔ ¬ Even ⌊x⌋ := by
      rw [Int.even_sub_one, even_neg]
    simp only [roundEven, part, floor, parity]
    split_ifs <;> first | omega | linarith

end Whole

namespace Format

variable {format : Format} {x y : K}

theorem unit_pos (e : ℤ) : (0 : K) < 2 ^ e := zpow_pos two_pos e

theorem nearest_neg (x : K) : format.nearest (-x) = -format.nearest x := by
  rw [nearest, exponent_neg, neg_div, roundEven_neg, nearest, Int.cast_neg, neg_mul]

theorem nearest_of_multiple (n : ℤ) (shape : x = n * 2 ^ format.exponent x) :
    format.nearest x = x := by
  have whole : x / 2 ^ format.exponent x = n := by
    rw [div_eq_iff (unit_pos _).ne']
    exact shape
  rw [nearest, whole, roundEven_intCast]
  exact shape.symm

@[simp] theorem nearest_zero : format.nearest (0 : K) = 0 :=
  nearest_of_multiple 0 (by simp)

/-- The unit of a short significand is at least the one its number is rounded to. -/
theorem exponent_le_of_short {significand unit : ℤ} (nonzero : significand ≠ 0)
    (short : |significand| < 2 ^ format.precision) (fine : format.least ≤ unit) :
    format.exponent ((significand : K) * 2 ^ unit) ≤ unit := by
  have size : |(significand : K) * 2 ^ unit| < 2 ^ (format.precision + unit) := by
    have unitSize : |(2 : K) ^ unit| = 2 ^ unit := abs_of_pos (unit_pos unit)
    rw [abs_mul, unitSize, zpow_add₀ two_ne_zero, zpow_natCast]
    exact mul_lt_mul_of_pos_right (by exact_mod_cast short) (unit_pos unit)
  have positive : 0 < |(significand : K) * 2 ^ unit| :=
    abs_pos.mpr (mul_ne_zero (by exact_mod_cast nonzero) (unit_pos unit).ne')
  have log : Int.log 2 |(significand : K) * 2 ^ unit| < format.precision + unit :=
    (Int.lt_zpow_iff_log_lt (by decide) positive).mp (by exact_mod_cast size)
  exact max_le (by omega) fine

theorem nearest_of_short {significand unit : ℤ} (short : |significand| < 2 ^ format.precision)
    (fine : format.least ≤ unit) :
    format.nearest ((significand : K) * 2 ^ unit) = significand * 2 ^ unit := by
  by_cases zero : significand = 0
  · simp [zero]
  · have below := exponent_le_of_short (K := K) zero short fine
    generalize known : format.exponent ((significand : K) * 2 ^ unit) = low at below
    refine nearest_of_multiple (significand * 2 ^ (unit - low).toNat) ?_
    have shift : (unit - low).toNat + low = unit := by omega
    rw [known, Int.cast_mul, Int.cast_pow, Int.cast_ofNat, mul_assoc, ← zpow_natCast,
      ← zpow_add₀ two_ne_zero, shift]

theorem nearest_of_holds (held : format.Holds x) : format.nearest x = x := by
  obtain ⟨significand, unit, size, fine, rfl⟩ := held
  rcases lt_or_eq_of_le size with short | full
  · exact nearest_of_short short fine
  -- A significand of one digit more is a power of two, and so half of it has a unit of twice.
  · obtain ⟨digits, more⟩ := Nat.exists_eq_succ_of_ne_zero format.hasDigit.ne'
    obtain ⟨half, rfl⟩ : (2 : ℤ) ∣ significand := by
      rw [← dvd_abs, full, more]
      exact dvd_pow_self 2 (Nat.succ_ne_zero digits)
    have short : |half| < 2 ^ format.precision := by
      rw [abs_mul, abs_of_pos (by decide : (0 : ℤ) < 2)] at full
      have positive : (0 : ℤ) < 2 ^ format.precision := by positivity
      omega
    have moved : ((2 * half : ℤ) : K) * 2 ^ unit = half * 2 ^ (unit + 1) := by
      rw [zpow_add_one₀ two_ne_zero]
      push_cast
      ring
    rw [moved]
    exact nearest_of_short short (by omega)

section Order

theorem nearest_nonneg (nonnegative : 0 ≤ x) : 0 ≤ format.nearest x := by
  have scaled : 0 ≤ x / 2 ^ format.exponent x := div_nonneg nonnegative (unit_pos _).le
  have whole : roundEven (0 : K) ≤ roundEven (x / 2 ^ format.exponent x) := roundEven_mono scaled
  have zero : roundEven (0 : K) = 0 := by simpa using roundEven_intCast (K := K) 0
  rw [zero] at whole
  exact mul_nonneg (by exact_mod_cast whole) (unit_pos _).le

theorem exponent_mono (positive : 0 < x) (order : x ≤ y) : format.exponent x ≤ format.exponent y := by
  have log : Int.log 2 |x| ≤ Int.log 2 |y| := by
    rw [abs_of_pos positive, abs_of_pos (positive.trans_le order)]
    exact Int.log_mono_right positive order
  exact max_le_max (by omega) le_rfl

/-- A number is rounded to at most the next power of two. -/
theorem nearest_le_power (positive : 0 < x) :
    format.nearest x ≤ 2 ^ (format.exponent x + format.precision) := by
  have size : x < 2 ^ (format.exponent x + format.precision) := by
    have above := Int.lt_zpow_succ_log_self (b := 2) (by decide) x
    have exponent : Int.log 2 x + 1 ≤ format.exponent x + format.precision := by
      have most := le_max_left (Int.log 2 |x| - (format.precision - 1)) format.least
      rw [abs_of_pos positive] at most
      have unfolded : format.exponent x =
          max (Int.log 2 |x| - (format.precision - 1)) format.least := rfl
      rw [abs_of_pos positive] at unfolded
      omega
    calc x < ((2 : ℕ) : K) ^ (Int.log 2 x + 1) := above
      _ = 2 ^ (Int.log 2 x + 1) := by norm_num
      _ ≤ 2 ^ (format.exponent x + format.precision) := zpow_le_zpow_right₀ one_le_two exponent
  have scaled : x / 2 ^ format.exponent x ≤ ((2 ^ format.precision : ℤ) : K) := by
    rw [div_le_iff₀ (unit_pos _)]
    push_cast
    rw [← zpow_natCast, ← zpow_add₀ two_ne_zero, add_comm]
    exact size.le
  have whole := roundEven_mono scaled
  rw [roundEven_intCast] at whole
  have cast : (roundEven (x / 2 ^ format.exponent x) : K) ≤ 2 ^ format.precision := by
    exact_mod_cast whole
  rw [nearest, add_comm, zpow_add₀ two_ne_zero, zpow_natCast]
  exact mul_le_mul_of_nonneg_right cast (unit_pos _).le

/-- With all digits in use a number is rounded to at least the power of two below it. -/
theorem power_le_nearest (positive : 0 < y) (normal : format.least < format.exponent y) :
    2 ^ (format.exponent y + format.precision - 1) ≤ format.nearest y := by
  have log : Int.log 2 y = format.exponent y + format.precision - 1 := by
    have unfolded : format.exponent y =
        max (Int.log 2 |y| - (format.precision - 1)) format.least := rfl
    rw [abs_of_pos positive] at unfolded
    omega
  have size : 2 ^ (format.exponent y + format.precision - 1) ≤ y := by
    rw [← log]
    exact_mod_cast Int.zpow_log_le_self (b := 2) (by decide) positive
  obtain ⟨digits, more⟩ := Nat.exists_eq_succ_of_ne_zero format.hasDigit.ne'
  have exponent : format.exponent y + format.precision - 1 = digits + format.exponent y := by
    rw [more]
    omega
  rw [exponent, zpow_add₀ two_ne_zero, zpow_natCast] at size ⊢
  have scaled : ((2 ^ digits : ℤ) : K) ≤ y / 2 ^ format.exponent y := by
    rw [le_div_iff₀ (unit_pos _)]
    push_cast
    exact size
  have whole := roundEven_mono scaled
  rw [roundEven_intCast] at whole
  have cast : (2 : K) ^ digits ≤ roundEven (y / 2 ^ format.exponent y) := by
    exact_mod_cast whole
  exact mul_le_mul_of_nonneg_right cast (unit_pos _).le

theorem nearest_mono_of_pos (positive : 0 < x) (order : x ≤ y) :
    format.nearest x ≤ format.nearest y := by
  have higher : format.exponent x ≤ format.exponent y := exponent_mono positive order
  rcases lt_or_eq_of_le higher with apart | same
  -- With a larger unit the power of two between the two numbers is between their roundings.
  · have normal : format.least < format.exponent y := lt_of_le_of_lt (le_max_right _ _) apart
    calc format.nearest x ≤ 2 ^ (format.exponent x + format.precision) := nearest_le_power positive
      _ ≤ 2 ^ (format.exponent y + format.precision - 1) :=
        zpow_le_zpow_right₀ one_le_two (by omega)
      _ ≤ format.nearest y := power_le_nearest (positive.trans_le order) normal
  · rw [nearest, nearest, same]
    have scaled := div_le_div_of_nonneg_right order (unit_pos (K := K) (format.exponent y)).le
    have whole := roundEven_mono scaled
    exact mul_le_mul_of_nonneg_right (by exact_mod_cast whole) (unit_pos _).le

/-- Rounding keeps the order. -/
theorem nearest_mono (order : x ≤ y) : format.nearest x ≤ format.nearest y := by
  rcases lt_or_ge 0 x with positive | nonpositive
  · exact nearest_mono_of_pos positive order
  · rcases lt_or_ge y 0 with negative | nonnegative
    · have turned : format.nearest (-y) ≤ format.nearest (-x) :=
        nearest_mono_of_pos (neg_pos.mpr negative) (neg_le_neg order)
      rw [nearest_neg, nearest_neg] at turned
      exact neg_le_neg_iff.mp turned
    · have left : 0 ≤ format.nearest (-x) := nearest_nonneg (neg_nonneg.mpr nonpositive)
      rw [nearest_neg] at left
      exact (neg_nonneg.mp left).trans (nearest_nonneg nonnegative)

end Order
end Format
end FloatingPoint
