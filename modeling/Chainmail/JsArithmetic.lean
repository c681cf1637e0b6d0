import Chainmail.FloatingPoint
import Chainmail.JsNumber

/-!
What JavaScript's operators compute: the double nearest to the exact result, and an
infinity where that is too large. `JsNumber.add`, `sub` and `mul` are the exact
results; they are what is computed wherever a double holds them, as one does every
whole number of up to 53 digits.
-/

namespace Chainmail.JsNumber

open FloatingPoint

/-- The doubles, but for the bound on their size. -/
def double : Format := ⟨53, -1074, by decide⟩

/-- No double has this size. -/
def tooLarge : ℚ := 2 ^ 1024

def ofRounded (value : ℚ) : JsNumber :=
  if tooLarge ≤ value then .posInfinity
  else if value ≤ -tooLarge then .negInfinity
  else .finite value

/-- The double that stands for an exact result. -/
def rounded : JsNumber → JsNumber
  | .finite value => ofRounded (double.nearest value)
  | other => other

/-- The infinity below or above zero. -/
def infinity (negative : Bool) : JsNumber := if negative then .negInfinity else .posInfinity

/-- A product with an infinity has its sign, and with zero it is no number. -/
def mul : JsNumber → JsNumber → JsNumber
  | .nan, _ => .nan
  | _, .nan => .nan
  | .finite a, .finite b => .finite (a * b)
  | a, b =>
      if a.truthy && b.truthy then infinity (a.lt (.finite 0) != b.lt (.finite 0)) else .nan

/-- The operator `+` on numbers. -/
def plus (a b : JsNumber) : JsNumber := (a.add b).rounded

/-- The operator `-`. -/
def minus (a b : JsNumber) : JsNumber := (a.sub b).rounded

/-- The operator `*`. -/
def times (a b : JsNumber) : JsNumber := (a.mul b).rounded

/-- `Math.floor` -/
def floor : JsNumber → JsNumber
  | .finite value => .finite ⌊value⌋
  | other => other

section Infinite
variable {factor : ℚ}

/-- An infinity stays when it is scaled by a number above zero. -/
theorem posInfinity_mul (positive : 0 < factor) : posInfinity.mul (.finite factor) = .posInfinity := by
  have nonzero : factor ≠ 0 := positive.ne'
  have above : ¬ factor < 0 := not_lt.mpr positive.le
  simp [mul, truthy, nonzero, lt, above, infinity]

theorem negInfinity_mul (positive : 0 < factor) : negInfinity.mul (.finite factor) = .negInfinity := by
  have nonzero : factor ≠ 0 := positive.ne'
  have above : ¬ factor < 0 := not_lt.mpr positive.le
  simp [mul, truthy, nonzero, lt, above, infinity]

end Infinite

section Order

/-- A bound from above that a number keeps is kept by smaller ones. -/
theorem ofRounded_lt_of_le {a b : ℚ} {bound : JsNumber} (order : a ≤ b)
    (below : (ofRounded b).lt bound = true) : (ofRounded a).lt bound = true := by
  have size : 0 < tooLarge := pow_pos two_pos 1024
  unfold ofRounded at below ⊢
  generalize tooLarge = large at size below ⊢
  cases bound <;> split_ifs at below ⊢ <;> simp only [lt, decide_eq_true_eq] at below ⊢ <;>
    first | linarith | contradiction

theorem rounded_lt_of_le {a b : ℚ} {bound : JsNumber} (order : a ≤ b)
    (below : (rounded (.finite b)).lt bound = true) : (rounded (.finite a)).lt bound = true :=
  ofRounded_lt_of_le (Format.nearest_mono order) below

theorem ofRounded_ne_nan (value : ℚ) : ofRounded value ≠ .nan := by
  rw [ofRounded]
  split_ifs <;> exact fun same => by cases same

/-- A natural number is at most a number where it is at most its floor. -/
theorem floor_ge_ofNat (a : JsNumber) (n : Nat) : a.floor.ge (ofNat n) = a.ge (ofNat n) := by
  cases a with
  | finite value =>
      have whole : ((⌊value⌋ : ℤ) : ℚ) < n ↔ value < n := by
        rw [← Int.cast_natCast, Int.cast_lt, Int.floor_lt]
      simp only [floor, ofNat, ge, lt, whole]
  | _ => rfl

theorem rounded_ge_of_le {a b : ℚ} {bound : JsNumber} (order : a ≤ b) (given : bound ≠ .nan)
    (above : (rounded (.finite a)).ge bound = true) : (rounded (.finite b)).ge bound = true := by
  have left : rounded (.finite a) ≠ .nan := ofRounded_ne_nan _
  have right : rounded (.finite b) ≠ .nan := ofRounded_ne_nan _
  rw [ge_eq_not_lt left given, Bool.not_eq_true'] at above
  rw [ge_eq_not_lt right given, Bool.not_eq_true']
  by_contra below
  have less := rounded_lt_of_le order (Bool.not_eq_false _ ▸ below)
  rw [above] at less
  cases less

/-- Rounding keeps the order. -/
theorem rounded_le_rounded {a b : ℚ} (order : a ≤ b) :
    (rounded (.finite a)).le (rounded (.finite b)) = true := by
  have proper : rounded (.finite a) ≠ .nan := ofRounded_ne_nan _
  refine rounded_ge_of_le order proper ?_
  rw [ge_eq_not_lt proper proper, lt_irrefl]
  rfl

end Order

section Exact

/-- A double holds this number as it is. -/
def IsDouble (value : ℚ) : Prop := rounded (.finite value) = .finite value

theorem plus_of_double {a b : ℚ} (sum : IsDouble (a + b)) :
    (JsNumber.finite a).plus (.finite b) = (JsNumber.finite a).add (.finite b) := sum

theorem minus_of_double {a b : ℚ} (difference : IsDouble (a - b)) :
    (JsNumber.finite a).minus (.finite b) = (JsNumber.finite a).sub (.finite b) := by
  rw [sub_eq_add_neg] at difference
  exact difference

theorem rounded_of_holds {value : ℚ} (held : double.Holds value) (size : |value| < tooLarge) :
    rounded (.finite value) = .finite value := by
  obtain ⟨low, high⟩ := abs_lt.mp size
  rw [rounded, Format.nearest_of_holds held, ofRounded, if_neg (not_le.mpr high),
    if_neg (not_le.mpr low)]

theorem rounded_int {n : ℤ} (size : |n| ≤ 2 ^ 53) : rounded (.finite n) = .finite n := by
  refine rounded_of_holds (Format.holds_intCast (by decide) size) ?_
  have small : |(n : ℚ)| ≤ 2 ^ 53 := by exact_mod_cast size
  have large : (2 : ℚ) ^ 53 < tooLarge := pow_lt_pow_right₀ one_lt_two (by decide)
  exact lt_of_le_of_lt small large

theorem isDouble_int {n : ℤ} (least : -2 ^ 53 ≤ n) (most : n ≤ 2 ^ 53) : IsDouble n :=
  rounded_int (abs_le.mpr ⟨least, most⟩)

theorem minus_int {a b : ℤ} (size : |a - b| ≤ 2 ^ 53) :
    (JsNumber.finite a).minus (.finite b) = (JsNumber.finite a).sub (.finite b) := by
  refine minus_of_double ?_
  rw [IsDouble, ← Int.cast_sub, rounded_int size]

theorem ofNat_eq_int (n : Nat) : ofNat n = .finite ((n : ℤ) : ℚ) := by
  rw [ofNat, Int.cast_natCast]

end Exact

end Chainmail.JsNumber
