import Mathlib.Data.Rat.Floor

/-!
Numbers as a JavaScript program compares and prints them. Sums are the exact ones
here; `JsArithmetic` takes them to doubles, as the operators do. The two zeros
compare equal and print alike, so they are one value. Two numbers print to the
same text only when they are the same value, so a number stands for its own text
wherever one is spliced into a key.
-/

namespace Chainmail

inductive JsNumber where
  | nan
  | negInfinity
  | posInfinity
  | finite (value : ℚ)
deriving DecidableEq

namespace JsNumber

def ofNat (n : Nat) : JsNumber := .finite n

/-- The `<` operator; every comparison with `NaN` is false. -/
def lt : JsNumber → JsNumber → Bool
  | .nan, _ => false
  | _, .nan => false
  | .posInfinity, _ => false
  | _, .negInfinity => false
  | .negInfinity, _ => true
  | _, .posInfinity => true
  | .finite a, .finite b => decide (a < b)

def neg : JsNumber → JsNumber
  | .nan => .nan
  | .negInfinity => .posInfinity
  | .posInfinity => .negInfinity
  | .finite value => .finite (-value)

def add : JsNumber → JsNumber → JsNumber
  | .nan, _ => .nan
  | _, .nan => .nan
  | .posInfinity, .negInfinity => .nan
  | .negInfinity, .posInfinity => .nan
  | .posInfinity, _ => .posInfinity
  | _, .posInfinity => .posInfinity
  | .negInfinity, _ => .negInfinity
  | _, .negInfinity => .negInfinity
  | .finite a, .finite b => .finite (a + b)

def sub (a b : JsNumber) : JsNumber := a.add b.neg

/-- The `>=` operator. -/
def ge : JsNumber → JsNumber → Bool
  | .nan, _ => false
  | _, .nan => false
  | a, b => !a.lt b

/-- The `<=` operator. -/
def le (a b : JsNumber) : Bool := b.ge a

/-- Whether a condition on the number would hold. -/
def truthy : JsNumber → Bool
  | .nan => false
  | .finite value => value ≠ 0
  | _ => true

theorem ne_nan_of_truthy {a : JsNumber} (given : a.truthy = true) : a ≠ .nan := by
  rintro rfl
  cases given

theorem ge_eq_not_lt {a b : JsNumber} (left : a ≠ .nan) (right : b ≠ .nan) : a.ge b = !a.lt b := by
  cases a <;> cases b <;> first | rfl | exact absurd rfl left | exact absurd rfl right

theorem lt_irrefl (a : JsNumber) : a.lt a = false := by
  cases a <;> simp [lt]

theorem le_finite {a b : ℚ} : (finite a).le (.finite b) = true ↔ a ≤ b := by
  simp [le, ge, lt]

theorem finite_ne_nan (value : ℚ) : finite value ≠ .nan := nofun

@[simp] theorem ofNat_ne_nan (n : Nat) : ofNat n ≠ .nan := finite_ne_nan n

@[simp] theorem ofNat_lt_ofNat (a b : Nat) : (ofNat a).lt (ofNat b) = decide (a < b) := by
  simp [ofNat, lt]

theorem lt_ofNat_mono {limit : JsNumber} {count more : Nat} (grown : count ≤ more)
    (exceeded : limit.lt (ofNat count) = true) : limit.lt (ofNat more) = true := by
  cases limit with
  | nan => exact exceeded
  | posInfinity => exact exceeded
  | negInfinity => rfl
  | finite value =>
      have cast : (count : ℚ) ≤ more := by exact_mod_cast grown
      simp only [ofNat, lt, decide_eq_true_eq] at exceeded ⊢
      exact lt_of_lt_of_le exceeded cast

theorem ofNat_lt_of_le {limit : JsNumber} {count more : Nat} (fewer : count ≤ more)
    (below : (ofNat more).lt limit = true) : (ofNat count).lt limit = true := by
  cases limit with
  | finite value =>
      have cast : (count : ℚ) ≤ more := by exact_mod_cast fewer
      simp only [ofNat, lt, decide_eq_true_eq] at below ⊢
      exact lt_of_le_of_lt cast below
  | _ => exact below

theorem ge_ofNat_of_le {limit : JsNumber} {count more : Nat} (fewer : count ≤ more)
    (within : limit.ge (ofNat more) = true) : limit.ge (ofNat count) = true := by
  cases limit with
  | nan => exact within
  | posInfinity => rfl
  | negInfinity => exact within
  | finite value =>
      have cast : (count : ℚ) ≤ more := by exact_mod_cast fewer
      simp only [ofNat, ge, lt, Bool.not_eq_true', decide_eq_false_iff_not, not_lt] at within ⊢
      exact cast.trans within

@[simp] theorem ofNat_inj (a b : Nat) : ofNat a = ofNat b ↔ a = b := by
  simp [ofNat]

/-- How many turns `for (; n < bound; n++)` takes; a loop towards infinity has no count. -/
def turns (n : Nat) : JsNumber → Nat
  | .finite value => ⌈value⌉.toNat - n
  | _ => 0

@[simp] theorem turns_ofNat (n bound : Nat) : turns n (ofNat bound) = bound - n := by
  simp [turns, ofNat]

theorem lt_iff_turns_pos {n : Nat} {bound : JsNumber} (bounded : bound ≠ .posInfinity) :
    (ofNat n).lt bound = true ↔ 0 < turns n bound := by
  cases bound with
  | nan => simp [ofNat, lt, turns]
  | negInfinity => simp [ofNat, lt, turns]
  | posInfinity => exact absurd rfl bounded
  | finite value =>
      have below : (n : ℚ) < value ↔ (n : ℤ) < ⌈value⌉ := by
        rw [Int.lt_ceil, Int.cast_natCast]
      simp only [ofNat, lt, turns, decide_eq_true_eq, below]
      omega

theorem turns_succ (n : Nat) (bound : JsNumber) : turns (n + 1) bound = turns n bound - 1 := by
  cases bound <;> simp [turns, Nat.sub_sub]

-- A bound that `n + slack` has already passed is reached from `n` within `slack` turns.
theorem turns_le_of_not_lt {n slack : Nat} {bound : JsNumber}
    (near : (ofNat (n + slack)).lt bound = false) :
    bound ≠ .posInfinity ∧ turns n bound ≤ slack := by
  have bounded : bound ≠ .posInfinity := by
    rintro rfl
    simp [ofNat, lt] at near
  have notBelow : ¬ 0 < turns (n + slack) bound := by
    rw [← lt_iff_turns_pos bounded, near]
    simp
  refine ⟨bounded, ?_⟩
  cases bound <;> simp only [turns] at notBelow ⊢ <;> omega

end JsNumber
end Chainmail
