import Mathlib.Data.List.TakeDrop
import Mathlib.Tactic.IntervalCases
import Mathlib.Tactic.Ring
import Mathlib.Tactic.NormNum

/-!
Finite numbers and their texts. A number is its shortest decimal, which is what
a JavaScript program prints; the two zeros print alike and are one value here.
Reading is exact: no text is rounded to the nearest double.
-/

namespace Chainmail

/-- `mantissa * 10 ^ exponent`, with no factor of ten left in the mantissa. -/
structure Decimal where
  mantissa : Int
  exponent : Int
  normal : mantissa.natAbs % 10 ≠ 0 ∨ mantissa = 0 ∧ exponent = 0
deriving DecidableEq

namespace Decimal

/-- Moves factors of ten from the mantissa to the exponent. -/
def strip : Nat → Nat → Int → Nat × Int
  | 0, mantissa, exponent => (mantissa, exponent)
  | fuel + 1, mantissa, exponent =>
      if mantissa % 10 = 0 then strip fuel (mantissa / 10) (exponent + 1)
      else (mantissa, exponent)

theorem strip_normal (fuel mantissa : Nat) (exponent : Int) (positive : 0 < mantissa)
    (enough : mantissa ≤ fuel) : (strip fuel mantissa exponent).1 % 10 ≠ 0 := by
  induction fuel generalizing mantissa exponent with
  | zero => omega
  | succ fuel ih =>
      rw [strip]
      split
      · exact ih _ _ (by omega) (by omega)
      · assumption

theorem strip_shift (zeros fuel mantissa : Nat) (exponent : Int) (normal : mantissa % 10 ≠ 0)
    (enough : mantissa * 10 ^ zeros ≤ fuel) :
    strip fuel (mantissa * 10 ^ zeros) exponent = (mantissa, exponent + zeros) := by
  induction zeros generalizing fuel exponent with
  | zero =>
      cases fuel with
      | zero => simp [strip]
      | succ fuel => simp [strip, normal]
  | succ zeros ih =>
      have step : mantissa * 10 ^ (zeros + 1) = mantissa * 10 ^ zeros * 10 := by
        rw [pow_succ, Nat.mul_assoc]
      have positive : 0 < mantissa * 10 ^ zeros :=
        Nat.mul_pos (by omega) (Nat.pow_pos (by omega))
      rw [step] at enough ⊢
      cases fuel with
      | zero => omega
      | succ fuel =>
          rw [strip, if_pos (Nat.mul_mod_left _ _), Nat.mul_div_cancel _ (by omega),
            ih fuel (exponent + 1) (by omega)]
          congr 1
          push_cast
          omega

def make (negative : Bool) (mantissa : Nat) (exponent : Int) : Decimal :=
  if positive : 0 < mantissa then
    let stripped := strip mantissa mantissa exponent
    { mantissa := if negative then -(stripped.1 : Int) else stripped.1
      exponent := stripped.2
      normal := by
        have nonzero := strip_normal mantissa mantissa exponent positive (Nat.le_refl _)
        left
        split <;> simpa using nonzero }
  else ⟨0, 0, by simp⟩

instance : OfNat Decimal n := ⟨make false n 0⟩

/-- Stripping keeps the value: the zeros it takes off are in the exponent. -/
theorem strip_value (fuel mantissa : Nat) (exponent : Int) : ∃ zeros : Nat,
    (strip fuel mantissa exponent).2 = exponent + zeros ∧
      (strip fuel mantissa exponent).1 * 10 ^ zeros = mantissa := by
  induction fuel generalizing mantissa exponent with
  | zero => exact ⟨0, by simp [strip]⟩
  | succ fuel ih =>
      rw [strip]
      split
      · rename_i divisible
        obtain ⟨zeros, moved, value⟩ := ih (mantissa / 10) (exponent + 1)
        refine ⟨zeros + 1, ?_, ?_⟩
        · rw [moved]
          push_cast
          omega
        · rw [pow_succ, ← Nat.mul_assoc, value]
          omega
      · exact ⟨0, by simp⟩

theorem make_natural (value : Nat) : 0 ≤ (make false value 0).exponent ∧
    (make false value 0).mantissa * 10 ^ (make false value 0).exponent.toNat = value := by
  by_cases positive : 0 < value
  · obtain ⟨zeros, moved, kept⟩ := strip_value value value 0
    rw [Int.zero_add] at moved
    simp only [make, positive, ↓reduceDIte, Bool.false_eq_true, ↓reduceIte, moved]
    exact ⟨Int.natCast_nonneg zeros, by exact_mod_cast kept⟩
  · obtain rfl : value = 0 := by omega
    exact ⟨Int.le_refl 0, rfl⟩

/-- `Number.prototype.toString` on the digits and the position of the point. -/
def unsignedText (digits : List Char) (point : Int) : List Char :=
  if digits.length ≤ point ∧ point ≤ 21 then
    digits ++ List.replicate (point - digits.length).toNat '0'
  else if 0 < point ∧ point ≤ 21 then
    digits.take point.toNat ++ '.' :: digits.drop point.toNat
  else if -6 < point ∧ point ≤ 0 then
    '0' :: '.' :: (List.replicate (-point).toNat '0' ++ digits)
  else
    let fraction := match digits.tail with
      | [] => []
      | rest => '.' :: rest
    digits.take 1 ++ (fraction ++
      'e' :: (if point - 1 < 0 then '-' else '+') :: Nat.toDigits 10 (point - 1).natAbs)

def text (number : Decimal) : List Char :=
  let digits := Nat.toDigits 10 number.mantissa.natAbs
  let unsigned := unsignedText digits (digits.length + number.exponent)
  if number.mantissa < 0 then '-' :: unsigned else unsigned

def readFraction : List Char → Option (List Char × List Char)
  | '.' :: rest =>
      let digits := rest.span Char.isDigit
      if digits.1 = [] then none else some digits
  | rest => some ([], rest)

def readSign : List Char → Bool × List Char
  | '-' :: rest => (true, rest)
  | '+' :: rest => (false, rest)
  | rest => (false, rest)

def readExponent : List Char → Option (Int × List Char)
  | 'e' :: rest | 'E' :: rest =>
      let signed := readSign rest
      let digits := signed.2.span Char.isDigit
      if digits.1 = [] then none
      else
        let size : Int := Nat.ofDigitChars 10 digits.1 0
        some (if signed.1 then -size else size, digits.2)
  | rest => some (0, rest)

def readUnsigned (negative : Bool) (text : List Char) : Option (Decimal × List Char) :=
  let whole := text.span Char.isDigit
  if whole.1 = [] ∨ (1 < whole.1.length ∧ whole.1.head? = some '0') then none
  else do
    let (fraction, rest) ← readFraction whole.2
    let (exponent, rest) ← readExponent rest
    some (make negative (Nat.ofDigitChars 10 (whole.1 ++ fraction) 0)
      (exponent - fraction.length), rest)

def read : List Char → Option (Decimal × List Char)
  | '-' :: rest => readUnsigned true rest
  | rest => readUnsigned false rest

section RoundTrip

@[ext]
theorem ext_parts {left right : Decimal} (mantissa : left.mantissa = right.mantissa)
    (exponent : left.exponent = right.exponent) : left = right := by
  cases left
  cases right
  cases mantissa
  cases exponent
  rfl

theorem make_zero (negative : Bool) (exponent : Int) :
    make negative 0 exponent = ⟨0, 0, by simp⟩ := rfl

theorem make_scaled (negative : Bool) (zeros mantissa : Nat) (exponent : Int)
    (normal : mantissa % 10 ≠ 0 ∨ mantissa = 0) :
    make negative (mantissa * 10 ^ zeros) exponent =
      make negative mantissa (exponent + zeros) := by
  rcases normal with normal | rfl
  · have positive : 0 < mantissa * 10 ^ zeros := Nat.mul_pos (by omega) (Nat.pow_pos (by omega))
    have shifted := strip_shift zeros _ mantissa exponent normal (Nat.le_refl _)
    have settled := strip_shift 0 mantissa mantissa (exponent + zeros) normal (by simp)
    simp only [pow_zero, Nat.mul_one] at settled
    ext <;> simp [make, positive, shifted, settled, show 0 < mantissa by omega]
  · simp [make_zero]

theorem make_self (number : Decimal) :
    make (decide (number.mantissa < 0)) number.mantissa.natAbs number.exponent = number := by
  obtain ⟨mantissa, exponent, normal⟩ := number
  by_cases zero : mantissa = 0
  · subst zero
    have none : exponent = 0 := by simpa using normal
    subst none
    rfl
  · have settled := strip_shift 0 mantissa.natAbs mantissa.natAbs exponent (by omega) (by simp)
    simp only [pow_zero, Nat.mul_one] at settled
    ext
    · simp only [make, show 0 < mantissa.natAbs by omega, ↓reduceDIte, settled, decide_eq_true_eq]
      split <;> omega
    · simp [make, show 0 < mantissa.natAbs by omega, settled]

/-- What follows a number never continues it. -/
def Ends (rest : List Char) : Prop :=
  ∀ next ∈ rest.head?, next.isDigit = false ∧ next ≠ '.' ∧ next ≠ 'e' ∧ next ≠ 'E'

theorem span_digits {digits rest : List Char} (all : ∀ c ∈ digits, c.isDigit = true)
    (stop : ∀ next ∈ rest.head?, next.isDigit = false) :
    (digits ++ rest).span Char.isDigit = (digits, rest) := by
  rw [List.span_eq_takeWhile_dropWhile, List.takeWhile_append_of_pos all,
    List.dropWhile_append_of_pos all]
  cases rest with
  | nil => simp
  | cons next rest =>
      have other := stop next (by simp)
      simp [other]

theorem toDigits_isDigit (n : Nat) : ∀ c ∈ Nat.toDigits 10 n, c.isDigit = true :=
  fun _ member => Nat.isDigit_of_mem_toDigits (by omega) (by omega) member

theorem toDigits_head (n : Nat) (positive : 0 < n) : (Nat.toDigits 10 n).head? ≠ some '0' := by
  induction n using Nat.strongRecOn with
  | ind n ih =>
      by_cases small : n < 10
      · rw [Nat.toDigits_of_lt_base small]
        interval_cases n <;> decide
      · rw [Nat.toDigits_of_base_le (by omega) (by omega), List.head?_append]
        have earlier := ih (n / 10) (by omega) (by omega)
        cases head : (Nat.toDigits 10 (n / 10)).head? with
        | none => exact absurd (List.head?_eq_none_iff.mp head) Nat.toDigits_ne_nil
        | some first =>
            rw [head] at earlier
            simpa using earlier

theorem readFraction_none {rest : List Char} (stop : ∀ next ∈ rest.head?, next ≠ '.') :
    readFraction rest = some ([], rest) := by
  unfold readFraction
  split
  · rename_i rest
    exact absurd rfl (stop '.' (by simp))
  · rfl

theorem readFraction_some {digits rest : List Char} (some_digit : digits ≠ [])
    (all : ∀ c ∈ digits, c.isDigit = true) (stop : ∀ next ∈ rest.head?, next.isDigit = false) :
    readFraction ('.' :: (digits ++ rest)) = some (digits, rest) := by
  simp only [readFraction, span_digits all stop, some_digit, ↓reduceIte]

theorem readExponent_none {rest : List Char} (stop : ∀ next ∈ rest.head?, next ≠ 'e' ∧ next ≠ 'E') :
    readExponent rest = some (0, rest) := by
  unfold readExponent
  split
  · exact absurd rfl (stop 'e' (by simp)).1
  · exact absurd rfl (stop 'E' (by simp)).2
  · rfl

theorem readExponent_some (size : Int) {rest : List Char}
    (stop : ∀ next ∈ rest.head?, next.isDigit = false) :
    readExponent ('e' :: (if size < 0 then '-' else '+') :: (Nat.toDigits 10 size.natAbs ++ rest)) =
      some (size, rest) := by
  have digits := span_digits (toDigits_isDigit size.natAbs) stop
  by_cases negative : size < 0
  · simp only [readExponent, readSign, negative, ↓reduceIte, digits, Nat.toDigits_ne_nil,
      Nat.ofDigitChars_ten_toDigits]
    congr 2
    omega
  · simp only [readExponent, readSign, negative, ↓reduceIte, digits, Nat.toDigits_ne_nil,
      Nat.ofDigitChars_ten_toDigits, Bool.false_eq_true]
    congr 2
    omega

/-- A whole part as JSON allows it: digits, without a leading zero unless it is the only one. -/
structure Whole (whole : List Char) : Prop where
  nonempty : whole ≠ []
  digits : ∀ c ∈ whole, c.isDigit = true
  leading : 1 < whole.length → whole.head? ≠ some '0'

theorem Whole.accepted {whole : List Char} (isWhole : Whole whole) :
    ¬ (whole = [] ∨ (1 < whole.length ∧ whole.head? = some '0')) := by
  rintro (empty | ⟨long, zero⟩)
  · exact isWhole.nonempty empty
  · exact isWhole.leading long zero

theorem readUnsigned_parts (negative : Bool) {text whole fraction pointed powered rest : List Char}
    {exponent : Int} (isWhole : Whole whole) (span : text.span Char.isDigit = (whole, pointed))
    (point : readFraction pointed = some (fraction, powered))
    (power : readExponent powered = some (exponent, rest)) :
    readUnsigned negative text =
      some (make negative (Nat.ofDigitChars 10 (whole ++ fraction) 0)
        (exponent - fraction.length), rest) := by
  simp only [readUnsigned, span, if_neg isWhole.accepted, point, power, Option.bind_eq_bind,
    Option.bind_some]

theorem readUnsigned_whole (negative : Bool) {whole rest : List Char} (isWhole : Whole whole)
    (ends : Ends rest) : readUnsigned negative (whole ++ rest) =
      some (make negative (Nat.ofDigitChars 10 whole 0) 0, rest) := by
  have span := span_digits isWhole.digits fun next head => (ends next head).1
  have point := readFraction_none fun next head => (ends next head).2.1
  have power := readExponent_none fun next head => (ends next head).2.2
  simpa using readUnsigned_parts negative isWhole span point power

theorem readUnsigned_point (negative : Bool) {whole fraction rest : List Char}
    (isWhole : Whole whole) (some_digit : fraction ≠ [])
    (digits : ∀ c ∈ fraction, c.isDigit = true) (ends : Ends rest) :
    readUnsigned negative (whole ++ '.' :: (fraction ++ rest)) =
      some (make negative (Nat.ofDigitChars 10 (whole ++ fraction) 0) (-fraction.length), rest) := by
  have stop : ∀ next ∈ ('.' :: (fraction ++ rest)).head?, next.isDigit = false := by simp
  have span := span_digits isWhole.digits stop
  have point := readFraction_some some_digit digits fun next head => (ends next head).1
  have power := readExponent_none fun next head => (ends next head).2.2
  simpa using readUnsigned_parts negative isWhole span point power

theorem readUnsigned_exponent (negative : Bool) {whole fraction pointed rest : List Char}
    (size : Int) (isWhole : Whole whole) (digits : ∀ c ∈ fraction, c.isDigit = true)
    (ends : Ends rest)
    (shown : pointed = [] ∧ fraction = [] ∨ pointed = '.' :: fraction ∧ fraction ≠ []) :
    readUnsigned negative (whole ++ (pointed ++ 'e' :: (if size < 0 then '-' else '+') ::
        (Nat.toDigits 10 size.natAbs ++ rest))) =
      some (make negative (Nat.ofDigitChars 10 (whole ++ fraction) 0) (size - fraction.length),
        rest) := by
  have power := readExponent_some size fun next head => (ends next head).1
  rcases shown with ⟨rfl, rfl⟩ | ⟨rfl, some_digit⟩
  · refine readUnsigned_parts negative isWhole (span_digits isWhole.digits ?_)
      (readFraction_none ?_) power <;> simp
  · refine readUnsigned_parts negative isWhole (span_digits isWhole.digits ?_)
      (readFraction_some some_digit digits ?_) power <;> simp

theorem whole_toDigits_append (n : Nat) (more : List Char) (digits : ∀ c ∈ more, c.isDigit = true)
    (nonzero : 0 < n ∨ more = []) : Whole (Nat.toDigits 10 n ++ more) where
  nonempty := by simp [Nat.toDigits_ne_nil]
  digits c member := by
    rcases List.mem_append.mp member with own | extra
    · exact toDigits_isDigit n c own
    · exact digits c extra
  leading long zero := by
    rcases Nat.eq_zero_or_pos n with rfl | positive
    · rcases nonzero with impossible | rfl
      · omega
      · simp at long
    · rw [List.head?_append] at zero
      cases head : (Nat.toDigits 10 n).head? with
      | none => exact absurd (List.head?_eq_none_iff.mp head) Nat.toDigits_ne_nil
      | some first =>
          rw [head] at zero
          exact toDigits_head n positive (head.trans zero)

theorem whole_take (n count : Nat) (some_digit : 0 < count) (short : count ≤ (Nat.toDigits 10 n).length)
    (positive : 0 < n) : Whole ((Nat.toDigits 10 n).take count) where
  nonempty := by
    intro empty
    have length := congrArg List.length empty
    simp only [List.length_take, List.length_nil] at length
    omega
  digits c member := toDigits_isDigit n c (List.mem_of_mem_take member)
  leading _ zero := by
    rw [List.head?_take] at zero
    rw [if_neg (by omega)] at zero
    exact toDigits_head n positive zero

theorem pointed_tail (tail : List Char) :
    (match tail with | [] => [] | rest => '.' :: rest) = [] ∧ tail = [] ∨
      (match tail with | [] => [] | rest => '.' :: rest) = '.' :: tail ∧ tail ≠ [] := by
  cases tail <;> simp

theorem zeros_isDigit (count : Nat) : ∀ c ∈ List.replicate count '0', c.isDigit = true := by
  intro c member
  rw [(List.mem_replicate.mp member).2]
  decide

section Layouts
variable (negative : Bool) (mantissa : Nat) (exponent : Int) {rest : List Char}

/-- Behind the digits only zeros. -/
theorem readUnsigned_padded (normal : mantissa % 10 ≠ 0 ∨ mantissa = 0 ∧ exponent = 0)
    (ends : Ends rest) (natural : 0 ≤ exponent) :
    readUnsigned negative (Nat.toDigits 10 mantissa ++ List.replicate exponent.toNat '0' ++ rest) =
      some (make negative mantissa exponent, rest) := by
  have weak : mantissa % 10 ≠ 0 ∨ mantissa = 0 := normal.imp_right And.left
  have nonzero : 0 < mantissa ∨ List.replicate exponent.toNat '0' = [] := by
    rcases normal with normal | ⟨_, rfl⟩
    · exact Or.inl (by omega)
    · exact Or.inr rfl
  have isWhole := whole_toDigits_append mantissa (List.replicate exponent.toNat '0')
    (zeros_isDigit _) nonzero
  rw [readUnsigned_whole negative isWhole ends, Nat.ofDigitChars_append,
    Nat.ofDigitChars_ten_toDigits, Nat.ofDigitChars_replicate_zero, Nat.mul_comm,
    make_scaled negative _ _ _ weak]
  congr 3
  omega

/-- The point falls among the digits. -/
theorem readUnsigned_inside (positive : 0 < mantissa) (ends : Ends rest)
    (after : 0 < (Nat.toDigits 10 mantissa).length + exponent) (before : exponent < 0) :
    readUnsigned negative
        ((Nat.toDigits 10 mantissa).take ((Nat.toDigits 10 mantissa).length + exponent).toNat ++
          '.' :: (Nat.toDigits 10 mantissa).drop
            ((Nat.toDigits 10 mantissa).length + exponent).toNat ++ rest) =
      some (make negative mantissa exponent, rest) := by
  have isWhole := whole_take mantissa
    ((Nat.toDigits 10 mantissa).length + exponent).toNat (by omega) (by omega) positive
  have some_digit : (Nat.toDigits 10 mantissa).drop
      ((Nat.toDigits 10 mantissa).length + exponent).toNat ≠ [] := by
    intro empty
    have length := congrArg List.length empty
    simp only [List.length_drop, List.length_nil] at length
    omega
  have digits : ∀ c ∈ (Nat.toDigits 10 mantissa).drop
      ((Nat.toDigits 10 mantissa).length + exponent).toNat, c.isDigit = true :=
    fun c member => toDigits_isDigit mantissa c (List.mem_of_mem_drop member)
  rw [List.append_assoc, List.cons_append,
    readUnsigned_point negative isWhole some_digit digits ends, List.take_append_drop,
    Nat.ofDigitChars_ten_toDigits, List.length_drop]
  congr 3
  omega

/-- The point stands before zeros and all digits. -/
theorem readUnsigned_small (ends : Ends rest)
    (before : (Nat.toDigits 10 mantissa).length + exponent ≤ 0) :
    readUnsigned negative ('0' :: '.' ::
        (List.replicate (-((Nat.toDigits 10 mantissa).length + exponent)).toNat '0' ++
          Nat.toDigits 10 mantissa) ++ rest) =
      some (make negative mantissa exponent, rest) := by
  have digits : ∀ c ∈ List.replicate (-((Nat.toDigits 10 mantissa).length + exponent)).toNat '0' ++
      Nat.toDigits 10 mantissa, c.isDigit = true := by
    intro c member
    rcases List.mem_append.mp member with zero | own
    · exact zeros_isDigit _ c zero
    · exact toDigits_isDigit mantissa c own
  have isWhole : Whole ['0'] := by
    constructor <;> simp
  have read := readUnsigned_point negative isWhole (by simp [Nat.toDigits_ne_nil]) digits ends
  simp only [List.cons_append, List.nil_append] at read ⊢
  rw [read, Nat.ofDigitChars_cons, Nat.ofDigitChars_append]
  simp only [List.length_append, List.length_replicate]
  rw [show 10 * 0 + ('0'.toNat - '0'.toNat) = 0 from rfl, Nat.ofDigitChars_replicate_zero,
    Nat.mul_zero, Nat.ofDigitChars_ten_toDigits]
  congr 3
  omega

/-- The point stands behind the first digit, and the power of ten is written out. -/
theorem readUnsigned_scientific (positive : 0 < mantissa) (ends : Ends rest) :
    readUnsigned negative ((Nat.toDigits 10 mantissa).take 1 ++
        ((match (Nat.toDigits 10 mantissa).tail with | [] => [] | digits => '.' :: digits) ++ 'e' ::
          (if (Nat.toDigits 10 mantissa).length + exponent - 1 < 0 then '-' else '+') ::
            (Nat.toDigits 10 ((Nat.toDigits 10 mantissa).length + exponent - 1).natAbs ++ rest))) =
      some (make negative mantissa exponent, rest) := by
  have count : 0 < (Nat.toDigits 10 mantissa).length := Nat.length_toDigits_pos
  have isWhole := whole_take mantissa 1 (by omega) (by omega) positive
  have digits : ∀ c ∈ (Nat.toDigits 10 mantissa).tail, c.isDigit = true :=
    fun c member => toDigits_isDigit mantissa c (List.mem_of_mem_tail member)
  have rejoined : (Nat.toDigits 10 mantissa).take 1 ++ (Nat.toDigits 10 mantissa).tail =
      Nat.toDigits 10 mantissa := by
    rw [← List.drop_one, List.take_append_drop]
  have read := readUnsigned_exponent negative
    ((Nat.toDigits 10 mantissa).length + exponent - 1) isWhole digits ends
    (pointed_tail (Nat.toDigits 10 mantissa).tail)
  rw [rejoined, Nat.ofDigitChars_ten_toDigits, List.length_tail] at read
  rw [read]
  congr 3
  omega

theorem readUnsigned_text (normal : mantissa % 10 ≠ 0 ∨ mantissa = 0 ∧ exponent = 0)
    (ends : Ends rest) :
    readUnsigned negative (unsignedText (Nat.toDigits 10 mantissa)
        ((Nat.toDigits 10 mantissa).length + exponent) ++ rest) =
      some (make negative mantissa exponent, rest) := by
  have count : 0 < (Nat.toDigits 10 mantissa).length := Nat.length_toDigits_pos
  unfold unsignedText
  split
  · rename_i whole
    rw [add_sub_cancel_left]
    exact readUnsigned_padded negative mantissa exponent normal ends (by omega)
  · rename_i notWhole
    have positive : 0 < mantissa := by
      rcases normal with normal | ⟨rfl, rfl⟩
      · omega
      · exact absurd (by simp) notWhole
    split
    · rename_i inside
      exact readUnsigned_inside negative mantissa exponent positive ends inside.1 (by omega)
    · split
      · rename_i small
        exact readUnsigned_small negative mantissa exponent ends small.2
      · simp only [List.append_assoc, List.cons_append]
        exact readUnsigned_scientific negative mantissa exponent positive ends

end Layouts

theorem unsignedText_head (number : Nat) (point : Int) :
    ∃ first rest, unsignedText (Nat.toDigits 10 number) point = first :: rest ∧
      first.isDigit = true := by
  have digits := toDigits_isDigit number
  cases shown : Nat.toDigits 10 number with
  | nil => exact absurd shown Nat.toDigits_ne_nil
  | cons first others =>
      have own : first.isDigit = true := digits first (by simp [shown])
      unfold unsignedText
      split
      · exact ⟨first, _, rfl, own⟩
      · split
        · rename_i inside
          obtain ⟨before, counted⟩ : ∃ before, point.toNat = before + 1 :=
            ⟨point.toNat - 1, by omega⟩
          rw [counted]
          exact ⟨first, _, rfl, own⟩
        · split
          · exact ⟨'0', _, rfl, by decide⟩
          · exact ⟨first, _, rfl, own⟩

theorem text_head (number : Decimal) :
    ∃ first rest, number.text = first :: rest ∧ (first = '-' ∨ first.isDigit = true) := by
  obtain ⟨first, rest, shown, digit⟩ := unsignedText_head number.mantissa.natAbs
    ((Nat.toDigits 10 number.mantissa.natAbs).length + number.exponent)
  simp only [text]
  split
  · exact ⟨'-', _, rfl, Or.inl rfl⟩
  · exact ⟨first, rest, shown, Or.inr digit⟩

/-- A printed number is read back, whatever follows it. -/
theorem read_text (number : Decimal) {rest : List Char} (ends : Ends rest) :
    read (number.text ++ rest) = some (number, rest) := by
  have normal : number.mantissa.natAbs % 10 ≠ 0 ∨
      number.mantissa.natAbs = 0 ∧ number.exponent = 0 := by
    have normal := number.normal
    omega
  have unsigned := fun negative =>
    readUnsigned_text negative number.mantissa.natAbs number.exponent normal ends
  have self := make_self number
  simp only [text]
  by_cases negative : number.mantissa < 0
  · rw [if_pos negative]
    simp only [negative, decide_true] at self
    exact (unsigned true).trans (by rw [self])
  · rw [if_neg negative]
    simp only [negative, decide_false] at self
    obtain ⟨first, others, shown, digit⟩ := unsignedText_head number.mantissa.natAbs
      ((Nat.toDigits 10 number.mantissa.natAbs).length + number.exponent)
    have plain := unsigned false
    rw [shown, self] at plain
    rw [shown]
    unfold read
    split
    · rename_i minus
      cases minus
      cases digit
    · exact plain

end RoundTrip
end Decimal
end Chainmail
