import Chainmail.JsonAccess
import Chainmail.JsNumber

/-!
The number that a comparison or a subtraction makes of a JSON value.
-/

namespace Chainmail.Json

def ofDecimal (number : Decimal) : JsNumber :=
  .finite (number.mantissa * (10 : ℚ) ^ number.exponent)

/-- White space and line ends, which the text of a number may start and end with. -/
def isSpace (letter : Char) : Bool :=
  letter.toNat ∈ [9, 10, 11, 12, 13, 32, 0xA0, 0x1680, 0x2028, 0x2029, 0x202F, 0x205F, 0x3000,
    0xFEFF] || (0x2000 ≤ letter.toNat && letter.toNat ≤ 0x200A)

def trim (letters : List Char) : List Char :=
  ((letters.dropWhile isSpace).reverse.dropWhile isSpace).reverse

def readRadix (base : Nat) (letters : List Char) : JsNumber :=
  let value := letters.foldlM (fun value letter => do
    let digit ← hexValue letter
    if digit < base then some (value * base + digit) else none) 0
  match letters, value with
  | _ :: _, some value => .ofNat value
  | _, _ => .nan

/-- Unlike the numbers of JSON, these may start with zeros or lack a side of the point. -/
def readUnsigned (letters : List Char) : JsNumber :=
  if letters = "Infinity".toList then .posInfinity
  else
    let whole := letters.span Char.isDigit
    let fraction := match whole.2 with
      | '.' :: rest => rest.span Char.isDigit
      | rest => ([], rest)
    if whole.1 = [] ∧ fraction.1 = [] then .nan
    else
      match Decimal.readExponent fraction.2 with
      | some (exponent, []) =>
          ofDecimal (Decimal.make false (Nat.ofDigitChars 10 (whole.1 ++ fraction.1) 0)
            (exponent - fraction.1.length))
      | _ => .nan

/-- `Number(text)` -/
def stringToNumber (text : String) : JsNumber :=
  match trim text.toList with
  | [] => .ofNat 0
  | '0' :: 'x' :: digits | '0' :: 'X' :: digits => readRadix 16 digits
  | '0' :: 'o' :: digits | '0' :: 'O' :: digits => readRadix 8 digits
  | '0' :: 'b' :: digits | '0' :: 'B' :: digits => readRadix 2 digits
  | '-' :: letters => (readUnsigned letters).neg
  | '+' :: letters => readUnsigned letters
  | letters => readUnsigned letters

/-- An array or an object is converted by way of its text, which it may not have. -/
def toNumber : Json → Except Failure JsNumber
  | .null => .ok (.ofNat 0)
  | .bool value => .ok (.ofNat (if value then 1 else 0))
  | .number value => .ok (ofDecimal value)
  | .string text => .ok (stringToNumber text)
  | other => do
      let text ← toText other
      return stringToNumber text

theorem toNumber_natural (value : Nat) : toNumber (ofInt value) = .ok (.ofNat value) := by
  obtain ⟨nonnegative, whole⟩ := Decimal.make_natural value
  have power : (10 : ℚ) ^ (Decimal.make false value 0).exponent =
      10 ^ (Decimal.make false value 0).exponent.toNat := by
    rw [← zpow_natCast, Int.toNat_of_nonneg nonnegative]
  rw [ofInt_natCast, toNumber, ofDecimal, JsNumber.ofNat, power]
  congr 2
  exact_mod_cast whole

example : stringToNumber " 0x1F " = .ofNat 31 := by decide

end Chainmail.Json
