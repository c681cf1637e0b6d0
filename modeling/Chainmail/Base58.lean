import Mathlib.Data.Nat.Digits.Lemmas
import Chainmail.Base64

/-!
Base58 as addresses use it: a zero byte in front is a `1`, and the rest is one
number written with fifty-eight digits.
-/

namespace Chainmail.Base58

def alphabet : List Char :=
  "123456789ABCDEFGHJKLMNPQRSTUVWXYZabcdefghijkmnopqrstuvwxyz".toList

def digitChar (digit : Nat) : Char := alphabet.getD digit '1'

def charDigit (char : Char) : Option Nat :=
  let place := alphabet.idxOf char
  if place < 58 then some place else none

def encode (bytes : Bytes) : List Char :=
  let zeros := (bytes.takeWhile (· = 0)).length
  let number := Nat.ofDigits 256 ((bytes.drop zeros).reverse.map UInt8.toNat)
  List.replicate zeros '1' ++ (Nat.digits 58 number).reverse.map digitChar

def decode (chars : List Char) : Option Bytes := do
  let zeros := (chars.takeWhile (· = '1')).length
  let digits ← (chars.drop zeros).mapM charDigit
  let number := Nat.ofDigits 58 digits.reverse
  some (List.replicate zeros 0 ++ (Nat.digits 256 number).reverse.map UInt8.ofNat)

theorem digit_roundtrip : ∀ digit < 58, charDigit (digitChar digit) = some digit ∧
    (digitChar digit = '1' → digit = 0) := by
  decide +kernel

theorem mapM_charDigit (digits : List Nat) (small : ∀ digit ∈ digits, digit < 58) :
    (digits.map digitChar).mapM charDigit = some digits := by
  induction digits with
  | nil => rfl
  | cons digit rest ih =>
      have head := (digit_roundtrip digit (small digit (by simp))).1
      have tail := ih fun other member => small other (List.mem_cons_of_mem digit member)
      simp [head, tail]

-- The letters of a nonzero number do not start with the letter of a zero.
theorem digits_start (number : Nat) : ∀ first ∈ ((Nat.digits 58 number).reverse.map digitChar).head?,
    first ≠ '1' := by
  intro first head one
  rw [List.head?_map, List.head?_reverse] at head
  cases last : (Nat.digits 58 number).getLast? with
  | none => simp [last] at head
  | some digit =>
      have some_digit : Nat.digits 58 number ≠ [] := by
        rintro empty
        simp [empty] at last
      have shown : (Nat.digits 58 number).getLast some_digit = digit := by
        rw [List.getLast?_eq_some_getLast some_digit] at last
        exact Option.some.inj last
      have nonzero : number ≠ 0 := by
        rintro rfl
        exact some_digit (Nat.digits_zero 58)
      have digit_nonzero := Nat.getLast_digit_ne_zero 58 nonzero
      have small : digit < 58 := shown ▸ Nat.digits_lt_base (by omega) (List.getLast_mem some_digit)
      have own : first = digitChar digit := by simpa [last] using head.symm
      exact digit_nonzero (shown.trans ((digit_roundtrip digit small).2 (own ▸ one)))

theorem takeWhile_zeros {Letter : Type} [DecidableEq Letter] (zero : Letter) (zeros : Nat)
    (rest : List Letter) (stop : ∀ first ∈ rest.head?, first ≠ zero) :
    (List.replicate zeros zero ++ rest).takeWhile (· = zero) = List.replicate zeros zero := by
  rw [List.takeWhile_append_of_pos (by simp)]
  cases rest with
  | nil => simp
  | cons first rest =>
      have other := stop first (by simp)
      simp [other]

theorem exists_zeros (bytes : Bytes) : ∃ zeros rest,
    bytes = List.replicate zeros 0 ++ rest ∧ ∀ first ∈ rest.head?, first ≠ 0 := by
  induction bytes with
  | nil => exact ⟨0, [], rfl, by simp⟩
  | cons byte rest ih =>
      by_cases zero : byte = 0
      · obtain ⟨zeros, others, split, start⟩ := ih
        exact ⟨zeros + 1, others, by rw [zero, split]; rfl, start⟩
      · exact ⟨0, byte :: rest, rfl, by simpa using zero⟩

theorem digits_number (rest : Bytes) (start : ∀ first ∈ rest.head?, first ≠ 0) :
    (Nat.digits 256 (Nat.ofDigits 256 (rest.reverse.map UInt8.toNat))).reverse.map UInt8.ofNat =
      rest := by
  rw [Nat.digits_ofDigits 256 (by omega)]
  · rw [← List.map_reverse, List.reverse_reverse, List.map_map]
    simp [Function.comp_def]
  · intro digit member
    obtain ⟨byte, _, rfl⟩ := List.mem_map.mp member
    exact byte.toNat_lt
  · intro some_digit
    cases rest with
    | nil => exact absurd rfl some_digit
    | cons first rest =>
        have nonzero := start first (by simp)
        intro zero
        apply nonzero
        apply UInt8.toNat_inj.mp
        simpa using zero

theorem decode_encode (bytes : Bytes) : decode (encode bytes) = some bytes := by
  obtain ⟨zeros, rest, rfl, start⟩ := exists_zeros bytes
  have zeroBytes := takeWhile_zeros 0 zeros rest start
  have small : ∀ digit ∈ (Nat.digits 58
      (Nat.ofDigits 256 (rest.reverse.map UInt8.toNat))).reverse, digit < 58 := by
    intro digit member
    exact Nat.digits_lt_base (by omega) (List.mem_reverse.mp member)
  have zeroLetters := takeWhile_zeros '1' zeros _
    (digits_start (Nat.ofDigits 256 (rest.reverse.map UInt8.toNat)))
  simp only [encode, decode, zeroBytes, zeroLetters, List.length_replicate,
    List.drop_left' List.length_replicate, mapM_charDigit _ small, Option.bind_eq_bind,
    Option.bind_some, List.reverse_reverse, Nat.ofDigits_digits, digits_number rest start]

end Chainmail.Base58
