import Mathlib.Data.List.Basic
import Mathlib.Tactic.Ring

/-!
Base64 as a runtime's byte buffers read and write it. Encoding pads; decoding
is lenient: it stops at the first `=`, ignores every other character outside
the alphabet, accepts the URL-safe letters, and drops a dangling sextet.
-/

namespace Chainmail

abbrev Bytes := List UInt8

namespace Base64

def alphabet : List Char :=
  "ABCDEFGHIJKLMNOPQRSTUVWXYZabcdefghijklmnopqrstuvwxyz0123456789+/".toList

def sextetChar (sextet : Nat) : Char := alphabet.getD sextet 'A'

def charSextet (char : Char) : Option Nat :=
  if char = '-' then some 62
  else if char = '_' then some 63
  else
    let place := alphabet.idxOf char
    if place < 64 then some place else none

def encode : Bytes → List Char
  | [] => []
  | [a] =>
      [sextetChar (a.toNat / 4), sextetChar (a.toNat % 4 * 16), '=', '=']
  | [a, b] =>
      [sextetChar (a.toNat / 4), sextetChar (a.toNat % 4 * 16 + b.toNat / 16),
        sextetChar (b.toNat % 16 * 4), '=']
  | a :: b :: c :: rest =>
      sextetChar (a.toNat / 4) :: sextetChar (a.toNat % 4 * 16 + b.toNat / 16) ::
        sextetChar (b.toNat % 16 * 4 + c.toNat / 64) :: sextetChar (c.toNat % 64) ::
        encode rest

def packSextets : List Nat → Bytes
  | p :: q :: r :: s :: rest =>
      UInt8.ofNat (p * 4 + q / 16) :: UInt8.ofNat (q % 16 * 16 + r / 4) ::
        UInt8.ofNat (r % 4 * 64 + s) :: packSextets rest
  | [p, q, r] => [UInt8.ofNat (p * 4 + q / 16), UInt8.ofNat (q % 16 * 16 + r / 4)]
  | [p, q] => [UInt8.ofNat (p * 4 + q / 16)]
  | _ => []

def decode (chars : List Char) : Bytes :=
  packSextets ((chars.takeWhile (· ≠ '=')).filterMap charSextet)

theorem sextet_roundtrip : ∀ sextet < 64,
    charSextet (sextetChar sextet) = some sextet ∧ sextetChar sextet ≠ '=' := by
  decide +kernel

theorem sextetChar_mem (sextet : Nat) : sextetChar sextet ∈ alphabet := by
  rw [sextetChar, List.getD_eq_getElem?_getD]
  cases found : alphabet[sextet]? with
  | none => exact (by decide : 'A' ∈ alphabet)
  | some char => exact List.mem_of_getElem? found

/-- The encoder writes letters of the alphabet and padding, nothing else. -/
theorem mem_encode {bytes : Bytes} {char : Char} (written : char ∈ encode bytes) :
    char ∈ alphabet ∨ char = '=' := by
  induction bytes using encode.induct with
  | case1 => cases written
  | case2 a =>
      simp only [encode, List.mem_cons, List.not_mem_nil, or_false] at written
      rcases written with rfl | rfl | rfl | rfl <;> simp [sextetChar_mem]
  | case3 a b =>
      simp only [encode, List.mem_cons, List.not_mem_nil, or_false] at written
      rcases written with rfl | rfl | rfl | rfl <;> simp [sextetChar_mem]
  | case4 a b c rest ih =>
      simp only [encode, List.mem_cons] at written
      rcases written with rfl | rfl | rfl | rfl | later
      all_goals first | exact ih later | exact Or.inl (sextetChar_mem _)

theorem byte_lt (byte : UInt8) : byte.toNat < 256 := byte.toNat_lt

-- A sextet written by the encoder is read back by the decoder's filter.
theorem decode_scan (sextet : Nat) (chars : List Char) (small : sextet < 64) :
    ((sextetChar sextet :: chars).takeWhile (· ≠ '=')).filterMap charSextet =
      sextet :: (chars.takeWhile (· ≠ '=')).filterMap charSextet := by
  obtain ⟨read, notPad⟩ := sextet_roundtrip sextet small
  simp [notPad, read]

theorem decode_encode (bytes : Bytes) : decode (encode bytes) = bytes := by
  induction bytes using encode.induct with
  | case1 => rfl
  | case2 a =>
      have boundA := byte_lt a
      rw [decode, encode, decode_scan _ _ (by omega), decode_scan _ _ (by omega)]
      have whole : a.toNat / 4 * 4 + a.toNat % 4 * 16 / 16 = a.toNat := by omega
      simp only [List.takeWhile_cons_of_neg, List.filterMap_nil, packSextets, whole,
        UInt8.ofNat_toNat, ne_eq, not_true_eq_false, decide_false, Bool.false_eq_true,
        not_false_eq_true]
  | case3 a b =>
      have boundA := byte_lt a
      have boundB := byte_lt b
      rw [decode, encode, decode_scan _ _ (by omega), decode_scan _ _ (by omega),
        decode_scan _ _ (by omega)]
      have first : a.toNat / 4 * 4 + (a.toNat % 4 * 16 + b.toNat / 16) / 16 = a.toNat := by omega
      have second : (a.toNat % 4 * 16 + b.toNat / 16) % 16 * 16 + b.toNat % 16 * 4 / 4 =
          b.toNat := by omega
      simp only [List.takeWhile_cons_of_neg, List.filterMap_nil, packSextets, first, second,
        UInt8.ofNat_toNat, ne_eq, not_true_eq_false, decide_false, Bool.false_eq_true,
        not_false_eq_true]
  -- Three bytes are four sextets: each byte is put together from the parts it was cut into.
  | case4 a b c rest ih =>
      have boundA := byte_lt a
      have boundB := byte_lt b
      have boundC := byte_lt c
      rw [decode] at ih
      rw [decode, encode, decode_scan _ _ (by omega), decode_scan _ _ (by omega),
        decode_scan _ _ (by omega), decode_scan _ _ (by omega), packSextets, ih]
      have first : a.toNat / 4 * 4 + (a.toNat % 4 * 16 + b.toNat / 16) / 16 = a.toNat := by omega
      have second : (a.toNat % 4 * 16 + b.toNat / 16) % 16 * 16 +
          (b.toNat % 16 * 4 + c.toNat / 64) / 4 = b.toNat := by omega
      have third : (b.toNat % 16 * 4 + c.toNat / 64) % 4 * 64 + c.toNat % 64 = c.toNat := by omega
      simp only [first, second, third, UInt8.ofNat_toNat]

end Base64

/-- `Buffer.from(bytes).toString('base64')` -/
def toBase64 (bytes : Bytes) : String := String.ofList (Base64.encode bytes)

/-- `Buffer.from(text, 'base64')` -/
def fromBase64 (text : String) : Bytes := Base64.decode text.toList

@[simp] theorem fromBase64_toBase64 (bytes : Bytes) : fromBase64 (toBase64 bytes) = bytes := by
  simp [fromBase64, toBase64, Base64.decode_encode]

theorem toBase64_injective : Function.Injective toBase64 :=
  Function.LeftInverse.injective fromBase64_toBase64

end Chainmail
