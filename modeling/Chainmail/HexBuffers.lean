import Chainmail.JsonRoundTrip
import Chainmail.LocalRegistry

/-!
`Buffer.from(value, 'hex')`: keys and signatures are kept as texts of hexadecimal digits, and
what `toString('hex')` wrote is read as it was.
-/

namespace Chainmail

open RegistryService (fromHex)

/-- `Buffer.from(value, 'hex')` -/
def bufferFromHex (P : Packages) : Option Json → Except Failure Bytes
  | some (.string text) => .ok (fromHex text.toList)
  | some other => accepted (P.bufferFromOther other)
  | none => .error .typeError

theorem fromHex_flatMap (bytes : Bytes) : fromHex (bytes.flatMap byteHex) = bytes := by
  induction bytes with
  | nil => rfl
  | cons byte rest ih =>
      have small : byte.toNat < 256 := byte.toNat_lt
      have high : Json.hexValue (Nat.digitChar (byte.toNat / 16)) = some (byte.toNat / 16) :=
        Json.hexValue_digitChar _ (by omega)
      have low : Json.hexValue (Nat.digitChar (byte.toNat % 16)) = some (byte.toNat % 16) :=
        Json.hexValue_digitChar _ (by omega)
      have whole : byte.toNat / 16 * 16 + byte.toNat % 16 = byte.toNat := by omega
      rw [List.flatMap_cons, byteHex, List.cons_append, List.cons_append, List.nil_append, fromHex,
        high, low]
      simp only [whole, ih, UInt8.ofNat_toNat]

@[simp] theorem bufferFromHex_toHex (P : Packages) (bytes : Bytes) :
    bufferFromHex P (some (.string (toHex bytes))) = .ok bytes := by
  rw [bufferFromHex, toHex, String.toList_ofList, fromHex_flatMap]

end Chainmail
