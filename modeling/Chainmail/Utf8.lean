import Chainmail.Base64

/-!
Texts as bytes. `utf8Encode` is `TextEncoder.encode`; `textDecode` is
`TextDecoder.decode`, which drops a byte order mark and puts a replacement
character for every maximal piece of an invalid sequence.
-/

namespace Chainmail

def utf8Encode (text : String) : Bytes := text.toUTF8.data.toList

/-- The text whose bytes these are, if there is one. -/
def utf8Decode (bytes : Bytes) : Option String := String.fromUTF8? ⟨bytes.toArray⟩

theorem utf8Encode_decode {bytes : Bytes} {text : String} (decoded : utf8Decode bytes = some text) :
    utf8Encode text = bytes := by
  unfold utf8Decode String.fromUTF8? at decoded
  split at decoded
  · obtain rfl := Option.some.inj decoded
    rfl
  · cases decoded

theorem utf8Decode_encode (text : String) : utf8Decode (utf8Encode text) = some text := by
  have valid : (⟨(utf8Encode text).toArray⟩ : ByteArray).IsValidUTF8 := by
    simpa [utf8Encode] using text.isValidUTF8
  unfold utf8Decode String.fromUTF8?
  rw [dif_pos valid]
  simp [utf8Encode, String.fromUTF8]

theorem utf8Encode_injective : Function.Injective utf8Encode := by
  intro left right same
  have decoded := utf8Decode_encode left
  rw [same, utf8Decode_encode] at decoded
  exact (Option.some.inj decoded).symm

/-- The decoder inside a sequence: bytes still to come, the range of the next, bits so far. -/
structure Pending where
  needed : Nat
  lower : UInt8
  upper : UInt8
  code : Nat

def replacementCharacter : Char := '\uFFFD'

/-- The first byte of a sequence, and what it leaves pending. -/
def startSequence (byte : UInt8) : List Char × Option Pending :=
  if byte ≤ 0x7F then ([Char.ofNat byte.toNat], none)
  else if 0xC2 ≤ byte ∧ byte ≤ 0xDF then ([], some ⟨1, 0x80, 0xBF, byte.toNat % 32⟩)
  else if 0xE0 ≤ byte ∧ byte ≤ 0xEF then
    ([], some ⟨2, if byte = 0xE0 then 0xA0 else 0x80, if byte = 0xED then 0x9F else 0xBF,
      byte.toNat % 16⟩)
  else if 0xF0 ≤ byte ∧ byte ≤ 0xF4 then
    ([], some ⟨3, if byte = 0xF0 then 0x90 else 0x80, if byte = 0xF4 then 0x8F else 0xBF,
      byte.toNat % 8⟩)
  else ([replacementCharacter], none)

def decodeLossy : Option Pending → Bytes → List Char
  | none, [] => []
  | some _, [] => [replacementCharacter]
  | none, byte :: rest =>
      let started := startSequence byte
      started.1 ++ decodeLossy started.2 rest
  | some pending, byte :: rest =>
      if pending.lower ≤ byte ∧ byte ≤ pending.upper then
        let code := pending.code * 64 + byte.toNat % 64
        if pending.needed = 1 then Char.ofNat code :: decodeLossy none rest
        else decodeLossy (some ⟨pending.needed - 1, 0x80, 0xBF, code⟩) rest
      else
        -- The byte that breaks a sequence starts the next one.
        let started := startSequence byte
        replacementCharacter :: (started.1 ++ decodeLossy started.2 rest)

def dropByteOrderMark : Bytes → Bytes
  | 0xEF :: 0xBB :: 0xBF :: rest => rest
  | bytes => bytes

def textDecode (bytes : Bytes) : String :=
  let bytes := dropByteOrderMark bytes
  match utf8Decode bytes with
  | some text => text
  | none => String.ofList (decodeLossy none bytes)

/-- `Buffer.toString()`, which keeps a byte order mark. -/
def bufferToString (bytes : Bytes) : String :=
  match utf8Decode bytes with
  | some text => text
  | none => String.ofList (decodeLossy none bytes)

@[simp] theorem bufferToString_encode (text : String) : bufferToString (utf8Encode text) = text := by
  simp only [bufferToString, utf8Decode_encode]

theorem textDecode_encode {text : String} (unmarked : dropByteOrderMark (utf8Encode text) = utf8Encode text) :
    textDecode (utf8Encode text) = text := by
  simp only [textDecode, unmarked, utf8Decode_encode]

theorem utf8Encode_ofList (chars : List Char) :
    utf8Encode (String.ofList chars) = chars.flatMap String.utf8EncodeChar := by
  simp [utf8Encode, List.utf8Encode]

/-- A text that opens with a brace has no byte order mark to lose. -/
theorem textDecode_encode_brace (rest : List Char) :
    textDecode (utf8Encode (String.ofList ('{' :: rest))) = String.ofList ('{' :: rest) := by
  apply textDecode_encode
  rw [utf8Encode_ofList, List.flatMap_cons]
  rfl

end Chainmail
