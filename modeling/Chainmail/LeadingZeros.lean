import Chainmail.ProofOfWork
import Mathlib.Algebra.Order.Floor.Ring
import Mathlib.Data.Rat.Floor

/-!
The test that `ProofOfWorkLimiter.verifyProof` of `src/network/rate-limiter.js` makes of a
hash. It looks for the zero bits byte by byte, and with a mask in the byte where they end;
`pow.js` compares the whole hash with a power of two.
-/

namespace Chainmail.ProofOfWorkLimiter

open Json ProofOfWork

structure Limiter where
  baseDifficulty : Nat

/-- `options.baseDifficulty || 16` -/
def construct (baseDifficulty : Option Nat) : Limiter :=
  ⟨(baseDifficulty.filter (· ≠ 0)).getD 16⟩

/-- Each product is the double nearest to it. -/
def getDifficulty (limiter : Limiter) (reputation : ℚ) : Int :=
  let reductionFactor := JsNumber.double.nearest (reputation / 100)
  let reduced := JsNumber.double.nearest (limiter.baseDifficulty * reductionFactor)
  let reduction := ⌊JsNumber.double.nearest (reduced * (1 / 2))⌋
  max 8 (limiter.baseDifficulty - reduction)

/-- The loop over the bytes that have to be zero; past the end of the hash none is. -/
def zeroBytes (hash : Bytes) (requiredZeroBytes : Nat) : Bool :=
  (List.range requiredZeroBytes).all fun i => hash[i]? = some 0

/-- `(hash[requiredZeroBytes] & mask) === 0`; past the end of the hash there is nothing to mask. -/
def zeroBits (hash : Bytes) (requiredZeroBytes remainingBits : Nat) : Bool :=
  let mask := 0xFF <<< (8 - remainingBits)
  ((hash[requiredZeroBytes]?.map UInt8.toNat).getD 0) &&& mask = 0

def insufficientWork (difficulty : Nat) (hash : Bytes) : Bool :=
  let requiredZeroBytes := difficulty / 8
  let remainingBits := difficulty % 8
  !zeroBytes hash requiredZeroBytes ||
    (0 < remainingBits && !zeroBits hash requiredZeroBytes remainingBits)

section Bytes
variable {byte : UInt8} {rest hash : Bytes}

theorem hashValue_from (value : Nat) (hash : Bytes) :
    hash.foldl (fun value byte => value * 256 + byte.toNat) value =
      value * 256 ^ hash.length + hashValue hash := by
  induction hash generalizing value with
  | nil => simp [hashValue]
  | cons byte rest ih =>
      rw [hashValue, List.foldl_cons, List.foldl_cons, ih, ih (0 * 256 + byte.toNat),
        List.length_cons, pow_succ]
      ring

/-- The first byte of a hash is the highest. -/
theorem hashValue_cons (byte : UInt8) (rest : Bytes) :
    hashValue (byte :: rest) = byte.toNat * 256 ^ rest.length + hashValue rest := by
  rw [hashValue, List.foldl_cons, hashValue_from, Nat.zero_mul, Nat.zero_add]

theorem hashValue_lt (hash : Bytes) : hashValue hash < 256 ^ hash.length := by
  have bound := hashValue_from_lt hash 0
  rwa [Nat.zero_add, Nat.one_mul] at bound

/-- A byte is below a bound in the highest place exactly when the whole hash is. -/
theorem hashValue_cons_lt {bound : Nat} :
    hashValue (byte :: rest) < bound * 256 ^ rest.length ↔ byte.toNat < bound := by
  have low := hashValue_lt rest
  rw [hashValue_cons]
  constructor
  · intro below
    by_contra high
    have least := Nat.mul_le_mul_right (256 ^ rest.length) (Nat.not_lt.mp high)
    omega
  · intro below
    have most := Nat.mul_le_mul_right (256 ^ rest.length) (Nat.succ_le_of_lt below)
    rw [Nat.succ_mul] at most
    omega

theorem zeroBytes_cons (requiredZeroBytes : Nat) :
    zeroBytes (byte :: rest) (requiredZeroBytes + 1) = true ↔
      byte = 0 ∧ zeroBytes rest requiredZeroBytes = true := by
  simp [zeroBytes, List.range_succ_eq_map]

/-- Below a bound that leaves no room for the first bytes, these are zero. -/
theorem hashValue_lt_iff_zeroBytes {zeros places bound : Nat} (length : hash.length = zeros + places)
    (small : bound ≤ 256 ^ places) :
    hashValue hash < bound ↔ zeroBytes hash zeros = true ∧ hashValue (hash.drop zeros) < bound := by
  induction zeros generalizing hash with
  | zero => simp [zeroBytes]
  | succ zeros ih =>
      cases hash with
      | nil =>
          simp only [List.length_nil] at length
          omega
      | cons byte rest =>
          have shorter : rest.length = zeros + places := by
            simp only [List.length_cons] at length
            omega
          rw [zeroBytes_cons, List.drop_succ_cons, and_assoc, ← ih shorter]
          constructor
          · intro below
            have wider : 256 ^ places ≤ 256 ^ rest.length :=
              Nat.pow_le_pow_right (by decide) (by omega)
            have first : hashValue (byte :: rest) < 1 * 256 ^ rest.length := by omega
            have none : byte.toNat = 0 := Nat.lt_one_iff.mp (hashValue_cons_lt.mp first)
            rw [hashValue_cons, none, Nat.zero_mul, Nat.zero_add] at below
            exact ⟨UInt8.toNat_inj.mp none, below⟩
          · rintro ⟨rfl, below⟩
            rw [hashValue_cons]
            simpa using below

/-- The mask covers the highest bits of a byte. -/
theorem masked_iff : ∀ remainingBits < 8, ∀ byte < 256, 0 < remainingBits →
    (byte &&& (0xFF <<< (8 - remainingBits)) = 0 ↔ byte < 2 ^ (8 - remainingBits)) := by
  decide +kernel

/-- Whole bytes of zeros. -/
theorem sufficient_bytes {zeros : Nat} (sized : hash.length = 32) (within : zeros ≤ 32) :
    zeroBytes hash zeros = true ↔ hashValue hash < 256 ^ (32 - zeros) := by
  have rest : (hash.drop zeros).length = 32 - zeros := by rw [List.length_drop, sized]
  rw [hashValue_lt_iff_zeroBytes (by omega : hash.length = zeros + (32 - zeros)) (Nat.le_refl _)]
  have low := hashValue_lt (hash.drop zeros)
  rw [rest] at low
  exact (and_iff_left low).symm

/-- Bytes of zeros and the highest bits of the byte after them. -/
theorem sufficient_bits {zeros remainingBits : Nat} (sized : hash.length = 32)
    (within : zeros < 32) (asked : 0 < remainingBits) (few : remainingBits < 8) :
    (zeroBytes hash zeros = true ∧ zeroBits hash zeros remainingBits = true) ↔
      hashValue hash < 2 ^ (8 - remainingBits) * 256 ^ (31 - zeros) := by
  have room : 2 ^ (8 - remainingBits) * 256 ^ (31 - zeros) ≤ 256 ^ (32 - zeros) := by
    have byte : 2 ^ (8 - remainingBits) ≤ 2 ^ 8 := Nat.pow_le_pow_right (by decide) (by omega)
    rw [show 32 - zeros = 31 - zeros + 1 by omega, pow_succ, Nat.mul_comm]
    exact Nat.mul_le_mul_left _ byte
  have inside : zeros < hash.length := by omega
  have split : hash.drop zeros = hash[zeros] :: hash.drop (zeros + 1) :=
    List.drop_eq_getElem_cons inside
  have after : (hash.drop (zeros + 1)).length = 31 - zeros := by
    rw [List.length_drop, sized]
    omega
  have found : hash[zeros]? = some hash[zeros] := List.getElem?_eq_getElem inside
  rw [hashValue_lt_iff_zeroBytes (by omega : hash.length = zeros + (32 - zeros)) room, split,
    ← after, hashValue_cons_lt, ← masked_iff _ few _ (UInt8.toNat_lt _) asked]
  simp [zeroBits, found]

end Bytes

/-- As many zero bits as are asked for leave a number below a power of two. -/
theorem sufficient_iff {difficulty : Nat} (bounded : difficulty ≤ 256) {hash : Bytes}
    (sized : hash.length = 32) :
    insufficientWork difficulty hash = false ↔ hashValue hash < 2 ^ (256 - difficulty) := by
  have parts := Nat.div_add_mod difficulty 8
  have few := Nat.mod_lt difficulty (show 0 < 8 by decide)
  rw [insufficientWork]
  generalize difficulty / 8 = zeros at *
  generalize difficulty % 8 = remainingBits at *
  rcases Nat.eq_zero_or_pos remainingBits with rfl | asked
  · have target : 2 ^ (256 - difficulty) = 256 ^ (32 - zeros) := by
      rw [show 256 - difficulty = 8 * (32 - zeros) by omega, pow_mul]
      rfl
    rw [target, ← sufficient_bytes sized (by omega)]
    simp
  · have target : 2 ^ (256 - difficulty) = 2 ^ (8 - remainingBits) * 256 ^ (31 - zeros) := by
      rw [show 256 - difficulty = 8 - remainingBits + 8 * (31 - zeros) by omega, pow_add, pow_mul]
      rfl
    rw [target, ← sufficient_bits sized (by omega) asked few]
    simp [asked]

/-- A sender without a reputation gets the difficulty that was configured. -/
theorem getDifficulty_none {base : Nat} (least : 8 ≤ base) :
    getDifficulty (construct (some base)) 0 = base := by
  have kept : (construct (some base)).baseDifficulty = base := by
    have nonzero : base ≠ 0 := by omega
    simp [construct, Option.filter, nonzero]
  have more : (8 : Int) ≤ base := by exact_mod_cast least
  simp [getDifficulty, kept, more]

/-- The test of `pow.js` on a proof that claims a difficulty. -/
theorem verifyProofOfWork_iff {P : Packages} {messageHash hash nonce : String} {difficulty : Nat}
    (bounded : difficulty ≤ 256) :
    verifyProofOfWork P messageHash (some (Proof.toJson ⟨nonce, hash, difficulty⟩)) = .ok true ↔
      hashValue (nonceHash P messageHash nonce) < 2 ^ (256 - difficulty) := by
  have natural : shiftOne (256 - (difficulty : Int)) = 2 ^ (256 - difficulty) := by
    rw [shiftOne, if_pos (by omega)]
    congr 1
    omega
  simp [verifyProofOfWork, Proof.toJson, lookup, targetOf_ofInt bounded, spliced, toText, natural]

/-- The test by bytes and a mask is the test of the whole number, at every difficulty and hash, and
    so the one that `pow.js` makes of a nonce. -/
theorem zero_tests_agree {base : Nat} (least : 8 ≤ base) (most : base ≤ 256) :
    (∀ hash : Bytes, hash.length = 32 →
      (insufficientWork (getDifficulty (construct (some base)) 0).toNat hash = false ↔
        hashValue hash < 2 ^ (256 - base))) ∧
    ∀ (P : Packages) (messageHash hash nonce : String),
      (nonceHash P messageHash nonce).length = 32 →
      (insufficientWork (getDifficulty (construct (some base)) 0).toNat
          (nonceHash P messageHash nonce) = false ↔
        verifyProofOfWork P messageHash (some (Proof.toJson ⟨nonce, hash, base⟩)) = .ok true) := by
  have byHash (hash : Bytes) (sized : hash.length = 32) :
      insufficientWork (getDifficulty (construct (some base)) 0).toNat hash = false ↔
        hashValue hash < 2 ^ (256 - base) := by
    rw [getDifficulty_none least, Int.toNat_natCast]
    exact sufficient_iff most sized
  refine ⟨byHash, fun P messageHash hash nonce sized => ?_⟩
  exact (byHash _ sized).trans (verifyProofOfWork_iff most).symm

theorem sampled_tests_agree : insufficientWork (getDifficulty (construct (some 20)) 0).toNat
    (nonceHash samplePackages "c0ffee" "7") = false :=
  ((zero_tests_agree (by decide) (by decide)).1 _ (sample_sha256 _)).mpr (by decide +kernel)

end Chainmail.ProofOfWorkLimiter
