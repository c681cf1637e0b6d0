import Chainmail.Coercion
import Chainmail.JsArithmetic
import Chainmail.PackageAssumptions

/-!
`src/crypto/pow.js`: the search for a nonce whose hash is small enough, and the
check of a nonce someone else claims.
-/

namespace Chainmail.ProofOfWork

open Json

def DEFAULT_DIFFICULTY : Nat := 18

/-- The last nonce that is tried. -/
def MAX_NONCE : Nat := 2 ^ 40

variable (P : Packages)

/-- `BigInt('0x' + hex)` of a hash. -/
def hashValue (hash : Bytes) : Nat :=
  hash.foldl (fun value byte => value * 256 + byte.toNat) 0

def nonceHash (messageHash nonce : String) : Bytes :=
  P.sha256 (utf8Encode (messageHash ++ ":" ++ nonce))

/-- `BigInt(1) << exponent`, which a negative exponent shifts out. -/
def shiftOne (exponent : Int) : Nat := if 0 ≤ exponent then 2 ^ exponent.toNat else 0

structure Proof where
  nonce : String
  hash : String
  difficulty : Nat

def nonceText (nonce : Nat) : String := String.ofList (Nat.toDigits 10 nonce)

def attempt (messageHash : String) (difficulty nonce : Nat) : Option Proof :=
  let hash := nonceHash P messageHash (nonceText nonce)
  if hashValue hash < shiftOne (256 - difficulty) then
    some ⟨nonceText nonce, toHex hash, difficulty⟩
  else none

/-- The loop, by the turns it has left and the nonce it is at. -/
def search (messageHash : String) (difficulty : Nat) : Nat → Nat → Except Failure Proof
  | 0, nonce =>
      match attempt P messageHash difficulty nonce with
      | some proof => .ok proof
      | none => .error (.error "PoW computation exceeded maximum iterations")
  | remaining + 1, nonce =>
      match attempt P messageHash difficulty nonce with
      | some proof => .ok proof
      | none => search messageHash difficulty remaining (nonce + 1)

def computeProofOfWork (messageHash : String) (difficulty : Nat) : Except Failure Proof :=
  search P messageHash difficulty MAX_NONCE 0

/-- The proof as an envelope carries it. -/
def Proof.toJson (proof : Proof) : Json :=
  .object [("nonce", .string proof.nonce), ("hash", .string proof.hash),
    ("difficulty", ofInt proof.difficulty)]

/-- `Number(value)`; `none` stands for what no `BigInt` is made of. -/
def numberOf : Option Json → Option Decimal
  | none => none
  | some .null => some 0
  | some (.bool value) => some (if value then 1 else 0)
  | some (.number value) => some value
  | some other => P.numberFromOther other

/-- `256 - difficulty`, of the double that the difficulty is read as. -/
def exponentOf (difficulty : Option Json) : JsNumber :=
  match numberOf P difficulty with
  | some value => (JsNumber.ofNat 256).minus (ofDecimal value).rounded
  | none => .nan

/-- `BigInt(number)`, which takes whole numbers only. -/
def bigInt : JsNumber → Option Int
  | .finite value => if value.den = 1 then some value.num else none
  | _ => none

/-- `BigInt(1) << BigInt(256 - difficulty)` -/
def targetOf (difficulty : Option Json) : Except Failure Nat :=
  match bigInt (exponentOf P difficulty) with
  | some exponent => .ok (shiftOne exponent)
  | none => .error .rangeError

def verifyProofOfWork (messageHash : String) (proof : Option Json) : Except Failure Bool := do
  let nonce ← member "nonce" proof
  let difficulty ← member "difficulty" proof
  let target ← targetOf P difficulty
  let text ← spliced nonce
  return decide (hashValue (nonceHash P messageHash text) < target)

variable {P}

theorem attempt_some {messageHash : String} {difficulty nonce : Nat} {proof : Proof}
    (found : attempt P messageHash difficulty nonce = some proof) :
    proof.difficulty = difficulty ∧
      hashValue (nonceHash P messageHash proof.nonce) < shiftOne (256 - difficulty) := by
  unfold attempt at found
  simp only [Option.ite_none_right_eq_some] at found
  obtain ⟨small, made⟩ := found
  cases made
  exact ⟨rfl, small⟩

theorem search_ok {messageHash : String} {difficulty remaining nonce : Nat} {proof : Proof}
    (found : search P messageHash difficulty remaining nonce = .ok proof) :
    proof.difficulty = difficulty ∧
      hashValue (nonceHash P messageHash proof.nonce) < shiftOne (256 - difficulty) := by
  induction remaining generalizing nonce with
  | zero =>
      cases tried : attempt P messageHash difficulty nonce with
      | none => simp [search, tried] at found
      | some hit =>
          simp only [search, tried, Except.ok.injEq] at found
          exact attempt_some (found ▸ tried)
  | succ remaining ih =>
      cases tried : attempt P messageHash difficulty nonce with
      | none =>
          simp only [search, tried] at found
          exact ih found
      | some hit =>
          simp only [search, tried, Except.ok.injEq] at found
          exact attempt_some (found ▸ tried)

@[simp] theorem bigInt_int (n : Int) : bigInt (.finite n) = some n := by
  simp [bigInt]

theorem targetOf_ofInt {difficulty : Nat} (bounded : difficulty ≤ 256) :
    targetOf P (some (ofInt difficulty)) = .ok (shiftOne (256 - difficulty)) := by
  have read : toNumber (ofInt difficulty) = .ok (.ofNat difficulty) := toNumber_natural difficulty
  rw [ofInt_natCast, toNumber, Except.ok.injEq] at read
  have small : |(difficulty : Int)| ≤ 2 ^ 53 := by
    rw [Nat.abs_cast]
    omega
  have left : |((256 : Nat) : Int) - difficulty| ≤ 2 ^ 53 := by
    rw [abs_le]
    omega
  have exponent : exponentOf P (some (ofInt difficulty)) =
      .finite ((256 - difficulty : Int) : ℚ) := by
    rw [exponentOf, ofInt_natCast, numberOf]
    dsimp only
    rw [read, JsNumber.ofNat_eq_int difficulty, JsNumber.rounded_int small, JsNumber.ofNat_eq_int,
      JsNumber.minus_int left, JsNumber.sub, JsNumber.neg, JsNumber.add]
    push_cast
    rw [sub_eq_add_neg]
  rw [targetOf, exponent, bigInt_int]

theorem shiftOne_pos {difficulty : Nat} (some' : 0 < shiftOne (256 - difficulty)) :
    difficulty ≤ 256 := by
  rw [shiftOne] at some'
  split at some'
  · omega
  · omega

/-- What the search finds, the check accepts. -/
theorem verify_compute {messageHash : String} {difficulty : Nat} {proof : Proof}
    (found : computeProofOfWork P messageHash difficulty = .ok proof) :
    verifyProofOfWork P messageHash (some proof.toJson) = .ok true := by
  obtain ⟨sameDifficulty, small⟩ := search_ok found
  subst sameDifficulty
  have target := targetOf_ofInt (P := P) (shiftOne_pos (Nat.zero_lt_of_lt small))
  simp [verifyProofOfWork, Proof.toJson, lookup, target, spliced, toText, small]

section Sample

theorem hashValue_from_lt (hash : Bytes) (value : Nat) :
    hash.foldl (fun value byte => value * 256 + byte.toNat) value <
      (value + 1) * 256 ^ hash.length := by
  induction hash generalizing value with
  | nil => simp
  | cons byte rest ih =>
      have small : byte.toNat < 256 := byte.toNat_lt
      have step := ih (value * 256 + byte.toNat)
      have wider : (value * 256 + byte.toNat + 1) * 256 ^ rest.length ≤
          (value + 1) * 256 * 256 ^ rest.length :=
        Nat.mul_le_mul_right _ (by omega)
      rw [List.foldl_cons, List.length_cons, pow_succ, Nat.mul_comm (256 ^ rest.length),
        ← Nat.mul_assoc]
      exact Nat.lt_of_lt_of_le step wider

/-- A hash behind three zero bytes needs no search. -/
theorem sample_computes (messageHash : String) : ∃ proof,
    computeProofOfWork samplePackages messageHash DEFAULT_DIFFICULTY = .ok proof := by
  have small : hashValue (nonceHash samplePackages messageHash (nonceText 0)) <
      shiftOne (256 - DEFAULT_DIFFICULTY) := by
    have bound := hashValue_from_lt (fit 29 (utf8Encode (messageHash ++ ":" ++ nonceText 0))) 0
    rw [fit_length] at bound
    exact Nat.lt_trans bound (by decide)
  have first : attempt samplePackages messageHash DEFAULT_DIFFICULTY 0 = some
      ⟨nonceText 0, toHex (nonceHash samplePackages messageHash (nonceText 0)),
        DEFAULT_DIFFICULTY⟩ := if_pos small
  rw [computeProofOfWork, show MAX_NONCE = (2 ^ 40 - 1) + 1 from rfl, search, first]
  exact ⟨_, rfl⟩

end Sample
end Chainmail.ProofOfWork
