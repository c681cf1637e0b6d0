import Chainmail.ProofOfWork
import Mathlib.Data.Nat.Find
import Mathlib.Order.Bounds.Basic

/-!
Which nonce the search finds: the smallest that is good enough, if there is one up to
the safety limit.
-/

namespace Chainmail.ProofOfWork

open Json

variable (P : Packages)

/-- The hash over the nonce has as many leading zero bits as are asked for. -/
def Meets (messageHash : String) (difficulty nonce : Nat) : Prop :=
  hashValue (nonceHash P messageHash (nonceText nonce)) < 2 ^ (256 - difficulty)

/-- The proof that names the nonce. -/
def proofOf (messageHash : String) (difficulty nonce : Nat) : Proof :=
  ⟨nonceText nonce, toHex (nonceHash P messageHash (nonceText nonce)), difficulty⟩

/-- What is found from the first nonce on, with as many turns left. -/
def FindsLeast (messageHash : String) (difficulty first remaining : Nat) (proof : Proof) : Prop :=
  ∃ nonce, IsLeast {nonce | first ≤ nonce ∧ nonce ≤ first + remaining ∧
    Meets P messageHash difficulty nonce} nonce ∧ proof = proofOf P messageHash difficulty nonce

variable {P} {messageHash : String} {difficulty : Nat}

theorem shiftOne_natural (bounded : difficulty ≤ 256) :
    shiftOne (256 - difficulty) = 2 ^ (256 - difficulty) := by
  rw [shiftOne, if_pos (by omega)]
  congr 1
  omega

theorem attempt_eq (bounded : difficulty ≤ 256) (nonce : Nat)
    [Decidable (Meets P messageHash difficulty nonce)] : attempt P messageHash difficulty nonce =
      if Meets P messageHash difficulty nonce then some (proofOf P messageHash difficulty nonce)
      else none := by
  rw [attempt, shiftOne_natural bounded]
  by_cases good : Meets P messageHash difficulty nonce
  · rw [if_pos good]
    exact if_pos good
  · rw [if_neg good]
    exact if_neg good

theorem findsLeast_here {first remaining : Nat} {proof : Proof}
    (good : Meets P messageHash difficulty first) :
    FindsLeast P messageHash difficulty first remaining proof ↔
      proof = proofOf P messageHash difficulty first := by
  have least : IsLeast {nonce | first ≤ nonce ∧ nonce ≤ first + remaining ∧
      Meets P messageHash difficulty nonce} first :=
    ⟨⟨Nat.le_refl _, Nat.le_add_right _ _, good⟩, fun nonce found => found.1⟩
  constructor
  · rintro ⟨nonce, found, rfl⟩
    rw [found.unique least]
  · rintro rfl
    exact ⟨first, least, rfl⟩

theorem findsLeast_later {first remaining : Nat} {proof : Proof}
    (bad : ¬ Meets P messageHash difficulty first) :
    FindsLeast P messageHash difficulty first (remaining + 1) proof ↔
      FindsLeast P messageHash difficulty (first + 1) remaining proof := by
  have same : {nonce | first ≤ nonce ∧ nonce ≤ first + (remaining + 1) ∧
      Meets P messageHash difficulty nonce} = {nonce | first + 1 ≤ nonce ∧
        nonce ≤ first + 1 + remaining ∧ Meets P messageHash difficulty nonce} := by
    ext nonce
    constructor
    · rintro ⟨from', upTo, good⟩
      have apart : nonce ≠ first := by
        rintro rfl
        exact bad good
      exact ⟨by omega, by omega, good⟩
    · rintro ⟨from', upTo, good⟩
      exact ⟨by omega, by omega, good⟩
  rw [FindsLeast, FindsLeast, same]

/-- The loop returns the first nonce that is good enough, and throws when its turns are over. -/
theorem search_iff (bounded : difficulty ≤ 256) (remaining first : Nat) (proof : Proof) :
    search P messageHash difficulty remaining first = .ok proof ↔
      FindsLeast P messageHash difficulty first remaining proof := by
  classical
  induction remaining generalizing first with
  | zero =>
      rw [search, attempt_eq bounded]
      by_cases good : Meets P messageHash difficulty first
      · rw [if_pos good, findsLeast_here good]
        simp [eq_comm]
      · rw [if_neg good]
        refine iff_of_false (by simp) ?_
        rintro ⟨nonce, ⟨⟨from', upTo, found⟩, _⟩, _⟩
        obtain rfl : nonce = first := by omega
        exact good found
  | succ remaining ih =>
      rw [search, attempt_eq bounded]
      by_cases good : Meets P messageHash difficulty first
      · rw [if_pos good, findsLeast_here good]
        simp [eq_comm]
      · rw [if_neg good, findsLeast_later good]
        exact ih (first + 1)

/-- The search up to the safety limit is complete and finds the smallest nonce, and what it finds
    is accepted. -/
theorem least_nonce_found (P : Packages) (messageHash : String) {difficulty : Nat}
    (bounded : difficulty ≤ 256) :
    (∀ proof, computeProofOfWork P messageHash difficulty = .ok proof ↔
      ∃ nonce, IsLeast {nonce | nonce ≤ 2 ^ 40 ∧ Meets P messageHash difficulty nonce} nonce ∧
        proof = proofOf P messageHash difficulty nonce) ∧
    ((∃ failure, computeProofOfWork P messageHash difficulty = .error failure) ↔
      ∀ nonce, nonce ≤ 2 ^ 40 → ¬ Meets P messageHash difficulty nonce) ∧
    ∀ proof, computeProofOfWork P messageHash difficulty = .ok proof →
      verifyProofOfWork P messageHash (some proof.toJson) = .ok true := by
  have finds (proof : Proof) : computeProofOfWork P messageHash difficulty = .ok proof ↔
      ∃ nonce, IsLeast {nonce | nonce ≤ 2 ^ 40 ∧ Meets P messageHash difficulty nonce} nonce ∧
        proof = proofOf P messageHash difficulty nonce := by
    have found : computeProofOfWork P messageHash difficulty = .ok proof ↔
        FindsLeast P messageHash difficulty 0 MAX_NONCE proof := search_iff bounded MAX_NONCE 0 proof
    rw [found]
    simp only [FindsLeast, MAX_NONCE, Nat.zero_le, true_and, Nat.zero_add]
  refine ⟨finds, ?_, fun proof found => verify_compute found⟩
  constructor
  · classical
    rintro ⟨failure, thrown⟩ nonce upTo good
    -- If one nonce will do then so does a least one, and the search would have found it.
    have some : ∃ nonce, nonce ≤ 2 ^ 40 ∧ Meets P messageHash difficulty nonce := ⟨nonce, upTo, good⟩
    have least : IsLeast {nonce | nonce ≤ 2 ^ 40 ∧ Meets P messageHash difficulty nonce}
        (Nat.find some) := ⟨Nat.find_spec some, fun other found => Nat.find_min' some found⟩
    have found := (finds _).mpr ⟨_, least, rfl⟩
    rw [thrown] at found
    cases found
  · intro none
    cases computed : computeProofOfWork P messageHash difficulty with
    | error failure => exact ⟨failure, rfl⟩
    | ok proof =>
        obtain ⟨nonce, ⟨⟨upTo, good⟩, _⟩, _⟩ := (finds proof).mp computed
        exact absurd good (none nonce upTo)

theorem first_nonce_least : computeProofOfWork samplePackages "mail" DEFAULT_DIFFICULTY =
    .ok (proofOf samplePackages "mail" DEFAULT_DIFFICULTY 0) := by
  have good : Meets samplePackages "mail" DEFAULT_DIFFICULTY 0 := by
    rw [Meets]
    decide +kernel
  have bounded : DEFAULT_DIFFICULTY ≤ 256 := by decide
  refine ((least_nonce_found samplePackages "mail" bounded).1 _).mpr ⟨0, ⟨⟨?_, good⟩, ?_⟩, rfl⟩
  · exact Nat.zero_le _
  · exact fun nonce _ => Nat.zero_le nonce

end Chainmail.ProofOfWork
