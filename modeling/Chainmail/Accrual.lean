import Chainmail.Solidity
import Mathlib.Algebra.BigOperators.Intervals
import Mathlib.Algebra.BigOperators.Ring.Finset
import Mathlib.Algebra.Order.BigOperators.Group.Finset
import Mathlib.Algebra.Order.Ring.Rat

/-!
A stream that runs second by second and is shared among the active accounts. Each
account is owed its shares of the seconds since it was last settled; all of them
together gain no more than the seconds that go by.
-/

namespace Chainmail.Accrual

open Chainmail.Solidity

structure Account where
  active : Bool
  since : Nat

/-- The shares of the seconds from `since` to `now`. -/
def accrued (share : Nat → ℚ) (since now : Nat) : ℚ :=
  ∑ second ∈ Finset.Ico since now, share second

def owed (share : Nat → ℚ) (now : Nat) (account : Account) : ℚ :=
  if account.active = true then accrued share account.since now else 0

section Account
variable {share other : Nat → ℚ} {now later : Nat}

theorem accrued_nonneg (since now : Nat) (nonneg : ∀ second, 0 ≤ share second) :
    0 ≤ accrued share since now :=
  Finset.sum_nonneg fun second _ => nonneg second

theorem owed_nonneg (now : Nat) (account : Account) (nonneg : ∀ second, 0 ≤ share second) :
    0 ≤ owed share now account := by
  rw [owed]
  split
  · exact accrued_nonneg account.since now nonneg
  · exact le_refl 0

theorem owed_settled (active : Bool) : owed share now ⟨active, now⟩ = 0 := by
  simp [owed, accrued]

theorem owed_inactive (since : Nat) : owed share now ⟨false, since⟩ = 0 := by
  simp [owed]

theorem owed_congr (account : Account) (same : ∀ second, second < now → other second = share second) :
    owed other now account = owed share now account := by
  rw [owed, owed]
  split
  · apply Finset.sum_congr rfl
    intro second within
    exact same second (Finset.mem_Ico.mp within).2
  · rfl

theorem owed_wait {account : Account} (settled : account.since ≤ now) (waited : now ≤ later) :
    owed share later account = owed share now account +
      if account.active = true then accrued share now later else 0 := by
  rw [owed, owed]
  split
  · exact (Finset.sum_Ico_consecutive share settled waited).symm
  · exact (add_zero 0).symm

end Account

section Pool
variable {Holder : Type} [Fintype Holder] {share other : Nat → ℚ} {now later : Nat}
  {accounts : Holder → Account}

/-- What all accounts are owed. -/
def pending (share : Nat → ℚ) (now : Nat) (accounts : Holder → Account) : ℚ :=
  ∑ holder, owed share now (accounts holder)

theorem pending_nonneg (now : Nat) (accounts : Holder → Account)
    (nonneg : ∀ second, 0 ≤ share second) : 0 ≤ pending share now accounts :=
  Finset.sum_nonneg fun holder _ => owed_nonneg now (accounts holder) nonneg

theorem pending_congr (accounts : Holder → Account)
    (same : ∀ second, second < now → other second = share second) :
    pending other now accounts = pending share now accounts :=
  Finset.sum_congr rfl fun holder _ => owed_congr (accounts holder) same

theorem pending_update [DecidableEq Holder] (share : Nat → ℚ) (now : Nat)
    (accounts : Holder → Account) (holder : Holder) (account : Account) :
    pending share now (Function.update accounts holder account) +
        owed share now (accounts holder) =
      pending share now accounts + owed share now account :=
  sum_update (owed share now) accounts holder account

/-- While a second is worth no more than its shares, the accounts gain no more than
    the seconds. -/
theorem pending_wait (settled : ∀ holder, (accounts holder).since ≤ now) (waited : now ≤ later)
    (shared : ∀ second, now ≤ second → second < later →
      ((Finset.univ.filter fun holder => (accounts holder).active = true).card : ℚ) *
        share second ≤ 1) :
    pending share later accounts ≤ pending share now accounts + (later - now) := by
  have gained : pending share later accounts = pending share now accounts +
      ∑ holder, if (accounts holder).active = true then accrued share now later else 0 := by
    rw [pending, pending, ← Finset.sum_add_distrib]
    exact Finset.sum_congr rfl fun holder _ => owed_wait (settled holder) waited
  have seconds : (∑ holder, if (accounts holder).active = true then accrued share now later else 0) ≤
      ∑ second ∈ Finset.Ico now later, (1 : ℚ) := by
    rw [← Finset.sum_filter, Finset.sum_const, nsmul_eq_mul, accrued, Finset.mul_sum]
    apply Finset.sum_le_sum
    intro second within
    obtain ⟨from_now, before⟩ := Finset.mem_Ico.mp within
    exact shared second from_now before
  have elapsed : ∑ second ∈ Finset.Ico now later, (1 : ℚ) = later - now := by
    simp [Nat.cast_sub waited]
  rw [gained, ← elapsed]
  gcongr

end Pool
end Chainmail.Accrual
