import Chainmail.Solidity

/-!
The token the contract inherits from, a package outside the repository: its
internal calls, the documented behaviour the contract relies on, and one ledger
that behaves so.
-/

namespace Chainmail.Solidity

structure ERC20 (Ledger : Type) where
  deployed : Ledger
  balanceOf : Ledger → Address → Nat
  allowance : Ledger → (owner spender : Address) → Nat
  mint : (account : Address) → Nat → Ledger → Option Ledger
  transfer : (sender receiver : Address) → Nat → Ledger → Option Ledger
  approve : (owner spender : Address) → Nat → Ledger → Option Ledger
  transferFrom : (spender sender receiver : Address) → Nat → Ledger → Option Ledger

variable {Ledger : Type}

/-- A balance after `value` left `sender` for `receiver`. -/
def moved (balance : Address → Nat) (sender receiver : Address) (value : Nat) (account : Address) :
    Nat :=
  balance account - (if account = sender then value else 0) +
    (if account = receiver then value else 0)

structure OpenZeppelin (token : ERC20 Ledger) : Prop where
  deployed_balance : ∀ account, token.balanceOf token.deployed account = 0
  deployed_allowance : ∀ owner spender, token.allowance token.deployed owner spender = 0
  mint_receiver : ∀ {account value ledger after},
    token.mint account value ledger = some after → account ≠ 0
  mint_balance : ∀ {account value ledger after}, token.mint account value ledger = some after →
    ∀ other, token.balanceOf after other =
      token.balanceOf ledger other + if other = account then value else 0
  mint_allowance : ∀ {account value ledger after}, token.mint account value ledger = some after →
    token.allowance after = token.allowance ledger
  transfer_iff : ∀ sender receiver value ledger,
    (token.transfer sender receiver value ledger).isSome ↔
      sender ≠ 0 ∧ receiver ≠ 0 ∧ value ≤ token.balanceOf ledger sender
  transfer_balance : ∀ {sender receiver value ledger after},
    token.transfer sender receiver value ledger = some after →
      token.balanceOf after = moved (token.balanceOf ledger) sender receiver value
  transfer_allowance : ∀ {sender receiver value ledger after},
    token.transfer sender receiver value ledger = some after →
      token.allowance after = token.allowance ledger
  approve_balance : ∀ {owner spender value ledger after},
    token.approve owner spender value ledger = some after →
      token.balanceOf after = token.balanceOf ledger
  approve_allowance : ∀ {owner spender value ledger after},
    token.approve owner spender value ledger = some after → ∀ other receiver, other ≠ owner →
      token.allowance after other receiver = token.allowance ledger other receiver
  transferFrom_allowed : ∀ {spender sender receiver value ledger after},
    token.transferFrom spender sender receiver value ledger = some after →
      value ≤ token.allowance ledger sender spender
  transferFrom_funded : ∀ {spender sender receiver value ledger after},
    token.transferFrom spender sender receiver value ledger = some after →
      value ≤ token.balanceOf ledger sender
  transferFrom_balance : ∀ {spender sender receiver value ledger after},
    token.transferFrom spender sender receiver value ledger = some after →
      token.balanceOf after = moved (token.balanceOf ledger) sender receiver value
  transferFrom_allowance : ∀ {spender sender receiver value ledger after},
    token.transferFrom spender sender receiver value ledger = some after →
      ∀ owner other, token.allowance after owner other ≤ token.allowance ledger owner other

theorem OpenZeppelin.transfer_some {token : ERC20 Ledger} (lawful : OpenZeppelin token)
    {sender receiver : Address} {value : Nat} {ledger after : Ledger}
    (success : token.transfer sender receiver value ledger = some after) :
    sender ≠ 0 ∧ receiver ≠ 0 ∧ value ≤ token.balanceOf ledger sender :=
  (lawful.transfer_iff sender receiver value ledger).mp (Option.isSome_of_mem success)

theorem moved_receiver (balance : Address → Nat) {sender receiver : Address} (value : Nat)
    (apart : receiver ≠ sender) :
    moved balance sender receiver value receiver = balance receiver + value := by
  simp [moved, apart]

theorem moved_sender (balance : Address → Nat) {sender receiver : Address} (value : Nat)
    (apart : receiver ≠ sender) :
    moved balance sender receiver value sender = balance sender - value := by
  simp [moved, apart.symm]

theorem le_moved (balance : Address → Nat) {sender account : Address} (receiver : Address)
    (value : Nat) (apart : account ≠ sender) :
    balance account ≤ moved balance sender receiver value account := by
  simp [moved, apart]

/-- What leaves one account arrives at the other. -/
theorem sum_moved (balance : Address → Nat) {sender receiver : Address} {value : Nat}
    (funded : value ≤ balance sender) :
    ∑ account, moved balance sender receiver value account = ∑ account, balance account := by
  have settled : ∀ account, moved balance sender receiver value account +
      (if account = sender then value else 0) =
      balance account + (if account = receiver then value else 0) := by
    intro account
    rw [moved]
    by_cases paying : account = sender
    · subst paying
      simp only [if_true]
      omega
    · simp only [if_neg paying]
      omega
  have sums := Finset.sum_congr rfl fun account (_ : account ∈ Finset.univ) => settled account
  simp only [Finset.sum_add_distrib, Finset.sum_ite_eq', Finset.mem_univ, if_true] at sums
  exact Nat.add_right_cancel sums

structure Balances where
  balances : Address → Nat
  allowances : Address → Address → Nat

/-- The allowance a `transferFrom` leaves; the largest one is never used up. -/
def spendAllowance (allowed value : Nat) : Nat :=
  if allowed = 2 ^ 256 - 1 then allowed else allowed - value

def plainMint (account : Address) (value : Nat) (ledger : Balances) : Option Balances :=
  if account = 0 then none
  else some ⟨fun other => ledger.balances other + (if other = account then value else 0),
    ledger.allowances⟩

def plainTransfer (sender receiver : Address) (value : Nat) (ledger : Balances) :
    Option Balances :=
  if sender ≠ 0 ∧ receiver ≠ 0 ∧ value ≤ ledger.balances sender then
    some ⟨moved ledger.balances sender receiver value, ledger.allowances⟩
  else none

def plainApprove (owner spender : Address) (value : Nat) (ledger : Balances) : Option Balances :=
  if owner = 0 ∨ spender = 0 then none
  else some ⟨ledger.balances, fun other receiver =>
    if other = owner ∧ receiver = spender then value else ledger.allowances other receiver⟩

def plainTransferFrom (spender sender receiver : Address) (value : Nat) (ledger : Balances) :
    Option Balances :=
  if sender ≠ 0 ∧ receiver ≠ 0 ∧ value ≤ ledger.balances sender ∧
      value ≤ ledger.allowances sender spender then
    some ⟨moved ledger.balances sender receiver value, fun owner other =>
      if owner = sender ∧ other = spender then
        spendAllowance (ledger.allowances sender spender) value
      else ledger.allowances owner other⟩
  else none

def plainToken : ERC20 Balances where
  deployed := ⟨fun _ => 0, fun _ _ => 0⟩
  balanceOf ledger := ledger.balances
  allowance ledger := ledger.allowances
  mint := plainMint
  transfer := plainTransfer
  approve := plainApprove
  transferFrom := plainTransferFrom

theorem plainToken_lawful : OpenZeppelin plainToken where
  deployed_balance _ := rfl
  deployed_allowance _ _ := rfl
  mint_receiver success := by
    simp only [plainToken, plainMint, Option.ite_none_left_eq_some] at success
    exact success.1
  mint_balance success _ := by
    simp only [plainToken, plainMint, Option.ite_none_left_eq_some, Option.some.injEq] at success
    rw [← success.2]
    rfl
  mint_allowance success := by
    simp only [plainToken, plainMint, Option.ite_none_left_eq_some, Option.some.injEq] at success
    rw [← success.2]
    rfl
  transfer_iff sender receiver value ledger := by
    simp [plainToken, plainTransfer]
  transfer_balance success := by
    simp only [plainToken, plainTransfer, Option.ite_none_right_eq_some, Option.some.injEq]
      at success
    rw [← success.2]
    rfl
  transfer_allowance success := by
    simp only [plainToken, plainTransfer, Option.ite_none_right_eq_some, Option.some.injEq]
      at success
    rw [← success.2]
    rfl
  approve_balance success := by
    simp only [plainToken, plainApprove, Option.ite_none_left_eq_some, Option.some.injEq]
      at success
    rw [← success.2]
    rfl
  approve_allowance success other receiver apart := by
    simp only [plainToken, plainApprove, Option.ite_none_left_eq_some, Option.some.injEq]
      at success
    rw [← success.2]
    simp [plainToken, apart]
  transferFrom_allowed success := by
    simp only [plainToken, plainTransferFrom, Option.ite_none_right_eq_some] at success
    exact success.1.2.2.2
  transferFrom_funded success := by
    simp only [plainToken, plainTransferFrom, Option.ite_none_right_eq_some] at success
    exact success.1.2.2.1
  transferFrom_balance success := by
    simp only [plainToken, plainTransferFrom, Option.ite_none_right_eq_some, Option.some.injEq]
      at success
    rw [← success.2]
    rfl
  transferFrom_allowance success owner other := by
    simp only [plainToken, plainTransferFrom, Option.ite_none_right_eq_some, Option.some.injEq]
      at success
    rw [← success.2]
    simp only [plainToken, spendAllowance]
    split
    -- Only the allowance of the spender is spent, and not if it is without limit.
    · rename_i same
      rw [same.1, same.2]
      split <;> omega
    · exact Nat.le_refl _

end Chainmail.Solidity
