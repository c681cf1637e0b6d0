import Chainmail.RelayRewards

/-!
When the reward formula can be evaluated. No stake exceeds the supply of the token,
so the products fit; what is left is the divisor, which the owner sets.
-/

namespace Chainmail.DMailToken

open Chainmail.Solidity

variable {Ledger : Type} {token : ERC20 Ledger} {contract : Address} {start : Chain Ledger}

section Supply

def totalSupply (token : ERC20 Ledger) (state : State Ledger) : Nat :=
  ∑ account, token.balanceOf state.ledger account

theorem balance_le_supply (state : State Ledger) (account : Address) :
    token.balanceOf state.ledger account ≤ totalSupply token state := by
  rw [totalSupply, ← Finset.add_sum_erase _ _ (Finset.mem_univ account)]
  exact Nat.le_add_right _ _

theorem supply_deployed (lawful : OpenZeppelin token) (chain : Chain Ledger)
    (deployed : Deployed token contract chain) : totalSupply token chain.state = TOTAL_SUPPLY := by
  obtain ⟨deployer, built⟩ := deployed
  simp only [constructor, Option.bind_eq_bind, Option.bind_eq_some_iff, Option.some.injEq] at built
  obtain ⟨_, _, first, minted, second, locked, done⟩ := built
  have balance : ∀ account, token.balanceOf second account =
      (if account = deployer then TOTAL_SUPPLY - RELAY_REWARDS_POOL else 0) +
        if account = contract then RELAY_REWARDS_POOL else 0 := by
    intro account
    rw [lawful.mint_balance locked, lawful.mint_balance minted, lawful.deployed_balance, Nat.zero_add]
  rw [← done]
  simp only [totalSupply, balance, Finset.sum_add_distrib, Finset.sum_ite_eq', Finset.mem_univ,
    if_true]
  decide

theorem supply_transfer (lawful : OpenZeppelin token) {sender receiver : Address} {value : Nat}
    {before after : State Ledger}
    (paid : token.transfer sender receiver value before.ledger = some after.ledger) :
    totalSupply token after = totalSupply token before := by
  rw [totalSupply, lawful.transfer_balance paid]
  exact sum_moved _ (lawful.transfer_some paid).2.2

theorem supply_execute (lawful : OpenZeppelin token) {sender : Address} {now : Nat}
    {state after : State Ledger} {call : Call}
    (done : execute token contract sender now state call = some after) :
    totalSupply token after = totalSupply token state := by
  cases call with
  | registerRelayNode peerId =>
      obtain ⟨_, _, ledger, paid, rfl⟩ := registerRelayNode_cases done
      exact supply_transfer lawful paid
  | addStake amount =>
      obtain ⟨_, ledger, paid, rfl⟩ := addStake_cases done
      exact supply_transfer lawful paid
  | claimRewards =>
      obtain ⟨_, rewards, _, _, _, ledger, paid, rfl⟩ := claimRewards_cases done
      exact supply_transfer lawful paid
  | deactivateNode =>
      obtain ⟨_, rfl⟩ := deactivateNode_cases done
      rfl
  | withdrawStake =>
      obtain ⟨_, _, ledger, paid, rfl⟩ := withdrawStake_cases done
      exact supply_transfer lawful paid
  | setMinStake newMinStake =>
      obtain ⟨_, rfl⟩ := setMinStake_cases done
      rfl
  | transferOwnership newOwner =>
      rw [transferOwnership_cases done]
      rfl
  | renounceOwnership =>
      rw [renounceOwnership_cases done]
      rfl
  | transfer receiver value =>
      obtain ⟨ledger, paid, rfl⟩ := withLedger_cases done
      exact supply_transfer lawful paid
  | approve spender value =>
      obtain ⟨ledger, approved, rfl⟩ := withLedger_cases done
      rw [totalSupply, lawful.approve_balance approved]
      rfl
  | transferFrom owner receiver value =>
      obtain ⟨ledger, paid, rfl⟩ := withLedger_cases done
      rw [totalSupply, lawful.transferFrom_balance paid]
      exact sum_moved _ (lawful.transferFrom_funded paid)

theorem supply_replay (lawful : OpenZeppelin token) (deployed : Deployed token contract start)
    (past : List Transaction) :
    totalSupply token (replay token contract start past).state = TOTAL_SUPPLY := by
  induction past with
  | nil => exact supply_deployed lawful start deployed
  | cons tx earlier ih =>
      rw [replay, transact]
      cases done : attempt token contract (replay token contract start earlier) tx with
      | none => exact ih
      | some after => exact (supply_execute lawful done).trans ih

/-- A stake is part of what the contract holds. -/
theorem stake_le_supply (lawful : OpenZeppelin token) (history : History token contract)
    (wallet : Address) : (history.chain.state.relayNodes wallet).stakedAmount ≤ TOTAL_SUPPLY := by
  have solvent := solvent_replay lawful history.deployed history.sent
  calc (history.chain.state.relayNodes wallet).stakedAmount
      ≤ totalStake history.chain.state := stake_le_total wallet _
    _ ≤ token.balanceOf history.chain.state.ledger contract :=
        (Nat.le_add_right _ _).trans solvent.backed
    _ ≤ totalSupply token history.chain.state := balance_le_supply _ contract
    _ = TOTAL_SUPPLY := supply_replay lawful history.deployed history.past

end Supply

section Formula

/-- The divisor of the stake multiplier is not zero and fits. -/
def MinStakeFits (minStake : Nat) : Prop := 0 < minStake ∧ minStake * 10 < 2 ^ 256

instance (minStake : Nat) : Decidable (MinStakeFits minStake) :=
  inferInstanceAs (Decidable (_ ∧ _))

theorem stakeMultiplier_isSome_iff {stakedAmount minStake : Nat} (small : stakedAmount ≤ TOTAL_SUPPLY) :
    (stakeMultiplier stakedAmount minStake).isSome ↔ MinStakeFits minStake := by
  have supply : TOTAL_SUPPLY * 100 + 100 < 2 ^ 256 := by decide
  have scaled : stakedAmount * 100 ≤ TOTAL_SUPPLY * 100 := Nat.mul_le_mul_right _ small
  have product : mul stakedAmount 100 = some (stakedAmount * 100) := if_pos (by omega)
  simp only [stakeMultiplier, product, Option.bind_eq_bind, Option.bind_some]
  by_cases fits : minStake * 10 < 2 ^ 256
  · have divisor : mul minStake 10 = some (minStake * 10) := if_pos fits
    rw [divisor, Option.bind_some]
    by_cases zero : minStake = 0
    · simp [zero, div, MinStakeFits]
    · have quotient : div (stakedAmount * 100) (minStake * 10) =
          some (stakedAmount * 100 / (minStake * 10)) := if_neg (by omega)
      have bonus : stakedAmount * 100 / (minStake * 10) ≤ stakedAmount * 100 := Nat.div_le_self _ _
      rw [quotient, Option.bind_some, add_fits (by omega)]
      simp only [Option.bind_some, Option.isSome_some, MinStakeFits, true_iff]
      exact ⟨Nat.pos_of_ne_zero zero, fits⟩
  · have overflow : mul minStake 10 = none := if_neg fits
    simp only [overflow, Option.bind_none, Option.isSome_none, Bool.false_eq_true, false_iff]
    exact fun within => fits within.2

/-- The rewards of every wallet, and what `getNodeInfo` tells about it, can be asked for
    at every later time of 64 bits. -/
def RewardsComputable (chain : Chain Ledger) : Prop :=
  ∀ wallet now, chain.now ≤ now → now < 2 ^ 64 →
    (calculateRewards wallet now chain.state).isSome ∧
      (getNodeInfo wallet now chain.state).isSome

/-- While a node is active and there are later times, the minimum stake is one that the formula can divide by. -/
def DivisorFits (chain : Chain Ledger) : Prop :=
  chain.now < 2 ^ 64 → (∃ wallet, (chain.state.relayNodes wallet).isActive = true) →
    MinStakeFits chain.state.minStake

theorem getNodeInfo_isSome (wallet : Address) (now : Nat) (state : State Ledger) :
    (getNodeInfo wallet now state).isSome = (calculateRewards wallet now state).isSome := by
  cases owed : calculateRewards wallet now state <;> simp [getNodeInfo, owed]

theorem calculateRewards_isSome_iff {chain : Chain Ledger} (enrolled : Enrolled chain)
    {wallet : Address} (active : (chain.state.relayNodes wallet).isActive = true)
    (small : (chain.state.relayNodes wallet).stakedAmount ≤ TOTAL_SUPPLY) {now : Nat}
    (later : chain.now ≤ now) (short : now < 2 ^ 64) :
    (calculateRewards wallet now chain.state).isSome ↔ MinStakeFits chain.state.minStake := by
  have counted := activeNodes_pos enrolled active
  rw [← stakeMultiplier_isSome_iff small, Option.isSome_iff_exists, Option.isSome_iff_exists]
  simp only [calculateRewards_some_iff active counted]
  constructor
  · rintro ⟨_, multiplier, computed, _⟩
    exact ⟨multiplier, computed⟩
  · rintro ⟨multiplier, computed⟩
    have capped := stakeMultiplier_le computed
    have rate : rewardPerSecond ≤ 2 ^ 61 := by decide
    have share : rewardPerSecond / getActiveNodeCount chain.state ≤ 2 ^ 61 :=
      (Nat.div_le_self _ _).trans rate
    have elapsed : now - (chain.state.relayNodes wallet).lastClaimTime ≤ 2 ^ 64 :=
      (Nat.sub_le _ _).trans short.le
    have product := Nat.mul_le_mul share elapsed
    have scaled := Nat.mul_le_mul product capped
    refine ⟨_, multiplier, computed, (enrolled.claimed wallet).trans later, ?_, ?_, rfl⟩
    · exact product.trans_lt (by decide)
    · exact scaled.trans_lt (by decide)

end Formula

section Run
variable (token : ERC20 Ledger) (contract : Address) (start : Chain Ledger)

/-- The owner sets no minimum stake that the formula cannot divide by. -/
def SetsFitting (tx : Transaction) (earlier : List Transaction) : Prop :=
  ∀ newMinStake, tx.call = .setMinStake newMinStake →
    tx.sender = (replay token contract start earlier).state.owner → MinStakeFits newMinStake.val

variable {token contract start}

theorem minStake_execute {sender : Address} {now : Nat} {state after : State Ledger} {call : Call}
    (done : execute token contract sender now state call = some after) :
    after.minStake = state.minStake ∨ ∃ newMinStake, call = .setMinStake newMinStake ∧
      sender = state.owner ∧ after.minStake = newMinStake.val := by
  cases call with
  | registerRelayNode peerId =>
      obtain ⟨_, _, ledger, _, rfl⟩ := registerRelayNode_cases done
      exact .inl rfl
  | addStake amount =>
      obtain ⟨_, ledger, _, rfl⟩ := addStake_cases done
      exact .inl rfl
  | claimRewards =>
      obtain ⟨_, rewards, _, _, _, ledger, _, rfl⟩ := claimRewards_cases done
      exact .inl rfl
  | deactivateNode =>
      obtain ⟨_, rfl⟩ := deactivateNode_cases done
      exact .inl rfl
  | withdrawStake =>
      obtain ⟨_, _, ledger, _, rfl⟩ := withdrawStake_cases done
      exact .inl rfl
  | setMinStake newMinStake =>
      obtain ⟨owner, rfl⟩ := setMinStake_cases done
      exact .inr ⟨newMinStake, rfl, owner, rfl⟩
  | transferOwnership newOwner =>
      rw [transferOwnership_cases done]
      exact .inl rfl
  | renounceOwnership =>
      rw [renounceOwnership_cases done]
      exact .inl rfl
  | transfer receiver value =>
      obtain ⟨ledger, _, rfl⟩ := withLedger_cases done
      exact .inl rfl
  | approve spender value =>
      obtain ⟨ledger, _, rfl⟩ := withLedger_cases done
      exact .inl rfl
  | transferFrom owner receiver value =>
      obtain ⟨ledger, _, rfl⟩ := withLedger_cases done
      exact .inl rfl

theorem minStake_deployed (deployed : Deployed token contract start) :
    start.state.minStake = 10_000 * 10 ^ 18 := by
  obtain ⟨deployer, built⟩ := deployed
  simp only [constructor, Option.bind_eq_bind, Option.bind_eq_some_iff, Option.some.injEq] at built
  obtain ⟨_, _, _, _, _, _, done⟩ := built
  rw [← done]

theorem minStake_replay (deployed : Deployed token contract start) {past : List Transaction}
    (fitting : EachInput (SetsFitting token contract start) past) :
    MinStakeFits (replay token contract start past).state.minStake := by
  induction past with
  | nil =>
      rw [replay, minStake_deployed deployed]
      decide
  | cons tx earlier ih =>
      obtain ⟨own, before⟩ := eachInput_cons.mp fitting
      rw [replay, transact]
      cases done : attempt token contract (replay token contract start earlier) tx with
      | none => exact ih before
      | some after =>
          rcases minStake_execute done with same | ⟨newMinStake, called, owner, set⟩
          · rw [Option.getD_some, same]
            exact ih before
          · rw [Option.getD_some, set]
            exact own newMinStake called owner

/-- In every reachable state the rewards of all wallets can be asked for at all later times
    of 64 bits exactly when the formula can divide by the minimum stake, or no node is
    active; and in every run in which the owner sets only such minimum stakes, they can. -/
theorem rewards_computable_iff (lawful : OpenZeppelin token) (history : History token contract) :
    (RewardsComputable history.chain ↔ DivisorFits history.chain) ∧
      (EachInput (SetsFitting token contract history.start) history.past →
        RewardsComputable history.chain) := by
  have enrolled : Enrolled history.chain := enrolled_replay lawful history.deployed history.sent
  have small := stake_le_supply lawful history
  have computable : RewardsComputable history.chain ↔ DivisorFits history.chain := by
    constructor
    · rintro evaluates short ⟨wallet, active⟩
      apply (calculateRewards_isSome_iff enrolled active (small wallet) (Nat.le_refl _) short).mp
      exact (evaluates wallet history.chain.now (Nat.le_refl _) short).1
    · intro fits wallet now later short
      rw [getNodeInfo_isSome, and_self]
      by_cases active : (history.chain.state.relayNodes wallet).isActive = true
      · apply (calculateRewards_isSome_iff enrolled active (small wallet) later short).mpr
        exact fits (later.trans_lt short) ⟨wallet, active⟩
      · rw [calculateRewards, if_pos (by simpa using active)]
        rfl
  refine ⟨computable, fun fitting => computable.mpr fun _ _ => ?_⟩
  exact minStake_replay history.deployed fitting

/-! The deployer of the contract at address 1 runs a relay node, and then sets the minimum
stake to nothing, or to half of it. -/

theorem restake_later : 200 ≤ 300 := by decide

theorem deployer_ne_token : (2 : Address) ≠ 1 := by decide

def restake (newMinStake : Uint256) : History plainToken 1 :=
  (enlist 7).send ⟨2, 300, .setMinStake newMinStake⟩ restake_later deployer_ne_token

theorem halved_computable :
    (RewardsComputable (restake 5_000_000_000_000_000_000_000).chain ↔
        DivisorFits (restake 5_000_000_000_000_000_000_000).chain) ∧
      (EachInput (SetsFitting plainToken 1 launched) (restake 5_000_000_000_000_000_000_000).past →
        RewardsComputable (restake 5_000_000_000_000_000_000_000).chain) :=
  rewards_computable_iff plainToken_lawful (restake 5_000_000_000_000_000_000_000)

theorem zero_stake_freezes_rewards : ¬ RewardsComputable (restake 0).chain := by
  intro evaluates
  have frozen : calculateRewards 2 400 (restake 0).chain.state = none := by decide +kernel
  have answered := (evaluates 2 400 (by decide) (by decide)).1
  rw [frozen] at answered
  cases answered

end Run
end Chainmail.DMailToken
