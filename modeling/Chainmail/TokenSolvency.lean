import Chainmail.TokenSteps
import Chainmail.Runs

/-!
The contract's own token balance covers every stake and what is left of the
reward pool, in every reachable state. Stakes and rewards are paid from one
balance, so the invariant is one sum over all wallets.
-/

namespace Chainmail.DMailToken

open Chainmail.Solidity

variable {Ledger : Type} {token : ERC20 Ledger} {contract : Address}

def totalStake (state : State Ledger) : Nat :=
  ∑ wallet, (state.relayNodes wallet).stakedAmount

theorem totalStake_setNode (wallet : Address) (node : RelayNode) (state : State Ledger) :
    totalStake (setNode wallet node state) + (state.relayNodes wallet).stakedAmount =
      totalStake state + node.stakedAmount :=
  sum_update RelayNode.stakedAmount state.relayNodes wallet node

theorem stake_le_total (wallet : Address) (state : State Ledger) :
    (state.relayNodes wallet).stakedAmount ≤ totalStake state := by
  have split := Finset.add_sum_erase Finset.univ
    (fun wallet => (state.relayNodes wallet).stakedAmount) (Finset.mem_univ wallet)
  rw [totalStake, ← split]
  exact Nat.le_add_right _ _

structure Solvent (token : ERC20 Ledger) (contract : Address) (state : State Ledger) : Prop where
  deployed : contract ≠ 0
  backed : totalStake state + (RELAY_REWARDS_POOL - state.relayRewardsDistributed) ≤
    token.balanceOf state.ledger contract
  capped : state.relayRewardsDistributed ≤ RELAY_REWARDS_POOL
  unspendable : ∀ spender, token.allowance state.ledger contract spender = 0
  claimed : ∀ wallet, (state.relayNodes wallet).totalRewardsClaimed ≤ state.relayRewardsDistributed
  someone : ∀ wallet, (state.relayNodes wallet).isActive = true ∨
    0 < (state.relayNodes wallet).stakedAmount → wallet ≠ 0

section Steps
variable {sender : Address} {now : Nat} {state after : State Ledger}

theorem someone_update {nodes : Address → RelayNode} {node : RelayNode}
    (someone : ∀ wallet, (nodes wallet).isActive = true ∨ 0 < (nodes wallet).stakedAmount →
      wallet ≠ 0) (sent : sender ≠ 0) (wallet : Address) :
    (Function.update nodes sender node wallet).isActive = true ∨
      0 < (Function.update nodes sender node wallet).stakedAmount → wallet ≠ 0 := by
  by_cases same : wallet = sender
  · intro _
    rw [same]
    exact sent
  · rw [Function.update_of_ne same]
    exact someone wallet

theorem claimed_update {nodes : Address → RelayNode} {node : RelayNode} {before distributed : Nat}
    (claimed : ∀ wallet, (nodes wallet).totalRewardsClaimed ≤ before)
    (more : before ≤ distributed) (own : node.totalRewardsClaimed ≤ distributed)
    (wallet : Address) :
    (Function.update nodes sender node wallet).totalRewardsClaimed ≤ distributed := by
  by_cases same : wallet = sender
  · rw [same, Function.update_self]
    exact own
  · rw [Function.update_of_ne same]
    exact (claimed wallet).trans more

/-- One node is replaced, and the balance moves by at least what its stake and the rewards do. -/
theorem Solvent.replaceNode (solvent : Solvent token contract state) {node : RelayNode}
    (replaced : after.relayNodes = Function.update state.relayNodes sender node)
    (covered : totalStake state + node.stakedAmount +
        (RELAY_REWARDS_POOL - after.relayRewardsDistributed) ≤
      token.balanceOf after.ledger contract + (state.relayNodes sender).stakedAmount)
    (more : state.relayRewardsDistributed ≤ after.relayRewardsDistributed)
    (capped : after.relayRewardsDistributed ≤ RELAY_REWARDS_POOL)
    (own : node.totalRewardsClaimed ≤ after.relayRewardsDistributed)
    (unspendable : ∀ spender, token.allowance after.ledger contract spender = 0)
    (sent : sender ≠ 0) : Solvent token contract after := by
  have total := totalStake_setNode sender node state
  have same : totalStake after = totalStake (setNode sender node state) := by
    rw [totalStake, replaced]
    rfl
  constructor
  case deployed => exact solvent.deployed
  case backed =>
    rw [same]
    omega
  case capped => exact capped
  case unspendable => exact unspendable
  case claimed =>
    rw [replaced]
    exact claimed_update solvent.claimed more own
  case someone =>
    rw [replaced]
    exact someone_update solvent.someone sent

theorem Solvent.registerRelayNode (lawful : OpenZeppelin token) (solvent : Solvent token contract state)
    (external : sender ≠ contract) {peerId : Bytes32}
    (success : registerRelayNode token contract peerId sender now state = some after) :
    Solvent token contract after := by
  obtain ⟨_, _, ledger, paid, rfl⟩ := registerRelayNode_cases success
  have funded := lawful.transfer_some paid
  have received : token.balanceOf ledger contract =
      token.balanceOf state.ledger contract + state.minStake := by
    rw [lawful.transfer_balance paid, moved_receiver _ _ external.symm]
  have backed := solvent.backed
  refine solvent.replaceNode rfl ?_ (Nat.le_refl _) solvent.capped (Nat.zero_le _) ?_ funded.1
  -- A wallet that registers again loses its old record: only the total shrinks by that stake.
  · rw [received]
    simp only [setNode]
    omega
  · rw [lawful.transfer_allowance paid]
    exact solvent.unspendable

theorem Solvent.addStake (lawful : OpenZeppelin token) (solvent : Solvent token contract state)
    (external : sender ≠ contract) {amount : Uint256}
    (success : addStake token contract amount sender state = some after) :
    Solvent token contract after := by
  obtain ⟨_, ledger, paid, rfl⟩ := addStake_cases success
  have funded := lawful.transfer_some paid
  have received : token.balanceOf ledger contract =
      token.balanceOf state.ledger contract + amount.val := by
    rw [lawful.transfer_balance paid, moved_receiver _ _ external.symm]
  have backed := solvent.backed
  refine solvent.replaceNode rfl ?_ (Nat.le_refl _) solvent.capped (solvent.claimed sender) ?_ funded.1
  · rw [received]
    simp only [setNode]
    omega
  · rw [lawful.transfer_allowance paid]
    exact solvent.unspendable

theorem Solvent.claimRewards (lawful : OpenZeppelin token) (solvent : Solvent token contract state)
    (external : sender ≠ contract)
    (success : claimRewards token contract sender now state = some after) :
    Solvent token contract after := by
  obtain ⟨_, rewards, _, _, capped, ledger, paid, rfl⟩ := claimRewards_cases success
  have funded := lawful.transfer_some paid
  have spent : token.balanceOf ledger contract = token.balanceOf state.ledger contract - rewards := by
    rw [lawful.transfer_balance paid, moved_sender _ _ external]
  have backed := solvent.backed
  refine solvent.replaceNode rfl ?_ (Nat.le_add_right _ _) capped ?_ ?_ funded.2.1
  · rw [spent]
    dsimp only
    omega
  · exact Nat.add_le_add_right (solvent.claimed sender) rewards
  · rw [lawful.transfer_allowance paid]
    exact solvent.unspendable

theorem Solvent.deactivateNode (solvent : Solvent token contract state)
    (success : deactivateNode sender state = some after) : Solvent token contract after := by
  obtain ⟨active, rfl⟩ := deactivateNode_cases success
  have backed := solvent.backed
  refine solvent.replaceNode rfl ?_ (Nat.le_refl _) solvent.capped (solvent.claimed sender)
    solvent.unspendable (solvent.someone sender (Or.inl active))
  dsimp only [setNode]
  omega

theorem Solvent.withdrawStake (lawful : OpenZeppelin token) (solvent : Solvent token contract state)
    (external : sender ≠ contract)
    (success : withdrawStake token contract sender state = some after) :
    Solvent token contract after := by
  obtain ⟨_, positive, ledger, paid, rfl⟩ := withdrawStake_cases success
  have spent : token.balanceOf ledger contract =
      token.balanceOf state.ledger contract - (state.relayNodes sender).stakedAmount := by
    rw [lawful.transfer_balance paid, moved_sender _ _ external]
  have held := stake_le_total sender state
  have backed := solvent.backed
  refine solvent.replaceNode rfl ?_ (Nat.le_refl _) solvent.capped (solvent.claimed sender) ?_
    (solvent.someone sender (Or.inr positive))
  · rw [spent]
    simp only [setNode]
    omega
  · rw [lawful.transfer_allowance paid]
    exact solvent.unspendable

/-- A call on the token alone, which may only add to the contract's balance. -/
theorem Solvent.withLedger (solvent : Solvent token contract state) {ledger : Ledger}
    (grown : token.balanceOf state.ledger contract ≤ token.balanceOf ledger contract)
    (allowed : ∀ spender, token.allowance ledger contract spender = 0) :
    Solvent token contract { state with ledger := ledger } where
  deployed := solvent.deployed
  backed := solvent.backed.trans grown
  capped := solvent.capped
  unspendable := allowed
  claimed := solvent.claimed
  someone := solvent.someone

theorem Solvent.execute (lawful : OpenZeppelin token) (solvent : Solvent token contract state)
    (external : sender ≠ contract) (call : Call)
    (success : execute token contract sender now state call = some after) :
    Solvent token contract after := by
  cases call with
  | registerRelayNode peerId => exact solvent.registerRelayNode lawful external success
  | addStake amount => exact solvent.addStake lawful external success
  | claimRewards => exact solvent.claimRewards lawful external success
  | deactivateNode => exact solvent.deactivateNode success
  | withdrawStake => exact solvent.withdrawStake lawful external success
  | setMinStake newMinStake =>
      obtain ⟨_, rfl⟩ := setMinStake_cases success
      exact ⟨solvent.deployed, solvent.backed, solvent.capped, solvent.unspendable,
        solvent.claimed, solvent.someone⟩
  | transferOwnership newOwner =>
      rw [transferOwnership_cases success]
      exact ⟨solvent.deployed, solvent.backed, solvent.capped, solvent.unspendable,
        solvent.claimed, solvent.someone⟩
  | renounceOwnership =>
      rw [renounceOwnership_cases success]
      exact ⟨solvent.deployed, solvent.backed, solvent.capped, solvent.unspendable,
        solvent.claimed, solvent.someone⟩
  | transfer receiver value =>
      obtain ⟨ledger, paid, rfl⟩ := withLedger_cases success
      refine solvent.withLedger ?_ ?_
      · rw [lawful.transfer_balance paid]
        exact le_moved _ _ _ external.symm
      · rw [lawful.transfer_allowance paid]
        exact solvent.unspendable
  | approve spender value =>
      obtain ⟨ledger, approved, rfl⟩ := withLedger_cases success
      refine solvent.withLedger ?_ ?_
      · rw [lawful.approve_balance approved]
      · intro other
        rw [lawful.approve_allowance approved contract other external.symm]
        exact solvent.unspendable other
  | transferFrom owner receiver value =>
      obtain ⟨ledger, paid, rfl⟩ := withLedger_cases success
      refine solvent.withLedger ?_ ?_
      · rw [lawful.transferFrom_balance paid]
        by_cases own : contract = owner
        · -- Nobody may spend for the contract, so the amount is nothing.
          subst own
          have allowed := lawful.transferFrom_allowed paid
          rw [solvent.unspendable] at allowed
          obtain zero : value.val = 0 := Nat.le_zero.mp allowed
          simp [moved, zero]
        · exact le_moved _ _ _ own
      · intro other
        have kept := lawful.transferFrom_allowance paid contract other
        rw [solvent.unspendable] at kept
        exact Nat.le_zero.mp kept

end Steps

theorem solvent_deployed (lawful : OpenZeppelin token) (chain : Chain Ledger)
    (deployed : Deployed token contract chain) : Solvent token contract chain.state := by
  obtain ⟨deployer, built⟩ := deployed
  simp only [constructor, Option.bind_eq_bind, Option.bind_eq_some_iff, Option.some.injEq] at built
  obtain ⟨_, _, first, minted, second, locked, done⟩ := built
  rw [← done]
  constructor
  case deployed => exact lawful.mint_receiver locked
  case backed =>
    have balance := lawful.mint_balance locked contract
    rw [if_pos rfl] at balance
    simp only [totalStake, unregistered, Finset.sum_const_zero, balance]
    omega
  case capped => exact Nat.zero_le _
  case unspendable =>
    intro spender
    rw [lawful.mint_allowance locked, lawful.mint_allowance minted]
    exact lawful.deployed_allowance contract spender
  case claimed => exact fun _ => Nat.le_refl _
  case someone =>
    intro wallet present
    simp [unregistered] at present

theorem solvent_reachable (lawful : OpenZeppelin token) (chain : Chain Ledger)
    (reached : Reachable (Deployed token contract) (Step token contract) chain) :
    Solvent token contract chain.state := by
  refine reached.invariant (solvent_deployed lawful) ?_
  intro before after solvent step
  obtain ⟨sender, now, call, _, external⟩ := step
  cases done : execute token contract sender now before.state call with
  | none => exact solvent
  | some state => exact solvent.execute lawful external call done

/-- The pay-outs the invariant covers go through: an inactive node gets its
    stake back, and an active one gets the rewards the pool still admits. -/
theorem withdrawStake_succeeds (lawful : OpenZeppelin token) {state : State Ledger}
    (solvent : Solvent token contract state) (wallet : Address)
    (inactive : (state.relayNodes wallet).isActive = false)
    (staked : 0 < (state.relayNodes wallet).stakedAmount) :
    (withdrawStake token contract wallet state).isSome := by
  have funded : (state.relayNodes wallet).stakedAmount ≤
      token.balanceOf state.ledger contract := by
    have total := stake_le_total wallet state
    have backed := solvent.backed
    omega
  have paid := (lawful.transfer_iff contract wallet _ state.ledger).mpr
    ⟨solvent.deployed, solvent.someone wallet (Or.inr staked), funded⟩
  obtain ⟨ledger, paid⟩ := Option.isSome_iff_exists.mp paid
  simp [withdrawStake, require_pos inactive, require_pos staked, paid]

theorem claimRewards_succeeds (lawful : OpenZeppelin token) {state : State Ledger}
    (solvent : Solvent token contract state) (wallet : Address) (now rewards : Nat)
    (active : (state.relayNodes wallet).isActive = true)
    (owed : calculateRewards wallet now state = some rewards) (positive : 0 < rewards)
    (admitted : state.relayRewardsDistributed + rewards ≤ RELAY_REWARDS_POOL) :
    (claimRewards token contract wallet now state).isSome := by
  have funded : rewards ≤ token.balanceOf state.ledger contract := by
    have backed := solvent.backed
    omega
  have paid := (lawful.transfer_iff contract wallet _ state.ledger).mpr
    ⟨solvent.deployed, solvent.someone wallet (Or.inl active), funded⟩
  obtain ⟨ledger, paid⟩ := Option.isSome_iff_exists.mp paid
  have small : RELAY_REWARDS_POOL < 2 ^ 256 := by decide
  have claimed := solvent.claimed wallet
  have distributed : add state.relayRewardsDistributed rewards =
      some (state.relayRewardsDistributed + rewards) := add_fits (by omega)
  have total : add (state.relayNodes wallet).totalRewardsClaimed rewards =
      some ((state.relayNodes wallet).totalRewardsClaimed + rewards) := add_fits (by omega)
  simp [claimRewards, require_pos active, owed, require_pos positive, distributed,
    require_pos admitted, total, paid]

/-- What the contract's balance is good for. -/
structure PaysOut (token : ERC20 Ledger) (contract : Address) (state : State Ledger) : Prop where
  backed : (∑ wallet, (state.relayNodes wallet).stakedAmount) +
    (RELAY_REWARDS_POOL - state.relayRewardsDistributed) ≤ token.balanceOf state.ledger contract
  capped : state.relayRewardsDistributed ≤ RELAY_REWARDS_POOL
  withdrawals : ∀ wallet, (state.relayNodes wallet).isActive = false →
    0 < (state.relayNodes wallet).stakedAmount →
    (withdrawStake token contract wallet state).isSome
  claims : ∀ wallet now rewards, (state.relayNodes wallet).isActive = true →
    calculateRewards wallet now state = some rewards → 0 < rewards →
    state.relayRewardsDistributed + rewards ≤ RELAY_REWARDS_POOL →
    (claimRewards token contract wallet now state).isSome

/-- In every reachable state the contract holds all stakes and what is left of
    the reward pool, so no withdrawal and no admissible claim lacks funds. -/
theorem contract_stays_solvent (lawful : OpenZeppelin token) (chain : Chain Ledger)
    (reached : Reachable (Deployed token contract) (Step token contract) chain) :
    PaysOut token contract chain.state := by
  have solvent := solvent_reachable lawful chain reached
  constructor
  · exact solvent.backed
  · exact solvent.capped
  · exact withdrawStake_succeeds lawful solvent
  · exact claimRewards_succeeds lawful solvent

/-! The deployer of the contract at address 1 registers a relay node. -/

def launched : Chain Balances :=
  ⟨(constructor plainToken 1 2 100).get (by decide +kernel), 100⟩

def staking : Chain Balances :=
  ⟨(execute plainToken 1 2 200 launched.state (.registerRelayNode 7)).getD launched.state, 200⟩

theorem staking_reachable :
    Reachable (Deployed plainToken 1) (Step plainToken 1) staking := by
  have deployed : Deployed plainToken 1 launched := ⟨2, (Option.some_get (by decide +kernel)).symm⟩
  exact .next (.start deployed)
    (.call launched 2 200 (.registerRelayNode 7) (by decide) (by decide +kernel))

theorem staking_stays_solvent :
    (staking.state.relayNodes 2).stakedAmount = 10_000 * 10 ^ 18 ∧
      PaysOut plainToken 1 staking.state :=
  ⟨by decide +kernel, contract_stays_solvent plainToken_lawful staking staking_reachable⟩

end Chainmail.DMailToken
