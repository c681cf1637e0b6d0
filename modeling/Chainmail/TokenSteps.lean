import Chainmail.DMailToken

/-!
What each call of the token contract does when it does not revert: the guards
it passed, the transfer it made and the state it left.
-/

namespace Chainmail.DMailToken

open Chainmail.Solidity

variable {Ledger : Type} {token : ERC20 Ledger} {contract : Address}
  {sender : Address} {now : Nat} {state after : State Ledger}

theorem registerRelayNode_cases {peerId : Bytes32}
    (success : registerRelayNode token contract peerId sender now state = some after) :
    (state.relayNodes sender).peerId = 0 ∧ state.peerIdToWallet peerId = 0 ∧
      ∃ ledger, token.transfer sender contract state.minStake state.ledger = some ledger ∧
        after = { setNode sender ⟨peerId, state.minStake, now, now, 0, true⟩ state with
          ledger := ledger
          peerIdToWallet := Function.update state.peerIdToWallet peerId sender
          registeredNodes := state.registeredNodes ++ [sender] } := by
  simp only [registerRelayNode, Option.bind_eq_bind, Option.bind_eq_some_iff,
    Option.some.injEq] at success
  obtain ⟨_, fresh, _, unclaimed, _, _, ledger, paid, done⟩ := success
  exact ⟨require_some fresh, require_some unclaimed, ledger, paid, done.symm⟩

theorem addStake_cases {amount : Uint256}
    (success : addStake token contract amount sender state = some after) :
    (state.relayNodes sender).isActive = true ∧
      ∃ ledger, token.transfer sender contract amount.val state.ledger = some ledger ∧
        after = { setNode sender { state.relayNodes sender with
          stakedAmount := (state.relayNodes sender).stakedAmount + amount.val } state with
          ledger := ledger } := by
  simp only [addStake, Option.bind_eq_bind, Option.bind_eq_some_iff, Option.some.injEq] at success
  obtain ⟨_, active, _, _, ledger, paid, staked, sum, done⟩ := success
  rw [add_some sum] at done
  exact ⟨require_some active, ledger, paid, done.symm⟩

theorem claimRewards_cases (success : claimRewards token contract sender now state = some after) :
    (state.relayNodes sender).isActive = true ∧ ∃ rewards,
      calculateRewards sender now state = some rewards ∧ 0 < rewards ∧
      state.relayRewardsDistributed + rewards ≤ RELAY_REWARDS_POOL ∧
      ∃ ledger, token.transfer contract sender rewards state.ledger = some ledger ∧
        after = { setNode sender { state.relayNodes sender with
          lastClaimTime := now
          totalRewardsClaimed := (state.relayNodes sender).totalRewardsClaimed + rewards } state with
          ledger := ledger
          relayRewardsDistributed := state.relayRewardsDistributed + rewards } := by
  simp only [claimRewards, Option.bind_eq_bind, Option.bind_eq_some_iff, Option.some.injEq]
    at success
  obtain ⟨_, active, rewards, owed, _, positive, distributed, sum, _, capped, claimed, total,
    ledger, paid, done⟩ := success
  have capped := require_some capped
  rw [add_some sum] at done capped
  rw [add_some total] at done
  exact ⟨require_some active, rewards, owed, require_some positive, capped, ledger, paid, done.symm⟩

theorem deactivateNode_cases (success : deactivateNode sender state = some after) :
    (state.relayNodes sender).isActive = true ∧
      after = setNode sender { state.relayNodes sender with isActive := false } state := by
  simp only [deactivateNode, Option.bind_eq_bind, Option.bind_eq_some_iff, Option.some.injEq]
    at success
  obtain ⟨_, active, done⟩ := success
  exact ⟨require_some active, done.symm⟩

theorem withdrawStake_cases (success : withdrawStake token contract sender state = some after) :
    (state.relayNodes sender).isActive = false ∧ 0 < (state.relayNodes sender).stakedAmount ∧
      ∃ ledger, token.transfer contract sender (state.relayNodes sender).stakedAmount state.ledger =
          some ledger ∧
        after = { setNode sender { state.relayNodes sender with stakedAmount := 0 } state with
          ledger := ledger } := by
  simp only [withdrawStake, Option.bind_eq_bind, Option.bind_eq_some_iff, Option.some.injEq]
    at success
  obtain ⟨_, inactive, _, positive, ledger, paid, done⟩ := success
  exact ⟨require_some inactive, require_some positive, ledger, paid, done.symm⟩

theorem setMinStake_cases {newMinStake : Uint256}
    (success : setMinStake newMinStake sender state = some after) :
    sender = state.owner ∧ after = { state with minStake := newMinStake.val } := by
  simp only [setMinStake, Option.bind_eq_bind, Option.bind_eq_some_iff, Option.some.injEq]
    at success
  obtain ⟨_, owner, done⟩ := success
  exact ⟨require_some owner, done.symm⟩

theorem transferOwnership_cases {newOwner : Address}
    (success : transferOwnership newOwner sender state = some after) :
    after = { state with owner := newOwner } := by
  simp only [transferOwnership, Option.bind_eq_bind, Option.bind_eq_some_iff, Option.some.injEq]
    at success
  obtain ⟨_, _, _, _, done⟩ := success
  exact done.symm

theorem renounceOwnership_cases (success : renounceOwnership sender state = some after) :
    after = { state with owner := 0 } := by
  simp only [renounceOwnership, Option.bind_eq_bind, Option.bind_eq_some_iff, Option.some.injEq]
    at success
  obtain ⟨_, _, done⟩ := success
  exact done.symm

theorem withLedger_cases {ledger : Option Ledger} (success : withLedger state ledger = some after) :
    ∃ now, ledger = some now ∧ after = { state with ledger := now } := by
  obtain ⟨now, held, done⟩ := Option.map_eq_some_iff.mp success
  exact ⟨now, held, done.symm⟩

/-- The calls that may change a relay node. -/
def Call.node : Call → Bool
  | .registerRelayNode _ | .addStake _ | .claimRewards | .deactivateNode | .withdrawStake => true
  | _ => false

/-- The relay nodes, what is kept about them and what they were paid are the same. -/
structure SameNodes (before after : State Ledger) : Prop where
  relayNodes : after.relayNodes = before.relayNodes
  peerIdToWallet : after.peerIdToWallet = before.peerIdToWallet
  registeredNodes : after.registeredNodes = before.registeredNodes
  distributed : after.relayRewardsDistributed = before.relayRewardsDistributed
  started : after.rewardStartTime = before.rewardStartTime

/-- What a call may do that goes through. -/
inductive Executed (token : ERC20 Ledger) (contract sender : Address) (now : Nat)
    (state : State Ledger) : Call → State Ledger → Prop
  | registered {peerId : Bytes32} {ledger : Ledger}
      (fresh : (state.relayNodes sender).peerId = 0)
      (unclaimed : state.peerIdToWallet peerId = 0)
      (paid : token.transfer sender contract state.minStake state.ledger = some ledger) :
      Executed token contract sender now state (.registerRelayNode peerId)
        { setNode sender ⟨peerId, state.minStake, now, now, 0, true⟩ state with
          ledger := ledger
          peerIdToWallet := Function.update state.peerIdToWallet peerId sender
          registeredNodes := state.registeredNodes ++ [sender] }
  | staked {amount : Uint256} {ledger : Ledger}
      (active : (state.relayNodes sender).isActive = true)
      (paid : token.transfer sender contract amount.val state.ledger = some ledger) :
      Executed token contract sender now state (.addStake amount)
        { setNode sender { state.relayNodes sender with
          stakedAmount := (state.relayNodes sender).stakedAmount + amount.val } state with
          ledger := ledger }
  | claimed {rewards : Nat} {ledger : Ledger}
      (active : (state.relayNodes sender).isActive = true)
      (owed : calculateRewards sender now state = some rewards)
      (paid : token.transfer contract sender rewards state.ledger = some ledger) :
      Executed token contract sender now state .claimRewards
        { setNode sender { state.relayNodes sender with
          lastClaimTime := now
          totalRewardsClaimed := (state.relayNodes sender).totalRewardsClaimed + rewards } state with
          ledger := ledger
          relayRewardsDistributed := state.relayRewardsDistributed + rewards }
  | deactivated (active : (state.relayNodes sender).isActive = true) :
      Executed token contract sender now state .deactivateNode
        (setNode sender { state.relayNodes sender with isActive := false } state)
  | withdrawn {ledger : Ledger}
      (inactive : (state.relayNodes sender).isActive = false)
      (positive : 0 < (state.relayNodes sender).stakedAmount)
      (paid : token.transfer contract sender (state.relayNodes sender).stakedAmount state.ledger =
        some ledger) :
      Executed token contract sender now state .withdrawStake
        { setNode sender { state.relayNodes sender with stakedAmount := 0 } state with
          ledger := ledger }
  | aside {call : Call} {after : State Ledger} (plain : call.node = false)
      (same : SameNodes state after) : Executed token contract sender now state call after

theorem execute_some {call : Call}
    (success : execute token contract sender now state call = some after) :
    Executed token contract sender now state call after := by
  cases call with
  | registerRelayNode peerId =>
      obtain ⟨fresh, unclaimed, ledger, paid, rfl⟩ := registerRelayNode_cases success
      exact .registered fresh unclaimed paid
  | addStake amount =>
      obtain ⟨active, ledger, paid, rfl⟩ := addStake_cases success
      exact .staked active paid
  | claimRewards =>
      obtain ⟨active, rewards, owed, _, _, ledger, paid, rfl⟩ := claimRewards_cases success
      exact .claimed active owed paid
  | deactivateNode =>
      obtain ⟨active, rfl⟩ := deactivateNode_cases success
      exact .deactivated active
  | withdrawStake =>
      obtain ⟨inactive, positive, ledger, paid, rfl⟩ := withdrawStake_cases success
      exact .withdrawn inactive positive paid
  | setMinStake newMinStake =>
      obtain ⟨_, rfl⟩ := setMinStake_cases success
      exact .aside rfl ⟨rfl, rfl, rfl, rfl, rfl⟩
  | transferOwnership newOwner =>
      rw [transferOwnership_cases success]
      exact .aside rfl ⟨rfl, rfl, rfl, rfl, rfl⟩
  | renounceOwnership =>
      rw [renounceOwnership_cases success]
      exact .aside rfl ⟨rfl, rfl, rfl, rfl, rfl⟩
  | transfer receiver value =>
      obtain ⟨ledger, _, rfl⟩ := withLedger_cases success
      exact .aside rfl ⟨rfl, rfl, rfl, rfl, rfl⟩
  | approve spender value =>
      obtain ⟨ledger, _, rfl⟩ := withLedger_cases success
      exact .aside rfl ⟨rfl, rfl, rfl, rfl, rfl⟩
  | transferFrom owner receiver value =>
      obtain ⟨ledger, _, rfl⟩ := withLedger_cases success
      exact .aside rfl ⟨rfl, rfl, rfl, rfl, rfl⟩

end Chainmail.DMailToken
