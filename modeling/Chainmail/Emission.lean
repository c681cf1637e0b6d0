import Chainmail.Accrual
import Chainmail.RelayRewards
import Mathlib.Algebra.Order.Field.Rat
import Mathlib.Data.Nat.Cast.Order.Field
import Mathlib.Tactic.LinearCombination
import Mathlib.Tactic.Positivity
import Mathlib.Tactic.Ring

/-!
How much the contract pays out by when. The reward of a second is shared among the
nodes active in it, and a claim is paid as if its seconds had been shared among the
nodes active now. The schedule holds as long as no claim gains by that.
-/

namespace Chainmail.DMailToken

open Chainmail.Solidity Accrual

variable {Ledger : Type}

section Statements
variable (token : ERC20 Ledger) (contract : Address) (start : Chain Ledger)

/-- The number of active nodes in a second of the history. -/
def activeAt : List Transaction → Nat → Nat
  | [], _ => getActiveNodeCount start.state
  | tx :: earlier, second =>
      if second < tx.now then activeAt earlier second
      else getActiveNodeCount (replay token contract start (tx :: earlier)).state

def share (past : List Transaction) (second : Nat) : ℚ :=
  1 / activeAt token contract start past second

/-- For the seconds since its last claim, a share of now is worth no more than their own. -/
def ClaimsFairly (tx : Transaction) (earlier : List Transaction) : Prop :=
  let state := (replay token contract start earlier).state
  let node := state.relayNodes tx.sender
  tx.call = .claimRewards → node.isActive = true →
    ((tx.now : ℚ) - node.lastClaimTime) / getActiveNodeCount state ≤
      accrued (share token contract start earlier) node.lastClaimTime tx.now

/-- From the last transaction on, no more was paid than the base rate times the
    maximum multiplier since the start of the rewards. -/
def WithinSchedule (past : List Transaction) : Prop :=
  ∀ now, (replay token contract start past).now ≤ now →
    (replay token contract start past).state.relayRewardsDistributed ≤
      2 * (RELAY_REWARDS_POOL / REWARD_DURATION) *
        (now - (replay token contract start past).state.rewardStartTime)

end Statements

variable {token : ERC20 Ledger} {contract : Address} {start : Chain Ledger}

def account (node : RelayNode) : Account := ⟨node.isActive, node.lastClaimTime⟩

/-- What was paid and what can be claimed at most, out of the seconds so far. -/
def Emitted (shares : Nat → ℚ) (started : Nat) (chain : Chain Ledger) : Prop :=
  (chain.state.relayRewardsDistributed : ℚ) + 2 * rewardPerSecond *
      pending shares chain.now (account ∘ chain.state.relayNodes) ≤
    2 * rewardPerSecond * (chain.now - started)

theorem emitted_congr {shares others : Nat → ℚ} {started : Nat} {chain : Chain Ledger}
    (same : ∀ second, second < chain.now → others second = shares second)
    (emitted : Emitted shares started chain) : Emitted others started chain := by
  rw [Emitted, pending_congr _ same]
  exact emitted

theorem share_nonneg (past : List Transaction) (second : Nat) :
    0 ≤ share token contract start past second := by
  unfold share
  positivity

theorem share_before (tx : Transaction) (earlier : List Transaction) {second : Nat}
    (before : second < tx.now) :
    share token contract start (tx :: earlier) second =
      share token contract start earlier second := by
  rw [share, share, activeAt, if_pos before]

theorem activeAt_last (past : List Transaction) {second : Nat}
    (after : (replay token contract start past).now ≤ second) :
    activeAt token contract start past second =
      getActiveNodeCount (replay token contract start past).state := by
  cases past with
  | nil => rfl
  | cons tx earlier => exact if_neg (Nat.not_lt.mpr after)

theorem activeWallets_le {chain : Chain Ledger} (enrolled : Enrolled chain) :
    (Finset.univ.filter fun wallet =>
      ((account ∘ chain.state.relayNodes) wallet).active = true).card ≤
      getActiveNodeCount chain.state := by
  rw [getActiveNodeCount, List.countP_eq_length_filter]
  refine le_trans (Finset.card_le_card ?_) (List.toFinset_card_le _)
  intro wallet member
  have active := (Finset.mem_filter.mp member).2
  exact List.mem_toFinset.mpr (List.mem_filter.mpr ⟨enrolled.active_listed active, active⟩)

theorem base_nonneg : (0 : ℚ) ≤ 2 * rewardPerSecond := by
  positivity

section Step
variable {chain : Chain Ledger} {now : Nat} {shares : Nat → ℚ}

/-- A claim is paid at most twice its part of the base rate. -/
theorem rewards_le {state : State Ledger} {wallet : Address} {rewards : Nat}
    (active : (state.relayNodes wallet).isActive = true) (counted : 0 < getActiveNodeCount state)
    (due : calculateRewards wallet now state = some rewards) :
    (rewards : ℚ) ≤ 2 * rewardPerSecond *
      (((now : ℚ) - (state.relayNodes wallet).lastClaimTime) / getActiveNodeCount state) := by
  obtain ⟨multiplier, computed, claimed, _, _, rfl⟩ :=
    (calculateRewards_some_iff active counted).mp due
  have capped : (multiplier : ℚ) ≤ 200 := by exact_mod_cast stakeMultiplier_le computed
  have elapsed : ((now - (state.relayNodes wallet).lastClaimTime : Nat) : ℚ) =
      now - (state.relayNodes wallet).lastClaimTime := Nat.cast_sub claimed
  have waited : (0 : ℚ) ≤ (now : ℚ) - (state.relayNodes wallet).lastClaimTime := by
    rw [← elapsed]
    exact Nat.cast_nonneg _
  have rate : ((rewardPerSecond / getActiveNodeCount state : Nat) : ℚ) ≤
      rewardPerSecond / getActiveNodeCount state := Nat.cast_div_le
  calc ((rewardPerSecond / getActiveNodeCount state *
          (now - (state.relayNodes wallet).lastClaimTime) * multiplier / 100 : Nat) : ℚ)
      ≤ ((rewardPerSecond / getActiveNodeCount state *
          (now - (state.relayNodes wallet).lastClaimTime) * multiplier : Nat) : ℚ) / 100 :=
        Nat.cast_div_le
    _ = ((rewardPerSecond / getActiveNodeCount state : Nat) : ℚ) *
          (now - (state.relayNodes wallet).lastClaimTime) * multiplier / 100 := by
        rw [Nat.cast_mul, Nat.cast_mul, elapsed]
    _ ≤ (rewardPerSecond / getActiveNodeCount state) *
          (now - (state.relayNodes wallet).lastClaimTime) * 200 / 100 := by
        gcongr
    _ = 2 * rewardPerSecond *
          (((now : ℚ) - (state.relayNodes wallet).lastClaimTime) / getActiveNodeCount state) := by
        ring

/-- A record is written, and what its wallet is paid for it was owed. -/
theorem emitted_setNode (before : State Ledger) {after : State Ledger} (wallet : Address)
    {node : RelayNode} (rewards : Nat)
    (relayNodes : after.relayNodes = Function.update before.relayNodes wallet node)
    (distributed : after.relayRewardsDistributed = before.relayRewardsDistributed + rewards)
    (paid : (rewards : ℚ) + 2 * rewardPerSecond * owed shares now (account node) ≤
      2 * rewardPerSecond * owed shares now (account (before.relayNodes wallet))) :
    (after.relayRewardsDistributed : ℚ) + 2 * rewardPerSecond *
        pending shares now (account ∘ after.relayNodes) ≤
      before.relayRewardsDistributed + 2 * rewardPerSecond *
        pending shares now (account ∘ before.relayNodes) := by
  have moved := pending_update shares now (account ∘ before.relayNodes) wallet (account node)
  rw [relayNodes, Function.comp_update, distributed, Nat.cast_add]
  simp only [Function.comp_apply] at moved
  linear_combination paid + 2 * (rewardPerSecond : ℚ) * moved

theorem emitted_executed (enrolled : Enrolled chain)
    {sender : Address} {call : Call} {after : State Ledger} (nonneg : ∀ second, 0 ≤ shares second)
    (fair : call = .claimRewards → (chain.state.relayNodes sender).isActive = true →
      ((now : ℚ) - (chain.state.relayNodes sender).lastClaimTime) / getActiveNodeCount chain.state ≤
        accrued shares (chain.state.relayNodes sender).lastClaimTime now)
    (done : Executed token contract sender now chain.state call after) :
    (after.relayRewardsDistributed : ℚ) + 2 * rewardPerSecond *
        pending shares now (account ∘ after.relayNodes) ≤
      chain.state.relayRewardsDistributed + 2 * rewardPerSecond *
        pending shares now (account ∘ chain.state.relayNodes) := by
  have unpaid := mul_nonneg base_nonneg
    (owed_nonneg now (account (chain.state.relayNodes sender)) nonneg)
  cases done with
  | registered =>
      refine emitted_setNode chain.state sender 0 rfl rfl ?_
      rw [account, owed_settled, Nat.cast_zero, mul_zero, add_zero]
      exact unpaid
  | staked =>
      refine emitted_setNode chain.state sender 0 rfl rfl ?_
      rw [Nat.cast_zero, zero_add]
      exact le_rfl
  -- Only a claim pays, and it settles what was owed.
  | claimed active due _ =>
      refine emitted_setNode chain.state sender _ rfl rfl ?_
      rw [account, owed_settled, mul_zero, add_zero, account, owed, if_pos active]
      have counted := activeNodes_pos enrolled active
      exact (rewards_le active counted due).trans
        (mul_le_mul_of_nonneg_left (fair rfl active) base_nonneg)
  | deactivated =>
      refine emitted_setNode chain.state sender 0 rfl rfl ?_
      rw [account, owed_inactive, Nat.cast_zero, mul_zero, add_zero]
      exact unpaid
  | withdrawn =>
      refine emitted_setNode chain.state sender 0 rfl rfl ?_
      rw [Nat.cast_zero, zero_add]
      exact le_rfl
  | aside _ same => rw [same.relayNodes, same.distributed]

theorem emitted_transact (enrolled : Enrolled chain) {tx : Transaction} (later : chain.now ≤ tx.now)
    {started : Nat} (nonneg : ∀ second, 0 ≤ shares second)
    (shared : ∀ second, chain.now ≤ second →
      shares second = 1 / getActiveNodeCount chain.state)
    (fair : tx.call = .claimRewards → (chain.state.relayNodes tx.sender).isActive = true →
      ((tx.now : ℚ) - (chain.state.relayNodes tx.sender).lastClaimTime) /
        getActiveNodeCount chain.state ≤
          accrued shares (chain.state.relayNodes tx.sender).lastClaimTime tx.now)
    (before : Emitted shares started chain) :
    Emitted shares started (transact token contract chain tx) := by
  have counted := activeWallets_le enrolled
  have waited : pending shares tx.now (account ∘ chain.state.relayNodes) ≤
      pending shares chain.now (account ∘ chain.state.relayNodes) + (tx.now - chain.now) := by
    apply pending_wait enrolled.claimed later
    intro second after _
    rw [shared second after, mul_one_div]
    apply div_le_one_of_le₀
    · exact_mod_cast counted
    · exact Nat.cast_nonneg _
  have gained := mul_le_mul_of_nonneg_left waited base_nonneg
  unfold Emitted at *
  rcases transact_cases chain tx with ⟨_, moved⟩ | ⟨after, _, done, moved⟩
  · rw [moved]
    linear_combination gained + before
  · have paid := emitted_executed enrolled nonneg fair done
    rw [moved]
    linear_combination paid + gained + before

end Step

theorem emitted_replay (lawful : OpenZeppelin token) (deployed : Deployed token contract start)
    {past : List Transaction} (sent : EachInput (Sent token contract start) past)
    (fair : EachInput (ClaimsFairly token contract start) past) :
    Emitted (share token contract start past) start.now (replay token contract start past) := by
  induction past with
  | nil =>
      obtain ⟨relayNodes, _, _, distributed, _⟩ := deployed_state deployed
      rw [Emitted, replay, relayNodes, distributed]
      simp [pending, owed, account, unregistered]
  | cons tx earlier ih =>
      obtain ⟨⟨later, _⟩, sentBefore⟩ := eachInput_cons.mp sent
      obtain ⟨fairNow, fairBefore⟩ := eachInput_cons.mp fair
      have enrolled := enrolled_replay lawful deployed sentBefore
      have shared : ∀ second, (replay token contract start earlier).now ≤ second →
          share token contract start earlier second =
            1 / getActiveNodeCount (replay token contract start earlier).state := by
        intro second after
        rw [share, activeAt_last earlier after]
      apply emitted_congr fun second before => share_before tx earlier before
      exact emitted_transact enrolled later (share_nonneg earlier) shared fairNow
        (ih sentBefore fairBefore)

/-- In every history whose claims are fair, the rewards stay within the schedule. -/
theorem emission_within_schedule (lawful : OpenZeppelin token) (history : History token contract)
    (fair : EachInput (ClaimsFairly token contract history.start) history.past) :
    Always (WithinSchedule token contract history.start) history.past := by
  intro earlier suffix now later
  have sent := history.sent.suffix suffix
  have emitted := emitted_replay lawful history.deployed sent (fair.suffix suffix)
  obtain ⟨started, first⟩ := started_replay history.deployed sent
  have waiting : 0 ≤ pending (share token contract history.start earlier)
      (replay token contract history.start earlier).now
        (account ∘ (replay token contract history.start earlier).state.relayNodes) :=
    pending_nonneg _ _ (share_nonneg earlier)
  have unpaid := mul_nonneg base_nonneg waiting
  have elapsed : ((replay token contract history.start earlier).now : ℚ) ≤ now :=
    Nat.cast_le.mpr later
  have paid : ((replay token contract history.start earlier).state.relayRewardsDistributed : ℚ) ≤
      2 * rewardPerSecond * (now - history.start.now) := by
    have grown := mul_le_mul_of_nonneg_left elapsed base_nonneg
    unfold Emitted at emitted
    linear_combination emitted + unpaid + grown
  rw [started]
  rw [← Nat.cast_sub (first.trans later)] at paid
  exact_mod_cast paid

/-! The deployer of the contract at address 1 claims for a relay node of its own; or it
shares the rewards with another, claims and leaves, and the other one then claims as
if it had been alone all the time. -/

def claiming : History plainToken 1 :=
  (launch.send ⟨2, 100, .registerRelayNode 7⟩ (by decide) (by decide +kernel)).send
    ⟨2, 102, .claimRewards⟩ (by decide) (by decide +kernel)

theorem claiming_within_schedule :
    Always (WithinSchedule plainToken 1 claiming.start) claiming.past := by
  apply emission_within_schedule plainToken_lawful claiming
  have fair : ClaimsFairly plainToken 1 launched ⟨2, 102, .claimRewards⟩
      [⟨2, 100, .registerRelayNode 7⟩] := by
    intro _ _
    decide +kernel
  have registers : ClaimsFairly plainToken 1 launched ⟨2, 100, .registerRelayNode 7⟩ [] := by
    intro called
    cases called
  exact eachInput_cons.mpr ⟨fair, eachInput_cons.mpr ⟨registers, eachInput_nil⟩⟩

def sharing : History plainToken 1 :=
  ((((launch.send ⟨2, 100, .transfer 3 100_000_000_000_000_000_000_000⟩ (by decide)
    (by decide +kernel)).send ⟨2, 100, .registerRelayNode 7⟩ (by decide) (by decide +kernel)).send
    ⟨2, 100, .addStake 90_000_000_000_000_000_000_000⟩ (by decide) (by decide +kernel)).send
    ⟨3, 100, .registerRelayNode 8⟩ (by decide) (by decide +kernel)).send
    ⟨3, 100, .addStake 90_000_000_000_000_000_000_000⟩ (by decide) (by decide +kernel)

def overpaid : History plainToken 1 :=
  ((sharing.send ⟨2, 200, .claimRewards⟩ (by decide) (by decide +kernel)).send
    ⟨2, 200, .deactivateNode⟩ (by decide) (by decide +kernel)).send
    ⟨3, 200, .claimRewards⟩ (by decide) (by decide +kernel)

theorem last_claim_overpaid :
    ¬ Always (WithinSchedule plainToken 1 overpaid.start) overpaid.past := by
  intro within
  have paid := within overpaid.past (List.suffix_refl _) 200 (Nat.le_refl _)
  revert paid
  decide +kernel

end Chainmail.DMailToken
