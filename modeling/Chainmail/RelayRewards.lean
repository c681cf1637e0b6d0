import Chainmail.TokenHistory

/-!
What a relay node can claim. The number of active nodes is taken when it is asked
for, for all the time since the last claim, so what is pending falls where
another node registers and only there.
-/

namespace Chainmail.DMailToken

open Chainmail.Solidity

variable {Ledger : Type}

def rewardPerSecond : Nat := RELAY_REWARDS_POOL / REWARD_DURATION

section Formula
variable {state before after : State Ledger} {wallet : Address} {now later : Nat}

theorem stakeMultiplier_le {stakedAmount minStake multiplier : Nat}
    (computed : stakeMultiplier stakedAmount minStake = some multiplier) : multiplier ≤ 200 := by
  simp only [stakeMultiplier, Option.bind_eq_bind, Option.bind_eq_some_iff, Option.some.injEq]
    at computed
  obtain ⟨_, _, _, _, _, _, uncapped, _, capped⟩ := computed
  rw [← capped]
  split <;> omega

theorem mul_some_iff {a b c : Nat} : mul a b = some c ↔ a * b < 2 ^ 256 ∧ c = a * b := by
  simp [mul, eq_comm]

theorem calculateRewards_some_iff (active : (state.relayNodes wallet).isActive = true)
    (counted : 0 < getActiveNodeCount state) {rewards : Nat} :
    calculateRewards wallet now state = some rewards ↔
      ∃ multiplier, stakeMultiplier (state.relayNodes wallet).stakedAmount state.minStake =
          some multiplier ∧
        (state.relayNodes wallet).lastClaimTime ≤ now ∧
        rewardPerSecond / getActiveNodeCount state *
          (now - (state.relayNodes wallet).lastClaimTime) < 2 ^ 256 ∧
        rewardPerSecond / getActiveNodeCount state *
          (now - (state.relayNodes wallet).lastClaimTime) * multiplier < 2 ^ 256 ∧
        rewards = rewardPerSecond / getActiveNodeCount state *
          (now - (state.relayNodes wallet).lastClaimTime) * multiplier / 100 := by
  have someone : getActiveNodeCount state ≠ 0 := counted.ne'
  rw [calculateRewards, if_neg (by simp [active])]
  simp only [if_neg someone, Option.bind_eq_bind, Option.bind_some, Option.bind_eq_some_iff,
    mul_some_iff, div]
  constructor
  · rintro ⟨elapsed, waited, multiplier, computed, product, ⟨small, rfl⟩, scaled, ⟨fits, rfl⟩, paid⟩
    obtain ⟨claimed, rfl⟩ := sub_some waited
    exact ⟨multiplier, computed, claimed, small, fits, (Option.some.inj paid).symm⟩
  · rintro ⟨multiplier, computed, claimed, small, fits, rfl⟩
    exact ⟨_, if_pos claimed, multiplier, computed, _, ⟨small, rfl⟩, _, ⟨fits, rfl⟩, rfl⟩

/-- What the wallet can claim in the state before is not more than in the state
    after, where it can be asked for as long as times have 64 bits. -/
def PendingKept (wallet : Address) (before after : State Ledger) : Prop :=
  ∀ now later pending, now ≤ later → calculateRewards wallet now before = some pending →
    (∀ due, calculateRewards wallet later after = some due → pending ≤ due) ∧
      (later < 2 ^ 64 → (calculateRewards wallet later after).isSome)

theorem pendingKept_of_fewer (active : (before.relayNodes wallet).isActive = true)
    (sameNode : after.relayNodes wallet = before.relayNodes wallet)
    (sameStake : after.minStake = before.minStake) (counted : 0 < getActiveNodeCount after)
    (fewer : getActiveNodeCount after ≤ getActiveNodeCount before) :
    PendingKept wallet before after := by
  intro now later pending waited owed
  have activeAfter : (after.relayNodes wallet).isActive = true := sameNode ▸ active
  have shares : rewardPerSecond / getActiveNodeCount before ≤
      rewardPerSecond / getActiveNodeCount after := Nat.div_le_div_left fewer counted
  obtain ⟨multiplier, computed, claimed, _, _, rfl⟩ :=
    (calculateRewards_some_iff active (counted.trans_le fewer)).mp owed
  constructor
  · intro due owedAfter
    obtain ⟨multiplierAfter, computedAfter, _, _, _, rfl⟩ :=
      (calculateRewards_some_iff activeAfter counted).mp owedAfter
    rw [sameNode, sameStake, computed] at computedAfter
    cases computedAfter
    rw [sameNode]
    -- Only the share of the wallet has changed, and it has not shrunk.
    gcongr
  · intro short
    -- No product overflows before the second `2 ^ 64`.
    have capped := stakeMultiplier_le computed
    have rate : rewardPerSecond < 2 ^ 61 := by decide
    have share : rewardPerSecond / getActiveNodeCount after < 2 ^ 61 :=
      (Nat.div_le_self _ _).trans_lt rate
    have elapsed : later - (before.relayNodes wallet).lastClaimTime < 2 ^ 64 :=
      (Nat.sub_le _ _).trans_lt short
    have product : rewardPerSecond / getActiveNodeCount after *
        (later - (before.relayNodes wallet).lastClaimTime) ≤ 2 ^ 61 * 2 ^ 64 :=
      Nat.mul_le_mul share.le elapsed.le
    have scaled := Nat.mul_le_mul product capped
    apply Option.isSome_iff_exists.mpr
    refine ⟨_, (calculateRewards_some_iff activeAfter counted).mpr
      ⟨multiplier, ?_, ?_, ?_, ?_, rfl⟩⟩ <;> rw [sameNode]
    · rw [sameStake]
      exact computed
    · exact claimed.trans waited
    · exact product.trans_lt (by decide)
    · exact scaled.trans_lt (by decide)

end Formula

section Step
variable {token : ERC20 Ledger} {contract : Address} {start chain : Chain Ledger}
  {tx : Transaction} {wallet : Address}

theorem activeNodes_pos (enrolled : Enrolled chain)
    (active : (chain.state.relayNodes wallet).isActive = true) :
    0 < getActiveNodeCount chain.state :=
  List.countP_pos_iff.mpr ⟨wallet, enrolled.active_listed active, active⟩

/-- A record is written that is not active where the old one is not. -/
theorem activeNodes_le {before after : State Ledger} {sender : Address} {node : RelayNode}
    (relayNodes : after.relayNodes = Function.update before.relayNodes sender node)
    (registeredNodes : after.registeredNodes = before.registeredNodes)
    (active : node.isActive = true → (before.relayNodes sender).isActive = true) :
    getActiveNodeCount after ≤ getActiveNodeCount before := by
  rw [getActiveNodeCount, getActiveNodeCount, registeredNodes, relayNodes]
  apply List.countP_mono_left
  intro other _ activeAfter
  by_cases same : other = sender
  · rw [same, Function.update_self] at activeAfter
    rw [same]
    exact active activeAfter
  · rw [Function.update_of_ne same] at activeAfter
    exact activeAfter

theorem activeNodes_step (other : ¬ Registered token contract chain tx) :
    getActiveNodeCount (transact token contract chain tx).state ≤
      getActiveNodeCount chain.state := by
  rcases transact_cases chain tx with ⟨_, moved⟩ | ⟨after, went, done, moved⟩
  · rw [moved]
  · rw [moved]
    obtain ⟨sender, now, call⟩ := tx
    cases done with
    | registered => exact absurd ⟨_, rfl, Option.isSome_of_mem went⟩ other
    | staked active => exact activeNodes_le rfl rfl fun _ => active
    | claimed active => exact activeNodes_le rfl rfl fun _ => active
    | deactivated active => exact activeNodes_le rfl rfl fun _ => active
    | withdrawn => exact activeNodes_le rfl rfl id
    | aside _ same =>
        rw [getActiveNodeCount, getActiveNodeCount, same.registeredNodes, same.relayNodes]

end Step

section Run
variable (token : ERC20 Ledger) (contract : Address) (start : Chain Ledger)

/-- After the earlier transactions the node of the wallet is active, and the later ones
    are not sent by the wallet and leave the minimum stake. -/
structure Idles (wallet : Address) (later earlier : List Transaction) : Prop where
  active : ((replay token contract start earlier).state.relayNodes wallet).isActive = true
  idle : ∀ tx, tx ∈ later → tx.sender ≠ wallet
  sameStake : (replay token contract start (later ++ earlier)).state.minStake =
    (replay token contract start earlier).state.minStake

/-- None of the later transactions is a registration that passes its checks. -/
def NobodyJoins (later earlier : List Transaction) : Prop :=
  EachInput (fun tx rest =>
    ¬ Registers token (replay token contract start (rest ++ earlier)).state tx) later

variable {token contract start}

theorem node_idle {wallet : Address} {later : List Transaction} (earlier : List Transaction)
    (idle : ∀ tx, tx ∈ later → tx.sender ≠ wallet) :
    (replay token contract start (later ++ earlier)).state.relayNodes wallet =
      (replay token contract start earlier).state.relayNodes wallet := by
  induction later with
  | nil => rfl
  | cons tx rest ih =>
      have foreign : wallet ≠ tx.sender := (idle tx List.mem_cons_self).symm
      rw [List.cons_append, replay, node_foreign foreign]
      exact ih fun other member => idle other (List.mem_cons_of_mem _ member)

theorem activeNodes_run (lawful : OpenZeppelin token) {later earlier : List Transaction}
    (closed : NobodyJoins token contract start later earlier) :
    getActiveNodeCount (replay token contract start (later ++ earlier)).state ≤
      getActiveNodeCount (replay token contract start earlier).state := by
  induction later with
  | nil => exact Nat.le_refl _
  | cons tx rest ih =>
      obtain ⟨unregistered, before⟩ := eachInput_cons.mp closed
      rw [List.cons_append, replay]
      apply (activeNodes_step fun registered => ?_).trans (ih before)
      exact unregistered (registers_of_registered lawful registered)

/-- In every history, from a moment when the node of a wallet is active, what it can
    claim never falls while the wallet sends nothing, the minimum stake is the same
    and nobody joins. -/
theorem pending_kept (lawful : OpenZeppelin token) (history : History token contract)
    {later earlier : List Transaction} (split : history.past = later ++ earlier) {wallet : Address}
    (idles : Idles token contract history.start wallet later earlier)
    (closed : NobodyJoins token contract history.start later earlier) :
    PendingKept wallet (replay token contract history.start earlier).state history.chain.state := by
  have sameNode : (replay token contract history.start (later ++ earlier)).state.relayNodes wallet =
      (replay token contract history.start earlier).state.relayNodes wallet :=
    node_idle earlier idles.idle
  have enrolled := enrolled_replay lawful history.deployed history.sent
  rw [History.chain, split] at *
  apply pendingKept_of_fewer idles.active sameNode idles.sameStake
  · apply activeNodes_pos enrolled
    rw [sameNode]
    exact idles.active
  · exact activeNodes_run lawful closed

/-! The deployer of the contract at address 1 runs a relay node. Somebody else claims
nothing of it, and somebody joins. -/

def serving : History plainToken 1 :=
  (launch.send ⟨2, 150, .transfer 3 10_000_000_000_000_000_000_000⟩ (by decide)
    (by decide +kernel)).send ⟨2, 200, .registerRelayNode 7⟩ (by decide) (by decide +kernel)

def waiting : History plainToken 1 :=
  serving.send ⟨3, 300, .claimRewards⟩ (by decide) (by decide +kernel)

theorem waiting_kept : PendingKept 2 serving.chain.state waiting.chain.state := by
  have idles : Idles plainToken 1 launched 2 [⟨3, 300, .claimRewards⟩] serving.past := by
    refine ⟨by decide +kernel, ?_, by decide +kernel⟩
    intro tx member
    rw [List.mem_singleton.mp member]
    decide +kernel
  have closed : NobodyJoins plainToken 1 launched [⟨3, 300, .claimRewards⟩] serving.past := by
    refine eachInput_cons.mpr ⟨?_, eachInput_nil⟩
    rintro ⟨_, called, _⟩
    cases called
  exact pending_kept plainToken_lawful waiting rfl idles closed

theorem joining_dilutes : ¬ ∀ (history : History plainToken 1) (later earlier : List Transaction),
    history.past = later ++ earlier → ∀ wallet, Idles plainToken 1 history.start wallet later earlier →
      PendingKept wallet (replay plainToken 1 history.start earlier).state history.chain.state := by
  intro kept
  have idles : Idles plainToken 1 launched 2 [⟨3, 300, .registerRelayNode 8⟩] serving.past := by
    refine ⟨by decide +kernel, ?_, by decide +kernel⟩
    intro tx member
    rw [List.mem_singleton.mp member]
    decide +kernel
  have fallen := kept (serving.send ⟨3, 300, .registerRelayNode 8⟩ (by decide) (by decide +kernel))
    [⟨3, 300, .registerRelayNode 8⟩] serving.past rfl 2 idles
  have before : calculateRewards 2 300 serving.chain.state = some 139523084728564180600 := by
    decide +kernel
  have after : calculateRewards 2 300 (serving.send ⟨3, 300, .registerRelayNode 8⟩ (by decide)
      (by decide +kernel)).chain.state = some 69761542364282090300 := by
    decide +kernel
  exact absurd ((fallen 300 300 _ (Nat.le_refl _) before).1 _ after) (by decide)

end Run
end Chainmail.DMailToken
