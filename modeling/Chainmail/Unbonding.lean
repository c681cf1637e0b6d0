import Chainmail.TokenHistory

/-!
The unbonding period. `withdrawStake` asks whether the node is inactive and not
since when, so the seven days pass only where the operator lets them.
-/

namespace Chainmail.DMailToken

open Chainmail.Solidity

variable {Ledger : Type}

/-- The seven days of the source's comments, in seconds. -/
def UNBONDING_PERIOD : Nat := 7 * 86400

section Statements
variable (token : ERC20 Ledger) (contract : Address) (start : Chain Ledger)

/-- When the node of a wallet was deactivated, if it was and is not registered anew. -/
def deactivatedAt (wallet : Address) : List Transaction → Option Nat
  | [] => none
  | tx :: earlier =>
      if tx.sender = wallet ∧
          (attempt token contract (replay token contract start earlier) tx).isSome then
        match tx.call with
        | .deactivateNode => some tx.now
        | .registerRelayNode _ => none
        | _ => deactivatedAt wallet earlier
      else deactivatedAt wallet earlier

/-- A withdrawal that goes through comes seven days after the deactivation. -/
def WithdrawsUnbonded (tx : Transaction) (earlier : List Transaction) : Prop :=
  tx.call = .withdrawStake →
    (attempt token contract (replay token contract start earlier) tx).isSome →
      ∃ since, deactivatedAt token contract start tx.sender earlier = some since ∧
        since + UNBONDING_PERIOD ≤ tx.now

/-- Whoever has a stake to withdraw waits seven days of their own accord. -/
def Waits (tx : Transaction) (earlier : List Transaction) : Prop :=
  tx.call = .withdrawStake →
    ((replay token contract start earlier).state.relayNodes tx.sender).isActive = false →
    0 < ((replay token contract start earlier).state.relayNodes tx.sender).stakedAmount →
      ∀ since, deactivatedAt token contract start tx.sender earlier = some since →
        since + UNBONDING_PERIOD ≤ tx.now

end Statements

variable {token : ERC20 Ledger} {contract : Address} {start : Chain Ledger}

theorem deactivatedAt_reverted {tx : Transaction} {earlier : List Transaction} (wallet : Address)
    (reverted : attempt token contract (replay token contract start earlier) tx = none) :
    deactivatedAt token contract start wallet (tx :: earlier) =
      deactivatedAt token contract start wallet earlier := by
  simp [deactivatedAt, reverted]

theorem deactivatedAt_foreign {tx : Transaction} (earlier : List Transaction) {wallet : Address}
    (foreign : wallet ≠ tx.sender) :
    deactivatedAt token contract start wallet (tx :: earlier) =
      deactivatedAt token contract start wallet earlier := by
  simp [deactivatedAt, foreign.symm]

/-- A node that is inactive and holds a stake was deactivated. -/
theorem deactivated_once (past : List Transaction) (deployed : Deployed token contract start)
    {wallet : Address}
    (inactive : ((replay token contract start past).state.relayNodes wallet).isActive = false)
    (staked : 0 < ((replay token contract start past).state.relayNodes wallet).stakedAmount) :
    (deactivatedAt token contract start wallet past).isSome := by
  induction past with
  | nil =>
      rw [replay, (deployed_state deployed).1] at staked
      exact absurd staked (Nat.lt_irrefl 0)
  | cons tx earlier ih =>
      rw [replay] at inactive staked
      rcases transact_cases (replay token contract start earlier) tx with
        ⟨reverted, moved⟩ | ⟨after, went, done, moved⟩
      · rw [moved] at inactive staked
        rw [deactivatedAt_reverted wallet reverted]
        exact ih inactive staked
      · rw [moved] at inactive staked
        obtain ⟨sender, now, call⟩ := tx
        by_cases own : wallet = sender
        · subst own
          -- Of its own calls only `deactivateNode` leaves it inactive with a stake.
          cases done with
          | registered => simp [setNode] at inactive
          | staked active => simp [setNode, active] at inactive
          | claimed active => simp [setNode, active] at inactive
          | deactivated => simp [deactivatedAt, went]
          | withdrawn => simp [setNode] at staked
          | aside plain same =>
              rw [same.relayNodes] at inactive staked
              cases call with
              | registerRelayNode | addStake | claimRewards | deactivateNode | withdrawStake =>
                  cases plain
              | _ =>
                  simp only [deactivatedAt, went, Option.isSome_some, and_self, if_true]
                  exact ih inactive staked
        · rw [deactivatedAt_foreign earlier own]
          cases done with
          | aside plain same =>
              rw [same.relayNodes] at inactive staked
              exact ih inactive staked
          | _ =>
              simp only [setNode, Function.update_of_ne own] at inactive staked
              exact ih inactive staked

theorem withdraws_iff_waits (lawful : OpenZeppelin token) (deployed : Deployed token contract start)
    {tx : Transaction} {earlier : List Transaction}
    (sent : EachInput (Sent token contract start) (tx :: earlier)) :
    WithdrawsUnbonded token contract start tx earlier ↔ Waits token contract start tx earlier := by
  obtain ⟨sender, now, call⟩ := tx
  have before := (eachInput_cons.mp sent).2
  constructor
  · rintro unbonded rfl inactive staked since deactivated
    have paid : (attempt token contract (replay token contract start earlier)
        ⟨sender, now, .withdrawStake⟩).isSome :=
      withdrawStake_succeeds lawful (solvent_replay lawful deployed before) sender inactive staked
    obtain ⟨found, held, waited⟩ := unbonded rfl paid
    rw [deactivated] at held
    rw [Option.some.inj held]
    exact waited
  · rintro waits rfl paid
    obtain ⟨after, done⟩ := Option.isSome_iff_exists.mp paid
    obtain ⟨inactive, staked, _⟩ := withdrawStake_cases done
    obtain ⟨since, held⟩ :=
      Option.isSome_iff_exists.mp (deactivated_once earlier deployed inactive staked)
    exact ⟨since, held, waits rfl inactive staked since held⟩

/-- In every history, all withdrawals that go through come seven days after the
    deactivation just when everyone with a stake to withdraw waits that long. -/
theorem unbonding_iff_waits (lawful : OpenZeppelin token) (history : History token contract) :
    EachInput (WithdrawsUnbonded token contract history.start) history.past ↔
      EachInput (Waits token contract history.start) history.past := by
  constructor
  · intro unbonded tx earlier suffix
    have sent := history.sent.suffix suffix
    exact (withdraws_iff_waits lawful history.deployed sent).mp (unbonded tx earlier suffix)
  · intro waits tx earlier suffix
    have sent := history.sent.suffix suffix
    exact (withdraws_iff_waits lawful history.deployed sent).mpr (waits tx earlier suffix)

/-! The deployer of the contract at address 1 registers a relay node and
deactivates it, to have the stake back in the same block or a week later. -/

def deactivating : History plainToken 1 :=
  (enlist 7).send ⟨2, 300, .deactivateNode⟩ (by decide) (by decide +kernel)

theorem deactivating_since :
    deactivatedAt plainToken 1 launched 2 deactivating.past = some 300 := by
  decide +kernel

def leaving : History plainToken 1 :=
  deactivating.send ⟨2, 300 + UNBONDING_PERIOD, .withdrawStake⟩ (by decide) (by decide +kernel)

theorem leaving_unbonded :
    EachInput (WithdrawsUnbonded plainToken 1 leaving.start) leaving.past := by
  apply (unbonding_iff_waits plainToken_lawful leaving).mpr
  have waits : Waits plainToken 1 launched ⟨2, 300 + UNBONDING_PERIOD, .withdrawStake⟩
      deactivating.past := by
    intro _ _ _ since held
    rw [Option.some.inj (held.symm.trans deactivating_since)]
  have deactivates : Waits plainToken 1 launched ⟨2, 300, .deactivateNode⟩ (enlist 7).past := by
    intro called
    cases called
  have registers : Waits plainToken 1 launched ⟨2, 200, .registerRelayNode 7⟩ launch.past := by
    intro called
    cases called
  exact eachInput_cons.mpr ⟨waits, eachInput_cons.mpr ⟨deactivates, eachInput_cons.mpr
    ⟨registers, eachInput_nil⟩⟩⟩

def exiting : History plainToken 1 :=
  deactivating.send ⟨2, 300, .withdrawStake⟩ (by decide) (by decide +kernel)

theorem exits_at_once :
    ¬ EachInput (WithdrawsUnbonded plainToken 1 exiting.start) exiting.past := by
  intro unbonded
  have paid : (attempt plainToken 1 deactivating.chain ⟨2, 300, .withdrawStake⟩).isSome := by
    decide +kernel
  obtain ⟨since, held, waited⟩ := (eachInput_cons.mp unbonded).1 rfl paid
  rw [Option.some.inj (held.symm.trans deactivating_since)] at waited
  exact absurd waited (by decide)

end Chainmail.DMailToken
