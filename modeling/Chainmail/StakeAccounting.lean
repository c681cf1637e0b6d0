import Chainmail.TokenHistory

/-!
What a wallet has staked against what it paid in and was paid back. A registration
writes the whole record, so it has to be the first of its wallet, and the check that
it is takes the peer id zero for no registration.
-/

namespace Chainmail.DMailToken

open Chainmail.Solidity

variable {Ledger : Type}

def Call.stakes : Call → Bool
  | .registerRelayNode _ | .addStake _ => true
  | _ => false

def Call.withdraws : Call → Bool
  | .withdrawStake => true
  | _ => false

section Statements
variable (token : ERC20 Ledger) (contract : Address) (start : Chain Ledger) (wallet : Address)

/-- What the wallet's balance loses to a stake. -/
def stakePaid (chain : Chain Ledger) (tx : Transaction) : Nat :=
  if tx.sender = wallet ∧ tx.call.stakes = true then
    token.balanceOf chain.state.ledger wallet -
      token.balanceOf (transact token contract chain tx).state.ledger wallet
  else 0

/-- What the wallet's balance gains from a withdrawal. -/
def stakeReturned (chain : Chain Ledger) (tx : Transaction) : Nat :=
  if tx.sender = wallet ∧ tx.call.withdraws = true then
    token.balanceOf (transact token contract chain tx).state.ledger wallet -
      token.balanceOf chain.state.ledger wallet
  else 0

def paidIn : List Transaction → Nat
  | [] => 0
  | tx :: earlier =>
      paidIn earlier + stakePaid token contract wallet (replay token contract start earlier) tx

def paidBack : List Transaction → Nat
  | [] => 0
  | tx :: earlier =>
      paidBack earlier +
        stakeReturned token contract wallet (replay token contract start earlier) tx

/-- The record of the wallet holds what it paid in and was not paid back. -/
def StakeAccounted (past : List Transaction) : Prop :=
  (((replay token contract start past).state.relayNodes wallet).stakedAmount : Int) =
    paidIn token contract start wallet past - paidBack token contract start wallet past

/-- The wallet registers once more while its record holds a stake. -/
def Restakes (tx : Transaction) (earlier : List Transaction) : Prop :=
  tx.sender = wallet ∧ Registers token (replay token contract start earlier).state tx ∧
    0 < ((replay token contract start earlier).state.relayNodes wallet).stakedAmount

end Statements

variable {token : ERC20 Ledger} {contract : Address} {start : Chain Ledger} {wallet : Address}

section Step
variable {chain : Chain Ledger} {tx : Transaction}

theorem stakePaid_foreign (foreign : wallet ≠ tx.sender) :
    stakePaid token contract wallet chain tx = 0 := by
  rw [stakePaid, if_neg]
  rintro ⟨own, _⟩
  exact foreign own.symm

theorem stakeReturned_foreign (foreign : wallet ≠ tx.sender) :
    stakeReturned token contract wallet chain tx = 0 := by
  rw [stakeReturned, if_neg]
  rintro ⟨own, _⟩
  exact foreign own.symm

/-- A payment from the wallet to the contract. -/
theorem stakePaid_own (lawful : OpenZeppelin token) (external : tx.sender ≠ contract)
    (stakes : tx.call.stakes = true) {value : Nat}
    (paid : token.transfer tx.sender contract value chain.state.ledger =
      some (transact token contract chain tx).state.ledger) :
    stakePaid token contract tx.sender chain tx = value := by
  have funded := (lawful.transfer_some paid).2.2
  rw [stakePaid, if_pos ⟨rfl, stakes⟩, lawful.transfer_balance paid,
    moved_sender _ _ external.symm]
  omega

theorem stakeReturned_own (lawful : OpenZeppelin token) (external : tx.sender ≠ contract)
    (withdraws : tx.call.withdraws = true) {value : Nat}
    (paid : token.transfer contract tx.sender value chain.state.ledger =
      some (transact token contract chain tx).state.ledger) :
    stakeReturned token contract tx.sender chain tx = value := by
  rw [stakeReturned, if_pos ⟨rfl, withdraws⟩, lawful.transfer_balance paid,
    moved_receiver _ _ external]
  omega

theorem stakePaid_none (stakes : tx.call.stakes = false) :
    stakePaid token contract wallet chain tx = 0 := by
  simp [stakePaid, stakes]

theorem stakeReturned_none (withdraws : tx.call.withdraws = false) :
    stakeReturned token contract wallet chain tx = 0 := by
  simp [stakeReturned, withdraws]

theorem reverted_unpaid (wallet : Address) (moved : transact token contract chain tx = ⟨chain.state, tx.now⟩) :
    stakePaid token contract wallet chain tx = 0 ∧
      stakeReturned token contract wallet chain tx = 0 := by
  simp [stakePaid, stakeReturned, moved]

theorem Call.plain_stakes {call : Call} (plain : call.node = false) :
    call.stakes = false ∧ call.withdraws = false := by
  cases call <;> simp_all [Call.node, Call.stakes, Call.withdraws]

/-- A registration that goes through leaves the stake it pays, whatever was there. -/
theorem stakedAmount_register (lawful : OpenZeppelin token) (external : tx.sender ≠ contract)
    (registered : Registered token contract chain tx) :
    ((transact token contract chain tx).state.relayNodes tx.sender).stakedAmount =
      stakePaid token contract tx.sender chain tx ∧
        stakeReturned token contract tx.sender chain tx = 0 := by
  obtain ⟨peerId, ledger, called, _, _, paid, moved⟩ := registered_cases registered
  have own : stakePaid token contract tx.sender chain tx = chain.state.minStake := by
    apply stakePaid_own lawful external
    · rw [called]
      rfl
    · rw [moved]
      exact paid
  constructor
  · rw [own, moved]
    simp [setNode]
  · apply stakeReturned_none
    rw [called]
    rfl

/-- Any other call moves the stake of its sender by what is paid. -/
theorem stakedAmount_step (lawful : OpenZeppelin token) (external : tx.sender ≠ contract)
    (other : ¬ Registered token contract chain tx) :
    ((transact token contract chain tx).state.relayNodes tx.sender).stakedAmount +
        stakeReturned token contract tx.sender chain tx =
      (chain.state.relayNodes tx.sender).stakedAmount +
        stakePaid token contract tx.sender chain tx := by
  rcases transact_cases chain tx with ⟨_, moved⟩ | ⟨after, went, done, moved⟩
  · obtain ⟨unpaid, unreturned⟩ := reverted_unpaid tx.sender moved
    rw [unpaid, unreturned, moved]
  · obtain ⟨sender, now, call⟩ := tx
    cases done with
    | registered => exact absurd ⟨_, rfl, Option.isSome_of_mem went⟩ other
    | staked _ paid =>
        rw [stakePaid_own lawful external rfl (by rw [moved]; exact paid),
          stakeReturned_none rfl, moved]
        simp [setNode]
    | claimed =>
        rw [stakePaid_none rfl, stakeReturned_none rfl, moved]
        simp [setNode]
    | deactivated =>
        rw [stakePaid_none rfl, stakeReturned_none rfl, moved]
        simp [setNode]
    | withdrawn _ _ paid =>
        rw [stakePaid_none rfl,
          stakeReturned_own lawful external rfl (by rw [moved]; exact paid), moved]
        simp [setNode]
    | aside plain same =>
        obtain ⟨stakes, withdraws⟩ := Call.plain_stakes plain
        rw [stakePaid_none stakes, stakeReturned_none withdraws, moved, same.relayNodes]

end Step

theorem accounted_step_iff (lawful : OpenZeppelin token) (deployed : Deployed token contract start)
    {tx : Transaction} {earlier : List Transaction}
    (sent : EachInput (Sent token contract start) (tx :: earlier))
    (before : StakeAccounted token contract start wallet earlier) :
    StakeAccounted token contract start wallet (tx :: earlier) ↔
      ¬ Restakes token contract start wallet tx earlier := by
  obtain ⟨⟨_, external⟩, sentBefore⟩ := eachInput_cons.mp sent
  have solvent := solvent_replay lawful deployed sentBefore
  unfold StakeAccounted at *
  rw [paidIn, paidBack, replay]
  by_cases own : wallet = tx.sender
  · subst own
    by_cases registered : Registered token contract (replay token contract start earlier) tx
    · obtain ⟨anew, unreturned⟩ := stakedAmount_register lawful external registered
      rw [anew, unreturned]
      constructor
      · rintro accounted ⟨_, _, staked⟩
        omega
      · intro once
        have unstaked : ¬ 0 < ((replay token contract start earlier).state.relayNodes
            tx.sender).stakedAmount := fun staked =>
          once ⟨rfl, registers_of_registered lawful registered, staked⟩
        omega
    -- Any other call moves the record by just what is paid.
    · have kept := stakedAmount_step lawful external registered
      refine iff_of_true (by omega) ?_
      rintro ⟨_, registers, staked⟩
      have someone := solvent.someone tx.sender (Or.inr staked)
      exact registered (registered_of_registers lawful solvent.deployed someone registers)
  · rw [node_foreign own, stakePaid_foreign own, stakeReturned_foreign own]
    refine iff_of_true (by omega) ?_
    rintro ⟨same, _⟩
    exact own same.symm

/-- In every history, the record of a wallet holds what it paid in and was not paid
    back, at every moment, just when the wallet never registers over a stake. -/
theorem stake_accounted_iff (lawful : OpenZeppelin token) (history : History token contract)
    (wallet : Address) :
    Always (StakeAccounted token contract history.start wallet) history.past ↔
      EachInput (fun tx earlier => ¬ Restakes token contract history.start wallet tx earlier)
        history.past := by
  apply always_iff_each history.sent
  · unfold StakeAccounted
    rw [replay, (deployed_state history.deployed).1]
    rfl
  · intro tx earlier sent before
    exact accounted_step_iff lawful history.deployed sent before

/-! The deployer of the contract at address 1 stakes for a relay node and adds to it;
or registers with the peer id zero and then with another. -/

def topping : History plainToken 1 :=
  (enlist 7).send ⟨2, 300, .addStake 5⟩ (by decide) (by decide +kernel)

theorem topping_accounted :
    Always (StakeAccounted plainToken 1 topping.start 2) topping.past := by
  apply (stake_accounted_iff plainToken_lawful topping 2).mpr
  have once : ¬ Restakes plainToken 1 launched 2 ⟨2, 200, .registerRelayNode 7⟩ [] := by
    rintro ⟨_, _, staked⟩
    revert staked
    decide +kernel
  have added : ¬ Restakes plainToken 1 launched 2 ⟨2, 300, .addStake 5⟩
      [⟨2, 200, .registerRelayNode 7⟩] := by
    rintro ⟨_, ⟨_, called, _⟩, _⟩
    cases called
  exact eachInput_cons.mpr ⟨added, eachInput_cons.mpr ⟨once, eachInput_nil⟩⟩

theorem first_stake_lost :
    ¬ Always (StakeAccounted plainToken 1 reenlist.start 2) reenlist.past := by
  intro accounted
  have last := accounted reenlist.past (List.suffix_refl _)
  revert last
  unfold StakeAccounted
  decide +kernel

end Chainmail.DMailToken
