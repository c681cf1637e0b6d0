import Chainmail.TokenHistory

/-!
The list of relay nodes, the map of their peer ids and their records. The list names
each wallet once as long as none registers again, which the check of the old peer id
keeps from happening unless that id is zero.
-/

namespace Chainmail.DMailToken

open Chainmail.Solidity

variable {Ledger : Type}

structure Consistent (state : State Ledger) : Prop where
  distinct : state.registeredNodes.Nodup
  forward : ∀ wallet, wallet ∈ state.registeredNodes →
    state.peerIdToWallet (state.relayNodes wallet).peerId = wallet
  backward : ∀ peerId, state.peerIdToWallet peerId ≠ 0 →
    (state.relayNodes (state.peerIdToWallet peerId)).peerId = peerId
  counted : getActiveNodeCount state =
    (Finset.univ.filter fun wallet => (state.relayNodes wallet).isActive = true).card

/-- A wallet on the list registers once more. -/
def Reregisters (token : ERC20 Ledger) (contract : Address) (start : Chain Ledger)
    (tx : Transaction) (earlier : List Transaction) : Prop :=
  Registers token (replay token contract start earlier).state tx ∧
    tx.sender ∈ (replay token contract start earlier).state.registeredNodes

variable {token : ERC20 Ledger} {contract : Address} {start : Chain Ledger}

theorem Enrolled.counted {chain : Chain Ledger} (enrolled : Enrolled chain)
    (distinct : chain.state.registeredNodes.Nodup) :
    getActiveNodeCount chain.state =
      (Finset.univ.filter fun wallet => (chain.state.relayNodes wallet).isActive = true).card := by
  have members : (Finset.univ.filter fun wallet =>
      (chain.state.relayNodes wallet).isActive = true) =
      (chain.state.registeredNodes.filter fun wallet =>
        (chain.state.relayNodes wallet).isActive).toFinset := by
    ext wallet
    simp only [Finset.mem_filter, Finset.mem_univ, true_and, List.mem_toFinset, List.mem_filter]
    constructor
    · intro active
      exact ⟨enrolled.active_listed active, active⟩
    · rintro ⟨_, active⟩
      exact active
  rw [members, List.toFinset_card_of_nodup (distinct.filter _), getActiveNodeCount,
    List.countP_eq_length_filter]

section Step
variable {chain : Chain Ledger} {tx : Transaction}

/-- A record is written that keeps its peer id. -/
theorem Consistent.setNode {before after : State Ledger} (consistent : Consistent before)
    {wallet : Address} {node : RelayNode}
    (relayNodes : after.relayNodes = Function.update before.relayNodes wallet node)
    (peerIdToWallet : after.peerIdToWallet = before.peerIdToWallet)
    (registeredNodes : after.registeredNodes = before.registeredNodes)
    (kept : node.peerId = (before.relayNodes wallet).peerId)
    (counted : after.registeredNodes.Nodup → getActiveNodeCount after =
      (Finset.univ.filter fun wallet => (after.relayNodes wallet).isActive = true).card) :
    Consistent after := by
  have peerIds : ∀ other, (after.relayNodes other).peerId = (before.relayNodes other).peerId := by
    intro other
    rw [relayNodes]
    by_cases same : other = wallet
    · rw [same, Function.update_self]
      exact kept
    · rw [Function.update_of_ne same]
  have distinct : after.registeredNodes.Nodup := registeredNodes ▸ consistent.distinct
  constructor
  case distinct => exact distinct
  case forward =>
    intro other listed
    rw [registeredNodes] at listed
    rw [peerIds, peerIdToWallet]
    exact consistent.forward other listed
  case backward =>
    intro peerId named
    rw [peerIdToWallet] at named ⊢
    rw [peerIds]
    exact consistent.backward peerId named
  case counted => exact counted distinct

theorem consistent_step (lawful : OpenZeppelin token) (enrolled : Enrolled chain)
    (later : chain.now ≤ tx.now) (consistent : Consistent chain.state)
    (other : ¬ Registered token contract chain tx) :
    Consistent (transact token contract chain tx).state := by
  have stays : Enrolled (transact token contract chain tx) := enrolled.transact lawful later
  have counted := stays.counted
  rcases transact_cases chain tx with ⟨_, moved⟩ | ⟨after, went, done, moved⟩
  · rw [moved]
    exact consistent
  · rw [moved] at counted ⊢
    obtain ⟨sender, now, call⟩ := tx
    cases done with
    | registered => exact absurd ⟨_, rfl, Option.isSome_of_mem went⟩ other
    | staked => exact consistent.setNode rfl rfl rfl rfl counted
    | claimed => exact consistent.setNode rfl rfl rfl rfl counted
    | deactivated => exact consistent.setNode rfl rfl rfl rfl counted
    | withdrawn => exact consistent.setNode rfl rfl rfl rfl counted
    | aside _ same =>
        have unwritten : after.relayNodes = Function.update chain.state.relayNodes sender
            (chain.state.relayNodes sender) := by
          rw [same.relayNodes, Function.update_eq_self]
        exact consistent.setNode unwritten same.peerIdToWallet same.registeredNodes rfl counted

theorem consistent_register_iff (lawful : OpenZeppelin token) (enrolled : Enrolled chain)
    (later : chain.now ≤ tx.now) (consistent : Consistent chain.state)
    (registered : Registered token contract chain tx) :
    Consistent (transact token contract chain tx).state ↔
      tx.sender ∉ chain.state.registeredNodes := by
  have stays : Enrolled (transact token contract chain tx) := enrolled.transact lawful later
  have counted := stays.counted
  obtain ⟨peerId, ledger, _, _, unclaimed, paid, moved⟩ := registered_cases registered
  rw [moved] at counted ⊢
  have sent := (lawful.transfer_some paid).1
  constructor
  · intro after listed
    have distinct := after.distinct
    rw [List.nodup_append] at distinct
    exact distinct.2.2 tx.sender listed tx.sender (List.mem_singleton_self _) rfl
  · intro unlisted
    have distinct : (chain.state.registeredNodes ++ [tx.sender]).Nodup := by
      rw [List.nodup_append]
      refine ⟨consistent.distinct, List.nodup_singleton _, ?_⟩
      rintro wallet listed _ last rfl
      rw [List.mem_singleton.mp last] at listed
      exact unlisted listed
    constructor
    case distinct => exact distinct
    case forward =>
      intro wallet listed
      by_cases own : wallet = tx.sender
      · rw [own]
        simp [setNode]
      · have old : wallet ∈ chain.state.registeredNodes := by
          simpa [own] using listed
        have forward := consistent.forward wallet old
        have different : (chain.state.relayNodes wallet).peerId ≠ peerId := by
          intro same
          rw [same, unclaimed] at forward
          exact enrolled.someone wallet old forward.symm
        simp only [setNode, Function.update_of_ne own, Function.update_of_ne different]
        exact forward
    case backward =>
      intro named taken
      by_cases same : named = peerId
      · rw [same]
        simp [setNode]
      · simp only [Function.update_of_ne same] at taken ⊢
        have old := enrolled.owned named taken
        have own : chain.state.peerIdToWallet named ≠ tx.sender := by
          intro same
          rw [same] at old
          exact unlisted old
        simp only [setNode, Function.update_of_ne own]
        exact consistent.backward named taken
    case counted => exact counted distinct

end Step

theorem consistent_deployed (deployed : Deployed token contract start) : Consistent start.state := by
  have enrolled := enrolled_deployed deployed
  obtain ⟨_, peerIdToWallet, registeredNodes, _⟩ := deployed_state deployed
  have distinct : start.state.registeredNodes.Nodup := registeredNodes ▸ List.nodup_nil
  constructor
  case distinct => exact distinct
  case forward =>
    intro wallet listed
    rw [registeredNodes] at listed
    cases listed
  case backward =>
    intro peerId named
    rw [peerIdToWallet] at named
    exact absurd rfl named
  case counted => exact enrolled.counted distinct

/-- In every history, the list, the map and the records of the relay nodes agree at
    every moment just when no wallet on the list registers once more. -/
theorem registry_consistent_iff (lawful : OpenZeppelin token) (history : History token contract) :
    Always (fun past => Consistent (replay token contract history.start past).state) history.past ↔
      EachInput (fun tx earlier => ¬ Reregisters token contract history.start tx earlier)
        history.past := by
  apply always_iff_each history.sent
  · exact consistent_deployed history.deployed
  · intro tx earlier sent consistent
    obtain ⟨⟨later, _⟩, before⟩ := eachInput_cons.mp sent
    have enrolled := enrolled_replay lawful history.deployed before
    by_cases registered : Registered token contract (replay token contract history.start earlier) tx
    · have registers := registers_of_registered lawful registered
      rw [replay, consistent_register_iff lawful enrolled later consistent registered]
      exact not_congr ⟨fun listed => ⟨registers, listed⟩, fun again => again.2⟩
    · refine iff_of_true (consistent_step lawful enrolled later consistent registered) ?_
      rintro ⟨registers, listed⟩
      have solvent := solvent_replay lawful history.deployed before
      exact registered (registered_of_registers lawful solvent.deployed
        (enrolled.someone _ listed) registers)

/-! The deployer of the contract at address 1 registers and pays another wallet, which
registers as well, tries again under another peer id, and leaves. Or the deployer's peer id
is zero, and it registers under another. -/

def enlistBoth : History plainToken 1 :=
  ((((enlist 5).send ⟨2, 210, .transfer 3 10_000_000_000_000_000_000_000⟩ (by decide)
    (by decide +kernel)).send ⟨3, 220, .registerRelayNode 6⟩ (by decide) (by decide +kernel)).send
    ⟨3, 230, .registerRelayNode 7⟩ (by decide) (by decide +kernel)).send
    ⟨3, 240, .deactivateNode⟩ (by decide) (by decide +kernel)

theorem not_reregisters_of_other {start : Chain Ledger} {earlier : List Transaction}
    {sender : Address} {now : Nat} {call : Call} (other : ∀ peerId, call ≠ .registerRelayNode peerId) :
    ¬ Reregisters token contract start ⟨sender, now, call⟩ earlier := by
  rintro ⟨⟨peerId, called, _⟩, _⟩
  exact other peerId called

theorem not_reregisters_of_unlisted {start : Chain Ledger} {earlier : List Transaction}
    {tx : Transaction}
    (unlisted : tx.sender ∉ (replay token contract start earlier).state.registeredNodes) :
    ¬ Reregisters token contract start tx earlier :=
  fun again => unlisted again.2

theorem not_reregisters_of_named {start : Chain Ledger} {earlier : List Transaction}
    {tx : Transaction}
    (named : ((replay token contract start earlier).state.relayNodes tx.sender).peerId ≠ 0) :
    ¬ Reregisters token contract start tx earlier := by
  rintro ⟨⟨_, _, unnamed, _⟩, _⟩
  exact named unnamed

theorem enlistBoth_consistent :
    Always (fun past => Consistent (replay plainToken 1 enlistBoth.start past).state)
      enlistBoth.past ∧
    (replay plainToken 1 enlistBoth.start enlistBoth.past).state.registeredNodes = [2, 3] := by
  refine ⟨(registry_consistent_iff plainToken_lawful enlistBoth).mpr ?_, by decide +kernel⟩
  refine eachInput_cons.mpr ⟨?_, eachInput_cons.mpr ⟨?_, eachInput_cons.mpr ⟨?_,
    eachInput_cons.mpr ⟨?_, eachInput_cons.mpr ⟨?_, eachInput_nil⟩⟩⟩⟩⟩
  · exact not_reregisters_of_other (by simp)
  · exact not_reregisters_of_named (by decide +kernel)
  · exact not_reregisters_of_unlisted (by decide +kernel)
  · exact not_reregisters_of_other (by simp)
  · exact not_reregisters_of_unlisted (by decide +kernel)

theorem registered_twice :
    ¬ Always (fun past => Consistent (replay plainToken 1 reenlist.start past).state)
      reenlist.past := by
  intro consistent
  have distinct := (consistent reenlist.past (List.suffix_refl _)).distinct
  revert distinct
  decide +kernel

end Chainmail.DMailToken
