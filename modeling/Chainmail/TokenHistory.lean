import Chainmail.TokenSolvency

/-!
Histories of the token contract: all transactions since its deployment, the last
one first. What was paid or claimed in a history is counted over its transactions,
for the contract keeps no such records.
-/

namespace Chainmail.DMailToken

open Chainmail.Solidity

variable {Ledger : Type}

structure Transaction where
  sender : Address
  now : Nat
  call : Call

section Replay
variable (token : ERC20 Ledger) (contract : Address)

def attempt (chain : Chain Ledger) (tx : Transaction) : Option (State Ledger) :=
  execute token contract tx.sender tx.now chain.state tx.call

/-- A call that reverts still moves the time on. -/
def transact (chain : Chain Ledger) (tx : Transaction) : Chain Ledger :=
  ⟨(attempt token contract chain tx).getD chain.state, tx.now⟩

def replay (start : Chain Ledger) : List Transaction → Chain Ledger
  | [] => start
  | tx :: earlier => transact token contract (replay start earlier) tx

/-- Blocks follow each other in time, and the contract sends nothing. -/
def Sent (start : Chain Ledger) (tx : Transaction) (earlier : List Transaction) : Prop :=
  (replay token contract start earlier).now ≤ tx.now ∧ tx.sender ≠ contract

/-- A registration that passes every check of `registerRelayNode`. -/
def Registers (state : State Ledger) (tx : Transaction) : Prop :=
  ∃ peerId, tx.call = .registerRelayNode peerId ∧ (state.relayNodes tx.sender).peerId = 0 ∧
    state.peerIdToWallet peerId = 0 ∧ state.minStake ≤ token.balanceOf state.ledger tx.sender

structure History where
  start : Chain Ledger
  past : List Transaction
  deployed : Deployed token contract start
  sent : EachInput (Sent token contract start) past

end Replay

variable {token : ERC20 Ledger} {contract : Address} {start : Chain Ledger}

def History.chain (history : History token contract) : Chain Ledger :=
  replay token contract history.start history.past

/-- The history with one more transaction. -/
def History.send (history : History token contract) (tx : Transaction)
    (later : history.chain.now ≤ tx.now) (external : tx.sender ≠ contract) :
    History token contract where
  start := history.start
  past := tx :: history.past
  deployed := history.deployed
  sent := eachInput_cons.mpr ⟨⟨later, external⟩, history.sent⟩

theorem reachable_replay (deployed : Deployed token contract start) {past : List Transaction}
    (sent : EachInput (Sent token contract start) past) :
    Reachable (Deployed token contract) (Step token contract) (replay token contract start past) := by
  induction past with
  | nil => exact .start deployed
  | cons tx earlier ih =>
      obtain ⟨⟨later, external⟩, before⟩ := eachInput_cons.mp sent
      exact .next (ih before) (.call _ tx.sender tx.now tx.call later external)

/-- The reachable states are the last ones of the histories. -/
theorem reachable_iff_history {chain : Chain Ledger} :
    Reachable (Deployed token contract) (Step token contract) chain ↔
      ∃ history : History token contract, history.chain = chain := by
  constructor
  · intro reached
    induction reached with
    | start deployed => exact ⟨⟨_, [], deployed, eachInput_nil⟩, rfl⟩
    | next _ taken ih =>
        obtain ⟨history, rfl⟩ := ih
        obtain ⟨sender, now, call, later, external⟩ := taken
        exact ⟨history.send ⟨sender, now, call⟩ later external, rfl⟩
  · rintro ⟨history, rfl⟩
    exact reachable_replay history.deployed history.sent

theorem solvent_replay (lawful : OpenZeppelin token) (deployed : Deployed token contract start)
    {past : List Transaction} (sent : EachInput (Sent token contract start) past) :
    Solvent token contract (replay token contract start past).state :=
  solvent_reachable lawful _ (reachable_replay deployed sent)

theorem transact_cases (chain : Chain Ledger) (tx : Transaction) :
    (attempt token contract chain tx = none ∧
      transact token contract chain tx = ⟨chain.state, tx.now⟩) ∨
    ∃ after, attempt token contract chain tx = some after ∧
      Executed token contract tx.sender tx.now chain.state tx.call after ∧
      transact token contract chain tx = ⟨after, tx.now⟩ := by
  unfold transact
  cases done : attempt token contract chain tx with
  | none => exact Or.inl ⟨rfl, rfl⟩
  | some after => exact Or.inr ⟨after, rfl, execute_some done, rfl⟩

/-- Only its own wallet changes a record. -/
theorem node_foreign {chain : Chain Ledger} {tx : Transaction} {wallet : Address}
    (foreign : wallet ≠ tx.sender) :
    (transact token contract chain tx).state.relayNodes wallet = chain.state.relayNodes wallet := by
  obtain ⟨sender, now, call⟩ := tx
  rcases transact_cases chain ⟨sender, now, call⟩ with ⟨_, moved⟩ | ⟨after, _, done, moved⟩
  · rw [moved]
  · rw [moved]
    cases done with
    | aside _ same => rw [same.relayNodes]
    | _ => simp only [setNode, Function.update_of_ne foreign]

/-- The transaction is a registration and goes through. -/
def Registered (token : ERC20 Ledger) (contract : Address) (chain : Chain Ledger)
    (tx : Transaction) : Prop :=
  ∃ peerId, tx.call = .registerRelayNode peerId ∧ (attempt token contract chain tx).isSome

theorem registered_of_registers (lawful : OpenZeppelin token) {chain : Chain Ledger}
    {tx : Transaction} (contractual : contract ≠ 0) (someone : tx.sender ≠ 0)
    (registers : Registers token chain.state tx) : Registered token contract chain tx := by
  obtain ⟨peerId, called, fresh, unclaimed, funded⟩ := registers
  obtain ⟨ledger, paid⟩ := Option.isSome_iff_exists.mp
    ((lawful.transfer_iff tx.sender contract chain.state.minStake chain.state.ledger).mpr
      ⟨someone, contractual, funded⟩)
  refine ⟨peerId, called, ?_⟩
  simp [attempt, called, execute, registerRelayNode, require_pos fresh, require_pos unclaimed,
    require_pos funded, paid]

/-- All that a registration that goes through can do. -/
theorem registered_cases {chain : Chain Ledger} {tx : Transaction}
    (registered : Registered token contract chain tx) :
    ∃ peerId ledger, tx.call = .registerRelayNode peerId ∧
      (chain.state.relayNodes tx.sender).peerId = 0 ∧ chain.state.peerIdToWallet peerId = 0 ∧
      token.transfer tx.sender contract chain.state.minStake chain.state.ledger = some ledger ∧
      transact token contract chain tx =
        ⟨{ setNode tx.sender ⟨peerId, chain.state.minStake, tx.now, tx.now, 0, true⟩ chain.state with
          ledger := ledger
          peerIdToWallet := Function.update chain.state.peerIdToWallet peerId tx.sender
          registeredNodes := chain.state.registeredNodes ++ [tx.sender] }, tx.now⟩ := by
  obtain ⟨peerId, called, went⟩ := registered
  obtain ⟨after, done⟩ := Option.isSome_iff_exists.mp went
  have moved : transact token contract chain tx = ⟨after, tx.now⟩ := by
    rw [transact, done, Option.getD_some]
  rw [attempt, called] at done
  obtain ⟨fresh, unclaimed, ledger, paid, rfl⟩ := registerRelayNode_cases done
  exact ⟨peerId, ledger, called, fresh, unclaimed, paid, moved⟩

theorem registers_of_registered (lawful : OpenZeppelin token) {chain : Chain Ledger}
    {tx : Transaction} (registered : Registered token contract chain tx) :
    Registers token chain.state tx := by
  obtain ⟨peerId, ledger, called, fresh, unclaimed, paid, _⟩ := registered_cases registered
  exact ⟨peerId, called, fresh, unclaimed, (lawful.transfer_some paid).2.2⟩

/-- The records of the relay nodes belong to the wallets on the list. -/
structure Enrolled (chain : Chain Ledger) : Prop where
  listed : ∀ wallet, wallet ∉ chain.state.registeredNodes →
    chain.state.relayNodes wallet = unregistered
  owned : ∀ peerId, chain.state.peerIdToWallet peerId ≠ 0 →
    chain.state.peerIdToWallet peerId ∈ chain.state.registeredNodes
  someone : ∀ wallet, wallet ∈ chain.state.registeredNodes → wallet ≠ 0
  claimed : ∀ wallet, (chain.state.relayNodes wallet).lastClaimTime ≤ chain.now

theorem Enrolled.active_listed {chain : Chain Ledger} (enrolled : Enrolled chain) {wallet : Address}
    (active : (chain.state.relayNodes wallet).isActive = true) :
    wallet ∈ chain.state.registeredNodes := by
  by_contra unlisted
  rw [enrolled.listed wallet unlisted] at active
  cases active

theorem Enrolled.staked_listed {chain : Chain Ledger} (enrolled : Enrolled chain) {wallet : Address}
    (staked : 0 < (chain.state.relayNodes wallet).stakedAmount) :
    wallet ∈ chain.state.registeredNodes := by
  by_contra unlisted
  rw [enrolled.listed wallet unlisted] at staked
  exact absurd staked (Nat.lt_irrefl 0)

section Step
variable {chain : Chain Ledger} {now : Nat}

theorem Enrolled.wait (enrolled : Enrolled chain) (later : chain.now ≤ now) :
    Enrolled ⟨chain.state, now⟩ where
  listed := enrolled.listed
  owned := enrolled.owned
  someone := enrolled.someone
  claimed wallet := (enrolled.claimed wallet).trans later

/-- A wallet on the list gets another record. -/
theorem Enrolled.setNode (enrolled : Enrolled chain) (later : chain.now ≤ now) {after : State Ledger}
    {wallet : Address} {node : RelayNode} (listed : wallet ∈ chain.state.registeredNodes)
    (relayNodes : after.relayNodes = Function.update chain.state.relayNodes wallet node)
    (peerIdToWallet : after.peerIdToWallet = chain.state.peerIdToWallet)
    (registeredNodes : after.registeredNodes = chain.state.registeredNodes)
    (recent : node.lastClaimTime ≤ now) :
    Enrolled ⟨after, now⟩ := by
  constructor
  case listed =>
    intro other unlisted
    rw [registeredNodes] at unlisted
    have different : other ≠ wallet := by
      rintro rfl
      exact unlisted listed
    rw [relayNodes, Function.update_of_ne different]
    exact enrolled.listed other unlisted
  case owned =>
    rw [peerIdToWallet, registeredNodes]
    exact enrolled.owned
  case someone =>
    rw [registeredNodes]
    exact enrolled.someone
  case claimed =>
    intro other
    rw [relayNodes]
    by_cases same : other = wallet
    · rw [same, Function.update_self]
      exact recent
    · rw [Function.update_of_ne same]
      exact (enrolled.claimed other).trans later

theorem Enrolled.register (enrolled : Enrolled chain) (later : chain.now ≤ now)
    {sender : Address} {peerId : Bytes32} {stake : Nat} {ledger : Ledger} (sent : sender ≠ 0) :
    Enrolled ⟨{ DMailToken.setNode sender ⟨peerId, stake, now, now, 0, true⟩ chain.state with
      ledger := ledger
      peerIdToWallet := Function.update chain.state.peerIdToWallet peerId sender
      registeredNodes := chain.state.registeredNodes ++ [sender] }, now⟩ := by
  constructor
  case listed =>
    intro other unlisted
    simp only [List.mem_append, List.mem_singleton, not_or] at unlisted
    simp only [DMailToken.setNode, Function.update_of_ne unlisted.2]
    exact enrolled.listed other unlisted.1
  case owned =>
    intro other named
    simp only [List.mem_append, List.mem_singleton] at named ⊢
    by_cases same : other = peerId
    · rw [same, Function.update_self]
      exact Or.inr rfl
    · rw [Function.update_of_ne same] at named ⊢
      exact Or.inl (enrolled.owned other named)
  case someone =>
    intro other listed
    simp only [List.mem_append, List.mem_singleton] at listed
    rcases listed with listed | rfl
    · exact enrolled.someone other listed
    · exact sent
  case claimed =>
    intro other
    by_cases same : other = sender
    · rw [same]
      simp [DMailToken.setNode]
    · simp only [DMailToken.setNode, Function.update_of_ne same]
      exact (enrolled.claimed other).trans later

theorem Enrolled.executed (lawful : OpenZeppelin token) (enrolled : Enrolled chain)
    (later : chain.now ≤ now) {sender : Address} {call : Call} {after : State Ledger}
    (done : Executed token contract sender now chain.state call after) : Enrolled ⟨after, now⟩ := by
  cases done with
  | registered _ _ paid => exact enrolled.register later (lawful.transfer_some paid).1
  | staked active _ =>
      exact enrolled.setNode later (enrolled.active_listed active) rfl rfl rfl
        ((enrolled.claimed sender).trans later)
  | claimed active _ _ =>
      exact enrolled.setNode later (enrolled.active_listed active) rfl rfl rfl
        (Nat.le_refl _)
  | deactivated active =>
      exact enrolled.setNode later (enrolled.active_listed active) rfl rfl rfl
        ((enrolled.claimed sender).trans later)
  | withdrawn _ positive _ =>
      exact enrolled.setNode later (enrolled.staked_listed positive) rfl rfl rfl
        ((enrolled.claimed sender).trans later)
  | aside _ same =>
      have waited := enrolled.wait later
      exact ⟨by rw [same.registeredNodes, same.relayNodes]; exact waited.listed,
        by rw [same.registeredNodes, same.peerIdToWallet]; exact waited.owned,
        by rw [same.registeredNodes]; exact waited.someone,
        by rw [same.relayNodes]; exact waited.claimed⟩

theorem Enrolled.transact (lawful : OpenZeppelin token) (enrolled : Enrolled chain)
    {tx : Transaction} (later : chain.now ≤ tx.now) :
    Enrolled (transact token contract chain tx) := by
  rcases transact_cases chain tx with ⟨_, reverted⟩ | ⟨after, _, done, moved⟩
  · rw [reverted]
    exact enrolled.wait later
  · rw [moved]
    exact enrolled.executed lawful later done

end Step

theorem deployed_state (deployed : Deployed token contract start) :
    start.state.relayNodes = (fun _ => unregistered) ∧ start.state.peerIdToWallet = (fun _ => 0) ∧
      start.state.registeredNodes = [] ∧ start.state.relayRewardsDistributed = 0 ∧
      start.state.rewardStartTime = start.now := by
  obtain ⟨deployer, built⟩ := deployed
  simp only [constructor, Option.bind_eq_bind, Option.bind_eq_some_iff, Option.some.injEq] at built
  obtain ⟨_, _, _, _, _, _, done⟩ := built
  rw [← done]
  exact ⟨rfl, rfl, rfl, rfl, rfl⟩

theorem enrolled_deployed (deployed : Deployed token contract start) : Enrolled start := by
  obtain ⟨relayNodes, peerIdToWallet, registeredNodes, _⟩ := deployed_state deployed
  constructor
  case listed =>
    intro wallet _
    rw [relayNodes]
  case owned =>
    intro peerId named
    rw [peerIdToWallet] at named
    exact absurd rfl named
  case someone =>
    intro wallet listed
    rw [registeredNodes] at listed
    cases listed
  case claimed =>
    intro wallet
    rw [relayNodes]
    exact Nat.zero_le _

theorem enrolled_replay (lawful : OpenZeppelin token) (deployed : Deployed token contract start)
    {past : List Transaction} (sent : EachInput (Sent token contract start) past) :
    Enrolled (replay token contract start past) := by
  induction past with
  | nil => exact enrolled_deployed deployed
  | cons tx earlier ih =>
      obtain ⟨⟨later, _⟩, before⟩ := eachInput_cons.mp sent
      exact (ih before).transact lawful later

/-- The rewards start at the deployment, before all that is sent. -/
theorem started_replay (deployed : Deployed token contract start)
    {past : List Transaction} (sent : EachInput (Sent token contract start) past) :
    (replay token contract start past).state.rewardStartTime = start.now ∧
      start.now ≤ (replay token contract start past).now := by
  induction past with
  | nil => exact ⟨(deployed_state deployed).2.2.2.2, Nat.le_refl _⟩
  | cons tx earlier ih =>
      obtain ⟨⟨later, _⟩, before⟩ := eachInput_cons.mp sent
      obtain ⟨started, first⟩ := ih before
      rw [replay]
      rcases transact_cases (replay token contract start earlier) tx with
        ⟨_, moved⟩ | ⟨after, _, done, moved⟩
      · rw [moved]
        exact ⟨started, first.trans later⟩
      · rw [moved]
        refine ⟨?_, first.trans later⟩
        rw [← started]
        obtain ⟨sender, now, call⟩ := tx
        cases done with
        | aside _ same => exact same.started
        | _ => rfl

/-- Nothing sent yet to the contract at address 1. -/
def launch : History plainToken 1 where
  start := launched
  past := []
  deployed := ⟨2, (Option.some_get (by decide +kernel)).symm⟩
  sent := eachInput_nil

/-- The deployer registers a relay node. -/
def enlist (peerId : Bytes32) : History plainToken 1 :=
  launch.send ⟨2, 200, .registerRelayNode peerId⟩ (show 100 ≤ 200 by decide)
    (show (2 : Address) ≠ 1 by decide)

/-- A second registration, which only the peer id zero lets through. -/
def reenlist : History plainToken 1 :=
  (enlist 0).send ⟨2, 300, .registerRelayNode 7⟩ (by decide) (by decide +kernel)

end Chainmail.DMailToken
