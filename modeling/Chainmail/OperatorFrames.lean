import Chainmail.TokenHistory

/-!
What an operator cannot touch. The calls that run a relay node write the record of
their sender, move its tokens to or from the contract and claim a free peer id.
-/

namespace Chainmail.DMailToken

open Chainmail.Solidity

variable {Ledger : Type}

/-- Nothing of another wallet is written on the way from `before` to `after`. -/
structure Untouched (token : ERC20 Ledger) (contract caller : Address)
    (before after : State Ledger) : Prop where
  records : ∀ wallet, wallet ≠ caller → after.relayNodes wallet = before.relayNodes wallet
  balances : ∀ wallet, wallet ≠ caller → wallet ≠ contract →
    token.balanceOf after.ledger wallet = token.balanceOf before.ledger wallet
  peerIds : ∀ peerId, before.peerIdToWallet peerId ≠ 0 →
    after.peerIdToWallet peerId = before.peerIdToWallet peerId
  positions : before.registeredNodes <+: after.registeredNodes
  minStake : after.minStake = before.minStake

variable {token : ERC20 Ledger} {contract caller : Address} {before after : State Ledger}

theorem Untouched.refl (state : State Ledger) : Untouched token contract caller state state :=
  ⟨fun _ _ => rfl, fun _ _ _ => rfl, fun _ _ => rfl, List.prefix_refl _, rfl⟩

/-- The caller's record and its tokens are written, and nothing else. -/
theorem untouched_setNode {node : RelayNode}
    (relayNodes : after.relayNodes = Function.update before.relayNodes caller node)
    (balances : ∀ wallet, wallet ≠ caller → wallet ≠ contract →
      token.balanceOf after.ledger wallet = token.balanceOf before.ledger wallet)
    (peerIdToWallet : after.peerIdToWallet = before.peerIdToWallet)
    (registeredNodes : after.registeredNodes = before.registeredNodes)
    (minStake : after.minStake = before.minStake) :
    Untouched token contract caller before after where
  records wallet other := by rw [relayNodes, Function.update_of_ne other]
  balances := balances
  peerIds peerId _ := by rw [peerIdToWallet]
  positions := by rw [registeredNodes]
  minStake := minStake

theorem moved_other (balance : Address → Nat) {sender receiver account : Address} (value : Nat)
    (apart : account ≠ sender) (also : account ≠ receiver) :
    moved balance sender receiver value account = balance account := by
  simp [moved, apart, also]

theorem transfer_other (lawful : OpenZeppelin token) {sender receiver : Address} {value : Nat}
    {ledger paid : Ledger} (transferred : token.transfer sender receiver value ledger = some paid)
    {wallet : Address} (apart : wallet ≠ sender) (also : wallet ≠ receiver) :
    token.balanceOf paid wallet = token.balanceOf ledger wallet := by
  rw [lawful.transfer_balance transferred, moved_other _ _ apart also]

theorem untouched_executed (lawful : OpenZeppelin token) {now : Nat} {call : Call}
    (operator : call.node = true)
    (done : Executed token contract caller now before call after) :
    Untouched token contract caller before after := by
  cases done with
  | @registered claimed ledger fresh unclaimed paid =>
      constructor
      case records =>
        intro wallet other
        simp only [setNode, Function.update_of_ne other]
      case balances =>
        intro wallet other outside
        exact transfer_other lawful paid other outside
      case peerIds =>
        intro peerId taken
        have different : peerId ≠ claimed := by
          rintro rfl
          exact taken unclaimed
        exact Function.update_of_ne different _ _
      case positions => exact List.prefix_append _ _
      case minStake => rfl
  | staked active paid =>
      refine untouched_setNode rfl (fun wallet other outside => ?_) rfl rfl rfl
      exact transfer_other lawful paid other outside
  | claimed active owed paid =>
      refine untouched_setNode rfl (fun wallet other outside => ?_) rfl rfl rfl
      exact transfer_other lawful paid outside other
  | deactivated active => exact untouched_setNode rfl (fun _ _ _ => rfl) rfl rfl rfl
  | withdrawn inactive positive paid =>
      refine untouched_setNode rfl (fun wallet other outside => ?_) rfl rfl rfl
      exact transfer_other lawful paid outside other
  | aside plain _ =>
      rw [plain] at operator
      cases operator

theorem untouched_transact (lawful : OpenZeppelin token) (chain : Chain Ledger) {tx : Transaction}
    (operator : tx.call.node = true) :
    Untouched token contract tx.sender chain.state (transact token contract chain tx).state := by
  rcases transact_cases chain tx with ⟨_, moved⟩ | ⟨after, _, done, moved⟩
  · rw [moved]
    exact Untouched.refl _
  · rw [moved]
    exact untouched_executed lawful operator done

/-- In every state, a call that runs a relay node leaves the records and the balances of
    the other wallets, the peer ids that are taken, the positions on the list and the
    minimum stake; and one that reverts leaves everything. -/
theorem operators_apart (lawful : OpenZeppelin token) (chain : Chain Ledger) {tx : Transaction}
    (operator : tx.call.node = true) :
    Untouched token contract tx.sender chain.state (transact token contract chain tx).state ∧
      (attempt token contract chain tx = none →
        (transact token contract chain tx).state = chain.state) := by
  refine ⟨untouched_transact lawful chain operator, fun reverted => ?_⟩
  rw [transact, reverted, Option.getD_none]

/-- An operator adds to its stake. -/
def topUp : Transaction := ⟨2, 300, .addStake 5⟩

theorem topUp_apart :
    Untouched plainToken 1 topUp.sender (enlist 7).chain.state
        (transact plainToken 1 (enlist 7).chain topUp).state ∧
      (attempt plainToken 1 (enlist 7).chain topUp = none →
        (transact plainToken 1 (enlist 7).chain topUp).state = (enlist 7).chain.state) :=
  operators_apart plainToken_lawful _ rfl

/-- The later transactions run relay nodes, none of them that of the wallet. -/
def OthersOperate (wallet : Address) (later : List Transaction) : Prop :=
  ∀ tx, tx ∈ later → tx.sender ≠ wallet ∧ tx.call.node = true

/-- However many operators call, a wallet that does not keeps its record and its tokens. -/
theorem bystander_kept (lawful : OpenZeppelin token) (start : Chain Ledger) {wallet : Address}
    (outside : wallet ≠ contract) (earlier : List Transaction) {later : List Transaction}
    (others : OthersOperate wallet later) :
    (replay token contract start (later ++ earlier)).state.relayNodes wallet =
        (replay token contract start earlier).state.relayNodes wallet ∧
      token.balanceOf (replay token contract start (later ++ earlier)).state.ledger wallet =
        token.balanceOf (replay token contract start earlier).state.ledger wallet := by
  induction later with
  | nil => exact ⟨rfl, rfl⟩
  | cons tx rest ih =>
      obtain ⟨other, operator⟩ := others tx List.mem_cons_self
      obtain ⟨record, balance⟩ := ih fun other member => others other (List.mem_cons_of_mem _ member)
      have step : Untouched token contract tx.sender _ _ :=
        untouched_transact lawful (replay token contract start (rest ++ earlier)) operator
      rw [List.cons_append, replay]
      constructor
      · rw [step.records wallet other.symm, record]
      · rw [step.balances wallet other.symm outside, balance]

end Chainmail.DMailToken
