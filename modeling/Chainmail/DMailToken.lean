import Chainmail.Erc20

/-!
`contracts/DMailToken.sol`. `contract` is the contract's own address, `sender` and
`now` are `msg.sender` and `block.timestamp` of the call. Events are not state
and are left out.
-/

namespace Chainmail.DMailToken

open Chainmail.Solidity

def TOTAL_SUPPLY : Nat := 1_000_000_000 * 10 ^ 18
def RELAY_REWARDS_POOL : Nat := 400_000_000 * 10 ^ 18
def REWARD_DURATION : Nat := 10 * 365 * 86400

structure RelayNode where
  peerId : Bytes32
  stakedAmount : Nat
  registeredAt : Nat
  lastClaimTime : Nat
  totalRewardsClaimed : Nat
  isActive : Bool

structure State (Ledger : Type) where
  ledger : Ledger
  owner : Address
  relayRewardsDistributed : Nat
  rewardStartTime : Nat
  relayNodes : Address → RelayNode
  peerIdToWallet : Bytes32 → Address
  registeredNodes : List Address
  minStake : Nat

variable {Ledger : Type}

def unregistered : RelayNode :=
  { peerId := 0, stakedAmount := 0, registeredAt := 0, lastClaimTime := 0
    totalRewardsClaimed := 0, isActive := false }

def setNode (wallet : Address) (node : RelayNode) (state : State Ledger) : State Ledger :=
  { state with relayNodes := Function.update state.relayNodes wallet node }

section Functions
variable (token : ERC20 Ledger) (contract : Address)

def constructor (sender : Address) (now : Nat) : Option (State Ledger) := do
  require (sender ≠ 0)
  let ledger ← token.mint sender (TOTAL_SUPPLY - RELAY_REWARDS_POOL) token.deployed
  let ledger ← token.mint contract RELAY_REWARDS_POOL ledger
  some {
    ledger := ledger
    owner := sender
    relayRewardsDistributed := 0
    rewardStartTime := now
    relayNodes := fun _ => unregistered
    peerIdToWallet := fun _ => 0
    registeredNodes := []
    minStake := 10_000 * 10 ^ 18 }

def registerRelayNode (peerId : Bytes32) (sender : Address) (now : Nat) (state : State Ledger) :
    Option (State Ledger) := do
  require ((state.relayNodes sender).peerId = 0)
  require (state.peerIdToWallet peerId = 0)
  require (state.minStake ≤ token.balanceOf state.ledger sender)
  let ledger ← token.transfer sender contract state.minStake state.ledger
  let node := {
    peerId := peerId
    stakedAmount := state.minStake
    registeredAt := now
    lastClaimTime := now
    totalRewardsClaimed := 0
    isActive := true }
  some { setNode sender node state with
    ledger := ledger
    peerIdToWallet := Function.update state.peerIdToWallet peerId sender
    registeredNodes := state.registeredNodes ++ [sender] }

def addStake (amount : Uint256) (sender : Address) (state : State Ledger) :
    Option (State Ledger) := do
  let node := state.relayNodes sender
  require (node.isActive = true)
  require (amount.val ≤ token.balanceOf state.ledger sender)
  let ledger ← token.transfer sender contract amount.val state.ledger
  let stakedAmount ← add node.stakedAmount amount.val
  some { setNode sender { node with stakedAmount := stakedAmount } state with ledger := ledger }

def getActiveNodeCount (state : State Ledger) : Nat :=
  state.registeredNodes.countP fun wallet => (state.relayNodes wallet).isActive

/-- `100 + (stakedAmount * 100 / (minStake * 10))`, capped at 200. -/
def stakeMultiplier (stakedAmount minStake : Nat) : Option Nat := do
  let scaledStake ← mul stakedAmount 100
  let scaledMin ← mul minStake 10
  let bonus ← div scaledStake scaledMin
  let multiplier ← add 100 bonus
  some (if 200 < multiplier then 200 else multiplier)

def calculateRewards (wallet : Address) (now : Nat) (state : State Ledger) : Option Nat :=
  let node := state.relayNodes wallet
  if node.isActive = false then some 0
  else do
    let timeElapsed ← sub now node.lastClaimTime
    let totalActiveNodes := getActiveNodeCount state
    if totalActiveNodes = 0 then some 0
    else do
      let baseRewardPerSecond ← div (RELAY_REWARDS_POOL / REWARD_DURATION) totalActiveNodes
      let multiplier ← stakeMultiplier node.stakedAmount state.minStake
      let elapsedReward ← mul baseRewardPerSecond timeElapsed
      let scaledReward ← mul elapsedReward multiplier
      div scaledReward 100

def claimRewards (sender : Address) (now : Nat) (state : State Ledger) :
    Option (State Ledger) := do
  let node := state.relayNodes sender
  require (node.isActive = true)
  let rewards ← calculateRewards sender now state
  require (0 < rewards)
  let distributed ← add state.relayRewardsDistributed rewards
  require (distributed ≤ RELAY_REWARDS_POOL)
  let totalRewardsClaimed ← add node.totalRewardsClaimed rewards
  let node := { node with lastClaimTime := now, totalRewardsClaimed := totalRewardsClaimed }
  let ledger ← token.transfer contract sender rewards state.ledger
  some { setNode sender node state with
    ledger := ledger
    relayRewardsDistributed := distributed }

def deactivateNode (sender : Address) (state : State Ledger) : Option (State Ledger) := do
  let node := state.relayNodes sender
  require (node.isActive = true)
  some (setNode sender { node with isActive := false } state)

def withdrawStake (sender : Address) (state : State Ledger) : Option (State Ledger) := do
  let node := state.relayNodes sender
  require (node.isActive = false)
  require (0 < node.stakedAmount)
  let ledger ← token.transfer contract sender node.stakedAmount state.ledger
  some { setNode sender { node with stakedAmount := 0 } state with ledger := ledger }

def setMinStake (newMinStake : Uint256) (sender : Address) (state : State Ledger) :
    Option (State Ledger) := do
  require (sender = state.owner)
  some { state with minStake := newMinStake.val }

structure NodeInfo where
  peerId : Bytes32
  stakedAmount : Nat
  registeredAt : Nat
  pendingRewards : Nat
  totalClaimed : Nat
  isActive : Bool

def getNodeInfo (wallet : Address) (now : Nat) (state : State Ledger) : Option NodeInfo := do
  let node := state.relayNodes wallet
  let pendingRewards ← calculateRewards wallet now state
  some {
    peerId := node.peerId
    stakedAmount := node.stakedAmount
    registeredAt := node.registeredAt
    pendingRewards := pendingRewards
    totalClaimed := node.totalRewardsClaimed
    isActive := node.isActive }

/-- `transferOwnership` and `renounceOwnership`, which the contract inherits. -/
def transferOwnership (newOwner sender : Address) (state : State Ledger) :
    Option (State Ledger) := do
  require (sender = state.owner)
  require (newOwner ≠ 0)
  some { state with owner := newOwner }

def renounceOwnership (sender : Address) (state : State Ledger) : Option (State Ledger) := do
  require (sender = state.owner)
  some { state with owner := 0 }

inductive Call where
  | registerRelayNode (peerId : Bytes32)
  | addStake (amount : Uint256)
  | claimRewards
  | deactivateNode
  | withdrawStake
  | setMinStake (newMinStake : Uint256)
  | transferOwnership (newOwner : Address)
  | renounceOwnership
  | transfer (receiver : Address) (value : Uint256)
  | approve (spender : Address) (value : Uint256)
  | transferFrom (owner receiver : Address) (value : Uint256)

def withLedger (state : State Ledger) (ledger : Option Ledger) : Option (State Ledger) :=
  ledger.map fun ledger => { state with ledger := ledger }

def execute (sender : Address) (now : Nat) (state : State Ledger) : Call → Option (State Ledger)
  | .registerRelayNode peerId => registerRelayNode token contract peerId sender now state
  | .addStake amount => addStake token contract amount sender state
  | .claimRewards => claimRewards token contract sender now state
  | .deactivateNode => deactivateNode sender state
  | .withdrawStake => withdrawStake token contract sender state
  | .setMinStake newMinStake => setMinStake newMinStake sender state
  | .transferOwnership newOwner => transferOwnership newOwner sender state
  | .renounceOwnership => renounceOwnership sender state
  | .transfer receiver value =>
      withLedger state (token.transfer sender receiver value.val state.ledger)
  | .approve spender value =>
      withLedger state (token.approve sender spender value.val state.ledger)
  | .transferFrom owner receiver value =>
      withLedger state (token.transferFrom sender owner receiver value.val state.ledger)

/-- The contract and the time of the last block. -/
structure Chain (Ledger : Type) where
  state : State Ledger
  now : Nat

def Deployed (chain : Chain Ledger) : Prop :=
  ∃ deployer, constructor token contract deployer chain.now = some chain.state

-- A call that reverts still moves the time on. The contract calls nobody, so it sends nothing.
inductive Step : Chain Ledger → Chain Ledger → Prop
  | call (chain : Chain Ledger) (sender : Address) (now : Nat) (call : Call)
      (later : chain.now ≤ now) (external : sender ≠ contract) :
      Step chain ⟨(execute token contract sender now chain.state call).getD chain.state, now⟩

end Functions
end Chainmail.DMailToken
