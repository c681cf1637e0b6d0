import Chainmail.RelayRewards
import Mathlib.Data.Nat.ModEq

/-!
How often a relay node claims. A claim rounds down once, so claiming in parts loses
less than a wei for each part; it gains nothing as long as the divisor of the rate,
the length of the list of active nodes, is the same for all parts.
-/

namespace Chainmail.DMailToken

open Chainmail.Solidity

variable {Ledger : Type}

def Call.claims : Call → Bool
  | .claimRewards => true
  | _ => false

section Rounding

/-- `amount` times a weight in units of `unit`, rounded down. -/
def rounded (weight unit amount : Nat) : Nat := weight * amount / unit

variable {weight unit first second paid made whole : Nat}

theorem rounded_parts : rounded weight unit first + rounded weight unit second ≤
    rounded weight unit (first + second) := by
  rw [rounded, rounded, rounded, Nat.mul_add]
  exact Nat.div_add_div_le_add_div

theorem rounded_whole (positive : 0 < unit) : rounded weight unit (first + second) ≤
    rounded weight unit first + rounded weight unit second + 1 := by
  rw [rounded, rounded, rounded, Nat.mul_add, Nat.add_div positive]
  split <;> omega

theorem elapsed_parts {start last now : Nat} (since : start ≤ last) (waited : last ≤ now) :
    now - start = last - start + (now - last) := by
  omega

/-- `paid` in `made` parts, each of them rounded, against the whole at once. -/
structure Installments (weight unit paid made whole : Nat) : Prop where
  most : paid ≤ rounded weight unit whole
  least : rounded weight unit whole < paid + made ∨ made = 0 ∧ whole = 0

theorem Installments.none : Installments weight unit 0 0 0 :=
  ⟨Nat.zero_le _, Or.inr ⟨rfl, rfl⟩⟩

theorem Installments.next (positive : 0 < unit) (so : Installments weight unit paid made whole)
    (part : Nat) :
    Installments weight unit (paid + rounded weight unit part) (made + 1) (whole + part) := by
  have together : rounded weight unit (whole + part) ≤
      rounded weight unit whole + rounded weight unit part + 1 := rounded_whole positive
  refine ⟨(Nat.add_le_add_right so.most _).trans rounded_parts, Or.inl ?_⟩
  rcases so.least with short | ⟨_, rfl⟩
  · omega
  · rw [Nat.zero_add]
    omega

end Rounding

section Statements
variable (token : ERC20 Ledger) (contract : Address) (start : Chain Ledger) (wallet : Address)

/-- A claim of the wallet that goes through. -/
def Claims (chain : Chain Ledger) (tx : Transaction) : Prop :=
  tx.sender = wallet ∧ tx.call.claims = true ∧ (attempt token contract chain tx).isSome = true

instance (chain : Chain Ledger) (tx : Transaction) :
    Decidable (Claims token contract wallet chain tx) :=
  inferInstanceAs (Decidable (_ ∧ _))

/-- What the wallet's balance gains from its claims among the later transactions. -/
def claimsPaid (earlier : List Transaction) : List Transaction → Nat
  | [] => 0
  | tx :: rest =>
      let chain := replay token contract start (rest ++ earlier)
      claimsPaid earlier rest +
        if Claims token contract wallet chain tx then
          token.balanceOf (transact token contract chain tx).state.ledger wallet -
            token.balanceOf chain.state.ledger wallet
        else 0

def claimsMade (earlier : List Transaction) : List Transaction → Nat
  | [] => 0
  | tx :: rest =>
      claimsMade earlier rest +
        if Claims token contract wallet (replay token contract start (rest ++ earlier)) tx then 1 else 0

/-- The same nodes are active, and the multiplier of the wallet is the same. -/
structure Steady (before after : State Ledger) : Prop where
  active : ∀ other, (after.relayNodes other).isActive = (before.relayNodes other).isActive
  stake : (after.relayNodes wallet).stakedAmount = (before.relayNodes wallet).stakedAmount
  minStake : after.minStake = before.minStake

/-- All the while after the earlier transactions things are steady, and a claim of the
    wallet at the time `finish` is the last thing that happens. -/
structure Claiming (finish : Nat) (later earlier : List Transaction) : Prop where
  sent : EachInput (Sent token contract start) (later ++ earlier)
  steady : EachInput (fun tx rest =>
    Steady wallet (replay token contract start (rest ++ earlier)).state
      (replay token contract start (tx :: rest ++ earlier)).state) later
  last : ∃ tx rest, later = tx :: rest ∧ tx.now = finish ∧
    Claims token contract wallet (replay token contract start (rest ++ earlier)) tx

/-- A wallet whose node is active registers once more. -/
def Rejoins (earlier : List Transaction) (tx : Transaction) (rest : List Transaction) : Prop :=
  Registers token (replay token contract start (rest ++ earlier)).state tx ∧
    ((replay token contract start (rest ++ earlier)).state.relayNodes tx.sender).isActive = true

end Statements

variable {token : ERC20 Ledger} {contract : Address} {start : Chain Ledger} {wallet : Address}

section Formula
variable {before after : State Ledger}

/-- What one second is worth to the wallet, in hundredths of a wei. -/
def secondsWorth (wallet : Address) (state : State Ledger) : Nat :=
  rewardPerSecond / getActiveNodeCount state *
    (stakeMultiplier (state.relayNodes wallet).stakedAmount state.minStake).getD 0

theorem calculateRewards_rounded {state : State Ledger} {now rewards : Nat}
    (active : (state.relayNodes wallet).isActive = true) (counted : 0 < getActiveNodeCount state)
    (owed : calculateRewards wallet now state = some rewards) :
    (state.relayNodes wallet).lastClaimTime ≤ now ∧ rewards =
      rounded (secondsWorth wallet state) 100 (now - (state.relayNodes wallet).lastClaimTime) := by
  obtain ⟨multiplier, computed, claimed, _, _, rfl⟩ :=
    (calculateRewards_some_iff active counted).mp owed
  refine ⟨claimed, ?_⟩
  rw [rounded, secondsWorth, computed, Option.getD_some, Nat.mul_right_comm]

theorem activeNodes_steady (steady : Steady wallet before after)
    (registeredNodes : after.registeredNodes = before.registeredNodes) :
    getActiveNodeCount after = getActiveNodeCount before := by
  rw [getActiveNodeCount, getActiveNodeCount, registeredNodes]
  refine List.countP_congr fun other _ => ?_
  rw [steady.active]

theorem secondsWorth_steady (steady : Steady wallet before after)
    (registeredNodes : after.registeredNodes = before.registeredNodes) :
    secondsWorth wallet after = secondsWorth wallet before := by
  rw [secondsWorth, secondsWorth, activeNodes_steady steady registeredNodes, steady.stake,
    steady.minStake]

end Formula

section Step
variable {chain : Chain Ledger} {tx : Transaction}

theorem unregistered_steady (lawful : OpenZeppelin token)
    (steady : Steady wallet chain.state (transact token contract chain tx).state)
    (once : ¬ (Registers token chain.state tx ∧ (chain.state.relayNodes tx.sender).isActive = true)) :
    ¬ Registered token contract chain tx := by
  intro registered
  apply once
  refine ⟨registers_of_registered lawful registered, ?_⟩
  obtain ⟨peerId, ledger, _, _, _, _, moved⟩ := registered_cases registered
  rw [← steady.active tx.sender, moved]
  simp [setNode]

theorem registeredNodes_step (other : ¬ Registered token contract chain tx) :
    (transact token contract chain tx).state.registeredNodes = chain.state.registeredNodes := by
  rcases transact_cases chain tx with ⟨_, moved⟩ | ⟨after, went, done, moved⟩
  · rw [moved]
  · rw [moved]
    obtain ⟨sender, now, call⟩ := tx
    cases done with
    | registered => exact absurd ⟨_, rfl, Option.isSome_of_mem went⟩ other
    | aside _ same => exact same.registeredNodes
    | _ => rfl

/-- A claim pays for the time since the last one, and becomes the last one. -/
theorem claims_step (lawful : OpenZeppelin token) (enrolled : Enrolled chain)
    (external : tx.sender ≠ contract) (claims : Claims token contract wallet chain tx) :
    token.balanceOf (transact token contract chain tx).state.ledger wallet -
        token.balanceOf chain.state.ledger wallet =
      rounded (secondsWorth wallet chain.state) 100
        (tx.now - (chain.state.relayNodes wallet).lastClaimTime) ∧
    (chain.state.relayNodes wallet).lastClaimTime ≤ tx.now ∧
      ((transact token contract chain tx).state.relayNodes wallet).lastClaimTime = tx.now := by
  obtain ⟨rfl, called, went⟩ := claims
  obtain ⟨after, done⟩ := Option.isSome_iff_exists.mp went
  obtain ⟨sender, now, call⟩ := tx
  cases call with
  | claimRewards =>
      rw [transact, done, Option.getD_some]
      obtain ⟨active, rewards, owed, _, _, ledger, paid, rfl⟩ := claimRewards_cases done
      obtain ⟨claimed, due⟩ :=
        calculateRewards_rounded active (activeNodes_pos enrolled active) owed
      refine ⟨?_, claimed, ?_⟩
      · rw [lawful.transfer_balance paid, moved_receiver _ _ external, due]
        exact Nat.add_sub_cancel_left _ _
      · simp [setNode]
  | _ => cases called

/-- Nothing but its own claims changes when the wallet was last paid. -/
theorem unclaimed_step (other : ¬ Registered token contract chain tx)
    (unclaimed : ¬ Claims token contract wallet chain tx) :
    ((transact token contract chain tx).state.relayNodes wallet).lastClaimTime =
      (chain.state.relayNodes wallet).lastClaimTime := by
  by_cases foreign : wallet = tx.sender
  · subst foreign
    rcases transact_cases chain tx with ⟨_, moved⟩ | ⟨after, went, done, moved⟩
    · rw [moved]
    · rw [moved]
      obtain ⟨sender, now, call⟩ := tx
      cases done with
      | registered => exact absurd ⟨_, rfl, Option.isSome_of_mem went⟩ other
      | claimed => exact absurd ⟨rfl, rfl, Option.isSome_of_mem went⟩ unclaimed
      | aside _ same => rw [same.relayNodes]
      | _ => simp [setNode]
  · rw [node_foreign foreign]

end Step

section Run
variable {earlier later : List Transaction}

/-- What was paid since the earlier transactions, in installments of the time claimed for. -/
structure Progress (token : ERC20 Ledger) (contract : Address) (start : Chain Ledger)
    (wallet : Address) (earlier later : List Transaction) : Prop where
  worth : secondsWorth wallet (replay token contract start (later ++ earlier)).state =
    secondsWorth wallet (replay token contract start earlier).state
  since : ((replay token contract start earlier).state.relayNodes wallet).lastClaimTime ≤
    ((replay token contract start (later ++ earlier)).state.relayNodes wallet).lastClaimTime
  paid : Installments (secondsWorth wallet (replay token contract start earlier).state) 100
    (claimsPaid token contract start wallet earlier later)
    (claimsMade token contract start wallet earlier later)
    (((replay token contract start (later ++ earlier)).state.relayNodes wallet).lastClaimTime -
      ((replay token contract start earlier).state.relayNodes wallet).lastClaimTime)

theorem progress_run (lawful : OpenZeppelin token) (deployed : Deployed token contract start)
    (sent : EachInput (Sent token contract start) (later ++ earlier))
    (steady : EachInput (fun tx rest =>
      Steady wallet (replay token contract start (rest ++ earlier)).state
        (replay token contract start (tx :: rest ++ earlier)).state) later)
    (once : EachInput (fun tx rest => ¬ Rejoins token contract start earlier tx rest) later) :
    Progress token contract start wallet earlier later := by
  induction later with
  | nil => exact ⟨rfl, Nat.le_refl _, by rw [List.nil_append, Nat.sub_self]; exact Installments.none⟩
  | cons tx rest ih =>
      rw [List.cons_append] at sent
      obtain ⟨⟨_, external⟩, sentBefore⟩ := eachInput_cons.mp sent
      obtain ⟨kept, steadyBefore⟩ := eachInput_cons.mp steady
      obtain ⟨first, onceBefore⟩ := eachInput_cons.mp once
      have before := ih sentBefore steadyBefore onceBefore
      have enrolled := enrolled_replay lawful deployed sentBefore
      have other : ¬ Registered token contract (replay token contract start (rest ++ earlier)) tx :=
        unregistered_steady lawful kept first
      have worth := (secondsWorth_steady kept (registeredNodes_step other)).trans before.worth
      -- A claim adds its installment; anything else leaves the time of the last one.
      by_cases claims : Claims token contract wallet (replay token contract start (rest ++ earlier)) tx
      · obtain ⟨part, waited, last⟩ := claims_step lawful enrolled external claims
        have paid := before.paid.next (by decide)
          (tx.now - ((replay token contract start (rest ++ earlier)).state.relayNodes
            wallet).lastClaimTime)
        have since := before.since.trans waited
        refine ⟨worth, ?_, ?_⟩
        · rw [List.cons_append, replay, last]
          exact since
        · rw [List.cons_append, replay, last, claimsPaid, claimsMade, if_pos claims, if_pos claims,
            part, before.worth]
          rw [← elapsed_parts before.since waited] at paid
          exact paid
      · have last := unclaimed_step other claims
        refine ⟨worth, ?_, ?_⟩
        · rw [List.cons_append, replay, last]
          exact before.since
        · rw [List.cons_append, replay, last, claimsPaid, claimsMade, if_neg claims, if_neg claims]
          exact before.paid

theorem claiming_finish (lawful : OpenZeppelin token) (deployed : Deployed token contract start)
    {finish : Nat} (claiming : Claiming token contract start wallet finish later earlier) :
    ((replay token contract start (later ++ earlier)).state.relayNodes wallet).lastClaimTime = finish ∧
      0 < claimsMade token contract start wallet earlier later := by
  obtain ⟨tx, rest, rfl, rfl, claims⟩ := claiming.last
  have sent := claiming.sent
  rw [List.cons_append] at sent
  obtain ⟨⟨_, external⟩, sentBefore⟩ := eachInput_cons.mp sent
  obtain ⟨_, _, last⟩ := claims_step lawful (enrolled_replay lawful deployed sentBefore) external claims
  refine ⟨by rw [List.cons_append, replay, last], ?_⟩
  rw [claimsMade, if_pos claims]
  exact Nat.succ_pos _

/-- After any history, let a wallet claim up to the time `finish` in parts or all at once,
    while the same nodes are active and its stake and the minimum stake stay the same. If
    no wallet with an active node registers again, the parts sum up to no more than the
    whole, and to less by fewer wei than there are parts. -/
theorem cadence_rounding (lawful : OpenZeppelin token) (deployed : Deployed token contract start)
    {parts whole : List Transaction} {finish : Nat}
    (parted : Claiming token contract start wallet finish parts earlier)
    (waited : Claiming token contract start wallet finish whole earlier)
    (single : claimsMade token contract start wallet earlier whole = 1)
    (once : EachInput (fun tx rest => ¬ Rejoins token contract start earlier tx rest) parts)
    (also : EachInput (fun tx rest => ¬ Rejoins token contract start earlier tx rest) whole) :
    claimsPaid token contract start wallet earlier parts ≤
        claimsPaid token contract start wallet earlier whole ∧
      claimsPaid token contract start wallet earlier whole <
        claimsPaid token contract start wallet earlier parts +
          claimsMade token contract start wallet earlier parts := by
  obtain ⟨finished, made⟩ := claiming_finish lawful deployed parted
  obtain ⟨finishedAlso, _⟩ := claiming_finish lawful deployed waited
  have partly := (progress_run lawful deployed parted.sent parted.steady once).paid
  have wholly := (progress_run lawful deployed waited.sent waited.steady also).paid
  rw [finished] at partly
  rw [finishedAlso, single] at wholly
  have most := partly.most
  have exactly := wholly.most
  rcases partly.least with short | ⟨none, _⟩
  · rcases wholly.least with all | ⟨none, _⟩
    · omega
    · omega
  · omega

end Run

/-! The deployer of the contract at address 1 gives another wallet what it needs to run a relay
node. That one claims twice or once; in between, a node registered under the peer id zero may
register again, and is counted twice. -/

section Samples

theorem steady_transact {chain : Chain Ledger} {tx : Transaction}
    (active : ((transact token contract chain tx).state.relayNodes tx.sender).isActive =
      (chain.state.relayNodes tx.sender).isActive)
    (stake : ((transact token contract chain tx).state.relayNodes wallet).stakedAmount =
      (chain.state.relayNodes wallet).stakedAmount)
    (minStake : (transact token contract chain tx).state.minStake = chain.state.minStake) :
    Steady wallet chain.state (transact token contract chain tx).state := by
  refine ⟨fun other => ?_, stake, minStake⟩
  by_cases foreign : other = tx.sender
  · rw [foreign]
    exact active
  · rw [node_foreign foreign]

def funded : Transaction := ⟨2, 150, .transfer 3 10_000_000_000_000_000_000_000⟩

def operating : List Transaction := [⟨3, 200, .registerRelayNode 7⟩, funded]

def halfway : Transaction := ⟨3, 300, .claimRewards⟩

def lastly : Transaction := ⟨3, 400, .claimRewards⟩

theorem launched_deployed : Deployed plainToken 1 launched := launch.deployed

theorem sent_operating : EachInput (Sent plainToken 1 launched) operating :=
  eachInput_cons.mpr ⟨⟨by decide +kernel, by decide⟩,
    eachInput_cons.mpr ⟨⟨by decide +kernel, by decide⟩, eachInput_nil⟩⟩

theorem twice_claiming :
    Claiming plainToken 1 launched 3 400 [lastly, halfway] operating where
  sent := eachInput_cons.mpr ⟨⟨by decide +kernel, by decide⟩,
    eachInput_cons.mpr ⟨⟨by decide +kernel, by decide⟩, sent_operating⟩⟩
  steady := eachInput_cons.mpr
    ⟨steady_transact (by decide +kernel) (by decide +kernel) (by decide +kernel),
    eachInput_cons.mpr ⟨steady_transact (by decide +kernel) (by decide +kernel) (by decide +kernel),
      eachInput_nil⟩⟩
  last := ⟨lastly, [halfway], rfl, rfl, by decide +kernel⟩

theorem once_claiming : Claiming plainToken 1 launched 3 400 [lastly] operating where
  sent := eachInput_cons.mpr ⟨⟨by decide +kernel, by decide⟩, sent_operating⟩
  steady := eachInput_cons.mpr
    ⟨steady_transact (by decide +kernel) (by decide +kernel) (by decide +kernel), eachInput_nil⟩
  last := ⟨lastly, [], rfl, rfl, by decide +kernel⟩

theorem claim_rejoins_not {start : Chain Ledger} {earlier rest : List Transaction} (sender : Address)
    (now : Nat) : ¬ Rejoins token contract start earlier ⟨sender, now, .claimRewards⟩ rest := by
  rintro ⟨⟨_, called, _⟩, _⟩
  cases called

theorem twice_for_once :
    claimsPaid plainToken 1 launched 3 operating [lastly, halfway] ≤
        claimsPaid plainToken 1 launched 3 operating [lastly] ∧
      claimsPaid plainToken 1 launched 3 operating [lastly] <
        claimsPaid plainToken 1 launched 3 operating [lastly, halfway] +
          claimsMade plainToken 1 launched 3 operating [lastly, halfway] :=
  cadence_rounding plainToken_lawful launched_deployed twice_claiming once_claiming
    (by decide +kernel)
    (eachInput_cons.mpr ⟨claim_rejoins_not 3 400,
      eachInput_cons.mpr ⟨claim_rejoins_not 3 300, eachInput_nil⟩⟩)
    (eachInput_cons.mpr ⟨claim_rejoins_not 3 400, eachInput_nil⟩)

/-- The deployer's relay node has the peer id zero. -/
def operatingBoth : List Transaction := ⟨2, 200, .registerRelayNode 0⟩ :: operating

def again : Transaction := ⟨2, 300, .registerRelayNode 9⟩

theorem sent_operatingBoth : EachInput (Sent plainToken 1 launched) operatingBoth :=
  eachInput_cons.mpr ⟨⟨by decide +kernel, by decide⟩, sent_operating⟩

theorem early_claiming :
    Claiming plainToken 1 launched 3 400 [lastly, again, halfway] operatingBoth where
  sent := eachInput_cons.mpr ⟨⟨by decide +kernel, by decide⟩,
    eachInput_cons.mpr ⟨⟨by decide +kernel, by decide⟩,
      eachInput_cons.mpr ⟨⟨by decide +kernel, by decide⟩, sent_operatingBoth⟩⟩⟩
  steady := eachInput_cons.mpr
    ⟨steady_transact (by decide +kernel) (by decide +kernel) (by decide +kernel),
    eachInput_cons.mpr ⟨steady_transact (by decide +kernel) (by decide +kernel) (by decide +kernel),
    eachInput_cons.mpr ⟨steady_transact (by decide +kernel) (by decide +kernel) (by decide +kernel),
      eachInput_nil⟩⟩⟩
  last := ⟨lastly, [again, halfway], rfl, rfl, by decide +kernel⟩

theorem late_claiming :
    Claiming plainToken 1 launched 3 400 [lastly, again] operatingBoth where
  sent := eachInput_cons.mpr ⟨⟨by decide +kernel, by decide⟩,
    eachInput_cons.mpr ⟨⟨by decide +kernel, by decide⟩, sent_operatingBoth⟩⟩
  steady := eachInput_cons.mpr
    ⟨steady_transact (by decide +kernel) (by decide +kernel) (by decide +kernel),
    eachInput_cons.mpr ⟨steady_transact (by decide +kernel) (by decide +kernel) (by decide +kernel),
      eachInput_nil⟩⟩
  last := ⟨lastly, [again], rfl, rfl, by decide +kernel⟩

theorem early_claim_gains :
    Claiming plainToken 1 launched 3 400 [lastly, again, halfway] operatingBoth ∧
      Claiming plainToken 1 launched 3 400 [lastly, again] operatingBoth ∧
      claimsMade plainToken 1 launched 3 operatingBoth [lastly, again] = 1 ∧
      ¬ claimsPaid plainToken 1 launched 3 operatingBoth [lastly, again, halfway] ≤
        claimsPaid plainToken 1 launched 3 operatingBoth [lastly, again] :=
  ⟨early_claiming, late_claiming, by decide +kernel, by decide +kernel⟩

end Samples
end Chainmail.DMailToken
