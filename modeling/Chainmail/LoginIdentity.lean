import Chainmail.PackageAssumptions
import Chainmail.WalletLogin

/-!
The identities one wallet gets from its logins. The signature that answers the
challenge is also the seed of the identity, so the identity follows the nonce.
-/

namespace Chainmail.WalletLogin

open WalletIdentity

variable {P : Packages} {E : Ethers}

theorem logins_derived {server : Server P} {events : List Event} {entry : Login P}
    (member : entry ∈ logins E server events) :
    fromSignature E entry.request.signature entry.request.walletAddress = some entry.identity := by
  induction events generalizing server with
  | nil => cases member
  | cons event rest ih =>
      rcases List.mem_append.mp member with now | later
      · exact (step_login (Option.mem_toList.mp now)).2.1
      · exact ih later

theorem spent_never {events : List Event} {server : Server P} {nonce : String}
    (spent : Spent server nonce) (unissued : nonce ∉ events.filterMap issued) :
    nonce ∉ (logins E server events).map fun entry => entry.request.nonce := by
  induction events generalizing server with
  | nil => exact List.not_mem_nil
  | cons event rest ih =>
      have other : issued event ≠ some nonce := fun same => unissued (by simp [same])
      have later : nonce ∉ rest.filterMap issued := by
        intro member
        apply unissued
        cases handed : issued event <;> simp [handed, member]
      intro member
      rw [logins, List.map_append] at member
      rcases List.mem_append.mp member with now | after
      · obtain ⟨entry, success, own⟩ := List.mem_map.mp now
        obtain ⟨_, _, ⟨record, found, unused⟩, _⟩ := step_login (Option.mem_toList.mp success)
        have used := spent record (own ▸ found)
        rw [unused] at used
        cases used
      · exact ih (step_spent spent other) later after

/-- Nonces that are drawn once are good for one login each. -/
theorem nonces_used_once {events : List Event} {server : Server P}
    (fresh : (events.filterMap issued).Nodup)
    (unissued : ∀ nonce record, server.nonces.get nonce = some record →
      nonce ∉ events.filterMap issued) :
    ((logins E server events).map fun entry => entry.request.nonce).Nodup := by
  induction events generalizing server with
  | nil => exact List.nodup_nil
  | cons event rest ih =>
      have freshRest : (rest.filterMap issued).Nodup := by
        cases handed : issued event with
        | none => simpa [handed] using fresh
        | some nonce =>
            rw [List.filterMap_cons, handed] at fresh
            exact (List.nodup_cons.mp fresh).2
      have unissuedRest : ∀ nonce record,
          (step E server event).1.nonces.get nonce = some record →
          nonce ∉ rest.filterMap issued := by
        intro nonce record found
        rcases step_has found with handed | ⟨old, present⟩
        · rw [List.filterMap_cons, handed] at fresh
          exact (List.nodup_cons.mp fresh).1
        · intro member
          apply unissued nonce old present
          cases handed : issued event <;> simp [handed, member]
      have later := ih freshRest unissuedRest
      rw [logins, List.map_append]
      cases success : (step E server event).2 with
      | none => simpa using later
      | some entry =>
          obtain ⟨silent, _, ⟨record, found, _⟩, spent⟩ := step_login success
          -- A nonce that is spent here was not handed out here, and is not handed out later.
          have notLater : entry.request.nonce ∉ rest.filterMap issued := by
            have absent := unissued _ _ found
            rwa [List.filterMap_cons, silent] at absent
          exact List.nodup_cons.mpr ⟨spent_never spent notLater, later⟩

section Wallet

variable (E)

/-- Distinct messages give distinct signatures. -/
def SignsDistinctly (sign : String → String) : Prop :=
  ∀ message other bytes, E.getBytes (sign message) = some bytes →
    E.getBytes (sign other) = some bytes → message = other

variable {E}

/-- The logins in which this wallet signed the challenge it presents. -/
def walletLogins (sign : String → String) (entries : List (Login P)) : List (Login P) :=
  entries.filter fun entry =>
    entry.request.signature = sign (CHALLENGE_MESSAGE ++ entry.request.nonce)

def SameIdentity (entries : List (Login P)) : Prop :=
  ∀ first ∈ entries, ∀ second ∈ entries, Same first.identity second.identity

def OneNonce (entries : List (Login P)) : Prop :=
  ∀ first ∈ entries, ∀ second ∈ entries, first.request.nonce = second.request.nonce

theorem append_left_cancel {lead left right : String} (same : lead ++ left = lead ++ right) :
    left = right := by
  have letters := congrArg String.toList same
  rw [String.toList_append, String.toList_append] at letters
  exact String.toList_injective (List.append_cancel_left letters)

theorem same_iff_nonce (base58 : Base58RoundTrips P) (injective : DerivationInjective P)
    {sign : String → String} (distinct : SignsDistinctly E sign) {server : Server P}
    {events : List Event} {first second : Login P}
    (firstIn : first ∈ walletLogins sign (logins E server events))
    (secondIn : second ∈ walletLogins sign (logins E server events)) :
    Same first.identity second.identity ↔ first.request.nonce = second.request.nonce := by
  obtain ⟨firstLogin, firstSigned⟩ := List.mem_filter.mp firstIn
  obtain ⟨secondLogin, secondSigned⟩ := List.mem_filter.mp secondIn
  have firstSignature := of_decide_eq_true firstSigned
  have secondSignature := of_decide_eq_true secondSigned
  have firstDerived := logins_derived firstLogin
  have secondDerived := logins_derived secondLogin
  rw [same_iff_bytes base58 injective firstDerived secondDerived]
  constructor
  · intro bytes
    obtain ⟨read, shown, _⟩ := fromSignature_some firstDerived
    rw [shown, secondSignature] at bytes
    rw [firstSignature] at shown
    exact append_left_cancel (distinct _ _ _ shown bytes.symm)
  · intro nonce
    rw [firstSignature, secondSignature, nonce]

theorem sameIdentity_iff (base58 : Base58RoundTrips P) (injective : DerivationInjective P)
    {sign : String → String} (distinct : SignsDistinctly E sign) (server : Server P)
    (events : List Event) :
    SameIdentity (walletLogins sign (logins E server events)) ↔
      OneNonce (walletLogins sign (logins E server events)) := by
  constructor
  · intro same first firstIn second secondIn
    exact (same_iff_nonce base58 injective distinct firstIn secondIn).mp
      (same first firstIn second secondIn)
  · intro nonce first firstIn second secondIn
    exact (same_iff_nonce base58 injective distinct firstIn secondIn).mpr
      (nonce first firstIn second secondIn)

theorem oneNonce_iff_length {entries : List (Login P)}
    (distinct : (entries.map fun entry => entry.request.nonce).Nodup) :
    OneNonce entries ↔ entries.length ≤ 1 := by
  constructor
  · intro same
    rcases entries with _ | ⟨first, _ | ⟨second, rest⟩⟩
    · simp
    · simp
    · have equal := same first (by simp) second (by simp)
      simp [equal] at distinct
  · intro short first firstIn second secondIn
    rcases entries with _ | ⟨only, _ | ⟨other, rest⟩⟩
    · cases firstIn
    · rw [List.mem_singleton.mp firstIn, List.mem_singleton.mp secondIn]
    · simp at short

/-- In every run of the server, one wallet's logins all give it the same
    identity exactly when they all presented the same nonce; where no nonce is
    drawn twice, that means exactly when the wallet logged in at most once. -/
theorem wallet_identity_iff_one_nonce (base58 : Base58RoundTrips P)
    (injective : DerivationInjective P) (sign : String → String)
    (distinct : SignsDistinctly E sign) (events : List Event) :
    (SameIdentity (walletLogins sign (logins (P := P) E started events)) ↔
      OneNonce (walletLogins sign (logins (P := P) E started events))) ∧
    ((events.filterMap issued).Nodup →
      (SameIdentity (walletLogins sign (logins (P := P) E started events)) ↔
        (walletLogins sign (logins (P := P) E started events)).length ≤ 1)) := by
  have same := sameIdentity_iff base58 injective distinct (started : Server P) events
  refine ⟨same, ?_⟩
  intro fresh
  have once : ((logins E (started : Server P) events).map fun entry =>
      entry.request.nonce).Nodup :=
    nonces_used_once fresh fun _ _ found => nomatch found
  rw [same]
  exact oneNonce_iff_length (once.sublist (List.filter_sublist.map _))

end Wallet

/-! One wallet logs in twice, each time over a challenge of its own. -/

section Sample

/-- A wallet whose signature shows the message. -/
def sampleSign (message : String) : String := "signed: " ++ message

def sampleEthers : Ethers where
  getBytes text := some (utf8Encode text)
  verifyMessage message signature :=
    if signature = sampleSign message then some "0xA11CE" else none

def seededPackages : Packages := { samplePackages with hkdf := fun ikm _ _ _ => ikm }

theorem seeded_base58 : Base58RoundTrips seededPackages :=
  ⟨sample_base58.decode_encode, sample_base58.encode_head⟩

theorem seeded_injective : DerivationInjective seededPackages where
  hkdf_inj _ _ _ _ _ same := same
  publicKey_inj _ _ same := same

theorem sampleSign_distinct : SignsDistinctly sampleEthers sampleSign := by
  intro message other bytes read again
  have encoded := Option.some.inj (read.trans again.symm)
  exact append_left_cancel (utf8Encode_injective encoded)

def signedRequest (draw : Bytes) : Request :=
  ⟨sampleSign (CHALLENGE_MESSAGE ++ toHex draw), "0xa11ce", toHex draw⟩

def visit (draw : Bytes) (now : Nat) : List Event :=
  [.challenge draw now, .login (signedRequest draw) draw (now + 1)]

def twoVisits : List Event := visit (List.replicate 32 1) 1000 ++ visit (List.replicate 32 2) 9000

def sampleLogins : List (Login seededPackages) :=
  walletLogins sampleSign (logins sampleEthers started twoVisits)

theorem sampleLogins_nonces : (sampleLogins.map fun entry => entry.request.nonce) =
    [toHex (List.replicate 32 1), toHex (List.replicate 32 2)] := by
  decide +kernel

theorem second_login_changes_identity : ¬ SameIdentity sampleLogins := by
  intro same
  have nonces : OneNonce sampleLogins :=
    (sameIdentity_iff seeded_base58 seeded_injective sampleSign_distinct _ _).mp same
  have once : (sampleLogins.map fun entry => entry.request.nonce).Nodup := by
    rw [sampleLogins_nonces]
    decide +kernel
  have short := (oneNonce_iff_length once).mp nonces
  have length := congrArg List.length sampleLogins_nonces
  rw [List.length_map] at length
  simp [length] at short

theorem sample_identity_iff_one_nonce :
    (SameIdentity sampleLogins ↔ OneNonce sampleLogins) ∧
      ((twoVisits.filterMap issued).Nodup → (SameIdentity sampleLogins ↔ sampleLogins.length ≤ 1)) :=
  wallet_identity_iff_one_nonce seeded_base58 seeded_injective sampleSign sampleSign_distinct
    twoVisits

end Sample
end Chainmail.WalletLogin
