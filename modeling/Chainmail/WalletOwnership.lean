import Chainmail.JsonAccess
import Chainmail.PackageAssumptions
import Chainmail.Runs
import Chainmail.WalletLogin

/-!
Who can bind an identity to a wallet: `verifyWalletOwnership` of `src/crypto/wallet-identity.js`
and the endpoints of `src/server/index.js` that set the server's identity or save one, with the
store of `src/crypto/identity.js`. The database works, and its `default` entry, answers and
broadcasts are left out. The wallet that a request names is a text.
-/

namespace Chainmail.WalletOwnership

open Json WalletIdentity
open WalletLogin (lower)

variable {P : Packages} (E : Ethers)

def SIGNING_MESSAGE : String :=
  "Sign this message to access your dMail inbox.\n\n" ++
    "This signature will be used to derive your encryption keys.\n" ++
    "Only sign this on trusted dMail applications.\n\n" ++
    "Domain: " ++ DOMAIN_SEPARATOR ++ "\nTimestamp: "

def getSigningMessage (timestamp : Option Json) : Except Failure String := do
  let text ← spliced timestamp
  return SIGNING_MESSAGE ++ text

variable (P) in
/-- The timestamp is handed on to `fromSignature`, which does not use it. -/
def verifyWalletOwnership (walletAddress signature dmailAddress : String)
    (_timestamp : Option Json) : Bool :=
  match fromSignature (P := P) E signature walletAddress with
  | some identity => identity.address = dmailAddress
  | none => false

/-- The identity of a server. -/
inductive Held (P : Packages) where
  | created (identity : Identity P)
  | wallet (identity : WalletIdentity P)

/-- `toJSON`, a method that a `WalletIdentity` does not have. -/
def Held.toJSON : Held P → Except Failure (Identity P)
  | .created identity => .ok identity
  | .wallet _ => .error .typeError

/-- The identities in the database, by name. -/
abbrev IdentityStore (P : Packages) := OrderedMap String (Identity P)

def saveIdentity (name : String) (identity : Held P) (store : IdentityStore P) :
    Outcome (IdentityStore P) Failure Unit :=
  match identity.toJSON with
  | .error failure => .throws store failure
  | .ok json => .returns (store.set name json) ()

structure Server (P : Packages) where
  identity : Option (Held P)
  store : IdentityStore P

/-- `POST /api/identity`, which tells whether the identity is new. -/
def createIdentity (name : Option Json) (generated : Identity P) (server : Server P) :
    Outcome (Server P) Failure Bool :=
  match toText (name.getD (.string "default")) with
  | .error failure => .throws server failure
  | .ok name =>
      match server.store.get name with
      | some existing => .returns { server with identity := some (.created existing) } false
      | none =>
          let saved := saveIdentity name (.created generated) server.store
          ⟨saved.result.map fun _ => true, ⟨some (.created generated), saved.state⟩⟩

/-- `POST /api/auth/wallet`; a missing text is empty. -/
def authWallet (signature walletAddress : String) (timestamp : Option Json) (server : Server P) :
    Outcome (Server P) Failure Unit :=
  if signature = "" ∨ walletAddress = "" ∨ truthy timestamp = false then
    .throws server (.error "Missing signature, walletAddress, or timestamp")
  else
    match fromSignature E signature walletAddress with
    | none => .throws server .rejected
    | some identity =>
        let saved := saveIdentity ("wallet:" ++ lower walletAddress) (.wallet identity) server.store
        ⟨saved.result, ⟨some (.wallet identity), saved.state⟩⟩

inductive Request (P : Packages) where
  | createIdentity (name : Option Json) (generated : Identity P)
  | authWallet (signature walletAddress : String) (timestamp : Option Json)

def step (server : Server P) : Request P → Server P
  | .createIdentity name generated => (createIdentity name generated server).state
  | .authWallet signature walletAddress timestamp =>
      (authWallet E signature walletAddress timestamp server).state

/-- The last request comes first. -/
def replay (start : Server P) : List (Request P) → Server P
  | [] => start
  | request :: earlier => step E (replay start earlier) request

/-- The wallet signed the sign-in message for the timestamp. -/
def Signed (walletAddress signature : String) (timestamp : Option Json) : Prop :=
  ∃ message recovered, getSigningMessage timestamp = .ok message ∧
    E.verifyMessage message signature = some recovered ∧ lower recovered = lower walletAddress

/-- The request has a signature of the wallet. -/
def Carries (request : Request P) (wallet : String) : Prop :=
  ∃ signature walletAddress timestamp, request = .authWallet signature walletAddress timestamp ∧
    lower walletAddress = lower wallet ∧ Signed E walletAddress signature timestamp

/-- What is stored for a wallet changes only by a request of the wallet, and so does the
    identity that the server has come to hold for one. -/
structure Guarded (request : Request P) (server : Server P) : Prop where
  stored : ∀ wallet, (step E server request).store.get ("wallet:" ++ wallet) ≠
    server.store.get ("wallet:" ++ wallet) → Carries E request wallet
  held : ∀ identity, (step E server request).identity = some (.wallet identity) →
    server.identity = some (.wallet identity) ∨ Carries E request identity.walletAddress

/-- No identity is made under the name of a wallet, and a signature from which one is derived is
    the wallet's, unless the server holds that identity already. -/
def Careful (request : Request P) (server : Server P) : Prop :=
  match request with
  | .createIdentity name _ => ∀ wallet,
      toText (name.getD (.string "default")) = .ok ("wallet:" ++ wallet) →
        (server.store.get ("wallet:" ++ wallet)).isSome
  | .authWallet signature walletAddress timestamp =>
      signature ≠ "" → walletAddress ≠ "" → truthy timestamp = true →
        ∀ identity, fromSignature E signature walletAddress = some identity →
          server.identity = some (.wallet identity) ∨ Signed E walletAddress signature timestamp

variable (P) in
/-- The signature can be read as bytes, and the address is that of the identity they seed. -/
def Seeds (signature dmailAddress : String) : Prop :=
  ∃ bytes, E.getBytes signature = some bytes ∧
    addressOf P (P.ed25519PublicKey (seedOf P bytes)) = dmailAddress

section Steps
variable {E} {server : Server P}

theorem fromSignature_ok {signature walletAddress : String} {bytes : Bytes}
    (read : E.getBytes signature = some bytes) :
    fromSignature (P := P) E signature walletAddress =
      some ⟨seedOf P bytes, P.ed25519PublicKey (seedOf P bytes), walletAddress, rfl⟩ := by
  rw [fromSignature, read]
  rfl

theorem fromSignature_wallet {signature walletAddress : String} {identity : WalletIdentity P}
    (derived : fromSignature E signature walletAddress = some identity) :
    identity.walletAddress = walletAddress := by
  obtain ⟨bytes, _, made⟩ := Option.bind_eq_some_iff.mp derived
  cases made
  rfl

theorem verify_iff (walletAddress signature dmailAddress : String) (timestamp : Option Json) :
    verifyWalletOwnership P E walletAddress signature dmailAddress timestamp = true ↔
      Seeds P E signature dmailAddress := by
  rw [verifyWalletOwnership, Seeds]
  cases read : E.getBytes signature with
  | none => simp [fromSignature, read]
  | some bytes =>
      rw [fromSignature_ok read]
      simp only [Option.some.injEq, exists_eq_left']
      exact decide_eq_true_iff

/-- A wallet's identity is never saved. -/
theorem authWallet_store (signature walletAddress : String) (timestamp : Option Json)
    (server : Server P) :
    (authWallet E signature walletAddress timestamp server).state.store = server.store := by
  rw [authWallet]
  split
  · rfl
  · split <;> rfl

theorem authWallet_held {signature walletAddress : String} {timestamp : Option Json}
    {identity : WalletIdentity P}
    (held : (authWallet E signature walletAddress timestamp server).state.identity =
      some (.wallet identity)) :
    server.identity = some (.wallet identity) ∨ (signature ≠ "" ∧ walletAddress ≠ "" ∧
      truthy timestamp = true ∧ fromSignature E signature walletAddress = some identity) := by
  rw [authWallet] at held
  split at held
  · exact .inl held
  next complete =>
    simp only [not_or, Bool.not_eq_false] at complete
    split at held
    · exact .inl held
    next derived found =>
      cases held
      exact .inr ⟨complete.1, complete.2.1, complete.2.2, found⟩

theorem authWallet_holds {signature walletAddress : String} {timestamp : Option Json}
    {identity : WalletIdentity P} (present : signature ≠ "") (named : walletAddress ≠ "")
    (timed : truthy timestamp = true)
    (derived : fromSignature E signature walletAddress = some identity) :
    (authWallet E signature walletAddress timestamp server).state.identity =
      some (.wallet identity) := by
  simp [authWallet, present, named, timed, derived]

theorem createIdentity_held (name : Option Json) (generated : Identity P)
    {identity : WalletIdentity P}
    (held : (createIdentity name generated server).state.identity = some (.wallet identity)) :
    server.identity = some (.wallet identity) := by
  rw [createIdentity] at held
  split at held
  · exact held
  · split at held
    · cases held
    · cases held

/-- An identity that is created is put under its name, if that is new. -/
theorem createIdentity_store (name : Option Json) (generated : Identity P) (key : String) :
    (createIdentity name generated server).state.store.get key ≠ server.store.get key ↔
      toText (name.getD (.string "default")) = .ok key ∧ server.store.get key = none := by
  rw [createIdentity]
  cases toText (name.getD (.string "default")) with
  | error failure => simp
  | ok text =>
      dsimp only
      cases found : server.store.get text with
      | some existing =>
          refine iff_of_false (fun changed => changed rfl) ?_
          rintro ⟨same, absent⟩
          cases same
          cases found.symm.trans absent
      | none =>
          simp only [saveIdentity, Held.toJSON, Outcome.returns_state, OrderedMap.get_set,
            Except.ok.injEq]
          by_cases own : key = text
          · subst own
            simp [found]
          · simp [own, Ne.symm own]

theorem guarded_iff (request : Request P) (server : Server P) :
    Guarded E request server ↔ Careful E request server := by
  cases request with
  | createIdentity name generated =>
      -- A request for an identity of one's own carries no signature.
      have uncarried (wallet : String) :
          ¬ Carries E (.createIdentity name generated : Request P) wallet := by
        rintro ⟨_, _, _, ⟨⟩, _⟩
      constructor
      · intro guarded wallet named
        rw [Option.isSome_iff_ne_none]
        intro absent
        refine uncarried wallet (guarded.stored wallet ?_)
        exact (createIdentity_store name generated _).mpr ⟨named, absent⟩
      · intro careful
        refine ⟨fun wallet changed => ?_, fun identity held => ?_⟩
        · obtain ⟨named, absent⟩ := (createIdentity_store name generated _).mp changed
          have known := careful wallet named
          rw [absent] at known
          cases known
        · exact .inl (createIdentity_held name generated held)
  | authWallet signature walletAddress timestamp =>
      constructor
      · intro guarded present named timed identity derived
        have held : (authWallet E signature walletAddress timestamp server).state.identity =
            some (.wallet identity) := authWallet_holds present named timed derived
        refine (guarded.held identity held).imp_right ?_
        rintro ⟨_, _, _, ⟨⟩, _, signed⟩
        exact signed
      · intro careful
        refine ⟨fun wallet changed => ?_, fun identity held => ?_⟩
        · refine absurd ?_ changed
          rw [step, authWallet_store]
        · rcases authWallet_held held with before | ⟨present, named, timed, derived⟩
          · exact .inl before
          · refine (careful present named timed identity derived).imp_right fun signed => ?_
            exact ⟨_, _, _, rfl, by rw [fromSignature_wallet derived], signed⟩

end Steps

/-- A call that finds the wallet to own an address is right exactly when the wallet signed, or
    else the call finds nothing since the signature does not seed that address; and in every run
    of the server, only wallets bind identities to themselves exactly when every request is
    careful. -/
theorem wallet_claims_checked_iff (P : Packages) (E : Ethers) :
    (∀ (walletAddress signature dmailAddress : String) (timestamp : Option Json),
      (verifyWalletOwnership P E walletAddress signature dmailAddress timestamp = true →
          Signed E walletAddress signature timestamp) ↔
        Signed E walletAddress signature timestamp ∨ ¬ Seeds P E signature dmailAddress) ∧
    ∀ (start : Server P) (past : List (Request P)),
      EachInput (fun request earlier => Guarded E request (replay E start earlier)) past ↔
        EachInput (fun request earlier => Careful E request (replay E start earlier)) past := by
  constructor
  · intro walletAddress signature dmailAddress timestamp
    rw [verify_iff, imp_iff_not_or, or_comm]
  · intro start past
    simp only [EachInput, guarded_iff]

section Example

/-- One byte can be read as bytes, and is nobody's signature. -/
def oneByte : Ethers where
  getBytes text := if text = "0x00" then some [0] else none
  verifyMessage _ _ := none

theorem unsigned_claim_accepted : ¬ ∀ (P : Packages) (E : Ethers)
    (walletAddress signature dmailAddress : String) (timestamp : Option Json),
    verifyWalletOwnership P E walletAddress signature dmailAddress timestamp = true →
      Signed E walletAddress signature timestamp := by
  intro claimed
  have accepted : verifyWalletOwnership samplePackages oneByte "0xA11CE" "0x00"
      (addressOf samplePackages (seedOf samplePackages [0])) (some (ofInt 1)) = true :=
    (verify_iff ..).mpr ⟨[0], rfl, rfl⟩
  obtain ⟨message, recovered, _, signed, _⟩ := claimed _ _ _ _ _ _ accepted
  cases signed

end Example

end Chainmail.WalletOwnership
