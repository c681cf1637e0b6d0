import Chainmail.Base64
import Chainmail.JsNumber
import Chainmail.OrderedMap
import Chainmail.Outcome

/-!
`src/crypto/double-ratchet.js`. The curve, the KDF and the cipher are packages
outside the repository and enter as parameters. Random draws are arguments. A
session never looks inside a derived secret, so secrets are an abstract type;
the 64-byte KDF output is the pair of halves that `slice` takes from it.
-/

namespace Chainmail.DoubleRatchet

structure Primitives (Secret : Type) where
  getPublicKey : Bytes → Bytes
  getSharedSecret : Bytes → Bytes → Option Secret
  hkdf : Secret → Option Secret → String → Secret
  hkdf64 : Secret → Option Secret → String → Secret × Secret
  cipherEncrypt : Secret → Bytes → Bytes → Bytes → Bytes
  cipherDecrypt : Secret → Bytes → Bytes → Bytes → Option Bytes

/-- What a session call can throw: its own error, a use of `null`, or the
    rejection of a point by the curve or of a tag by the cipher. -/
inductive Thrown where
  | error (message : String)
  | typeError
  | badPoint
  | badTag
deriving DecidableEq

def INFO_ROOT_KEY : String := "dmail-root-key"
def INFO_CHAIN_KEY : String := "dmail-chain-key"
def INFO_MESSAGE_KEY : String := "dmail-message-key"
def MAX_SKIP : Nat := 100

structure KeyPair where
  privateKey : Bytes
  publicKey : Bytes
deriving DecidableEq

structure RootStep (Secret : Type) where
  rootKey : Secret
  chainKey : Secret

structure ChainStep (Secret : Type) where
  chainKey : Secret
  messageKey : Secret

structure MessageHeader where
  dhPublicKey : Bytes
  previousCounter : JsNumber
  messageNumber : JsNumber
deriving DecidableEq

/-- The text `base64:number`; base64 has no colon, so the two parts are kept apart. -/
structure SkipKey where
  dhPublicKey : String
  number : JsNumber
deriving DecidableEq

structure State (Secret : Type) where
  DHs : Option KeyPair
  DHr : Option Bytes
  RK : Option Secret
  CKs : Option Secret
  CKr : Option Secret
  Ns : Nat
  Nr : Nat
  PN : Nat
  MKSKIPPED : OrderedMap SkipKey Secret

structure Encrypted where
  header : MessageHeader
  nonce : String
  ciphertext : String
deriving DecidableEq

variable {Secret : Type}

abbrev Call (Secret Result : Type) := Outcome (State Secret) Thrown Result

def newState : State Secret :=
  { DHs := none, DHr := none, RK := none, CKs := none, CKr := none
    Ns := 0, Nr := 0, PN := 0, MKSKIPPED := OrderedMap.empty }

def skipKey (dhPublicKey : Bytes) (number : JsNumber) : SkipKey :=
  ⟨toBase64 dhPublicKey, number⟩

section Functions
variable (P : Primitives Secret)

def kdfRK (rootKey dhOutput : Secret) : RootStep Secret :=
  let okm := P.hkdf64 dhOutput (some rootKey) INFO_ROOT_KEY
  { rootKey := okm.1, chainKey := okm.2 }

def kdfCK (chainKey : Secret) : ChainStep Secret :=
  { chainKey := P.hkdf chainKey none INFO_CHAIN_KEY
    messageKey := P.hkdf chainKey none INFO_MESSAGE_KEY }

def generateKeyPair (draw : Bytes) : KeyPair :=
  { privateKey := draw, publicKey := P.getPublicKey draw }

def initAsInitiator (sharedSecret : Secret) (remotePublicKey draw : Bytes)
    (state : State Secret) : Call Secret Unit :=
  let state := { state with DHs := some (generateKeyPair P draw), DHr := some remotePublicKey }
  match P.getSharedSecret draw remotePublicKey with
  | none => .throws state .badPoint
  | some dhResult =>
      let keys := kdfRK P sharedSecret dhResult
      .returns { state with
        RK := some keys.rootKey, CKs := some keys.chainKey, CKr := none
        Ns := 0, Nr := 0, PN := 0 } ()

def initAsResponder (sharedSecret : Secret) (ourKeyPair : KeyPair)
    (state : State Secret) : Call Secret Unit :=
  .returns { state with
    DHs := some ourKeyPair, DHr := none, RK := some sharedSecret
    CKs := none, CKr := none, Ns := 0, Nr := 0, PN := 0 } ()

def encrypt (plaintext associatedData nonce : Bytes) (state : State Secret) :
    Call Secret Encrypted :=
  match state.CKs with
  | none => .throws state .typeError
  | some current =>
      let keys := kdfCK P current
      let state := { state with CKs := some keys.chainKey }
      match state.DHs with
      | none => .throws state .typeError
      | some pair =>
          let header := MessageHeader.mk pair.publicKey (.ofNat state.PN) (.ofNat state.Ns)
          .returns { state with Ns := state.Ns + 1 }
            { header := header
              nonce := toBase64 nonce
              ciphertext := toBase64 (P.cipherEncrypt keys.messageKey nonce associatedData plaintext) }

/-- One turn of the loop in `skipMessageKeys`. -/
def skipOne (state : State Secret) : Call Secret Unit :=
  match state.CKr with
  | none => .throws state .typeError
  | some current =>
      let keys := kdfCK P current
      let state := { state with CKr := some keys.chainKey }
      match state.DHr with
      | none => .throws state .typeError
      | some remote =>
          .returns { state with
            MKSKIPPED := state.MKSKIPPED.set (skipKey remote (.ofNat state.Nr)) keys.messageKey
            Nr := state.Nr + 1 } ()

def skipLoop (bound : JsNumber) : Nat → State Secret → Call Secret Unit
  | 0, state => .returns state ()
  | fuel + 1, state =>
      if (JsNumber.ofNat state.Nr).lt bound then
        (skipOne P state).andThen fun _ state => skipLoop bound fuel state
      else .returns state ()

-- The guard leaves at most `MAX_SKIP` turns, so the fuel never cuts the loop short.
def skipMessageKeys (bound : JsNumber) (state : State Secret) : Call Secret Unit :=
  if (JsNumber.ofNat (state.Nr + MAX_SKIP)).lt bound then
    .throws state (.error "Too many skipped messages")
  else if state.CKr.isSome then skipLoop P bound MAX_SKIP state
  else .returns state ()

def dhRatchet (theirPublicKey draw : Bytes) (state : State Secret) : Call Secret Unit :=
  let state := { state with PN := state.Ns, Ns := 0, Nr := 0, DHr := some theirPublicKey }
  match state.DHs with
  | none => .throws state .typeError
  | some ours =>
      match P.getSharedSecret ours.privateKey theirPublicKey with
      | none => .throws state .badPoint
      | some dhResult1 =>
          match state.RK with
          | none => .throws state .typeError
          | some root =>
              let first := kdfRK P root dhResult1
              let state := { state with
                RK := some first.rootKey, CKr := some first.chainKey
                DHs := some (generateKeyPair P draw) }
              match P.getSharedSecret draw theirPublicKey with
              | none => .throws state .badPoint
              | some dhResult2 =>
                  let second := kdfRK P first.rootKey dhResult2
                  .returns { state with
                    RK := some second.rootKey, CKs := some second.chainKey } ()

/-- `!this.state.DHr || !this.arraysEqual(header.dhPublicKey, this.state.DHr)` -/
def ratchetNeeded (state : State Secret) (header : MessageHeader) : Bool :=
  match state.DHr with
  | none => true
  | some remote => header.dhPublicKey ≠ remote

def turnChain (header : MessageHeader) (draw : Bytes) (state : State Secret) :
    Call Secret Unit :=
  if ratchetNeeded state header then
    (skipMessageKeys P header.previousCounter state).andThen fun _ state =>
      dhRatchet P header.dhPublicKey draw state
  else .returns state ()

def takeChainKey (state : State Secret) : Call Secret Secret :=
  match state.CKr with
  | none => .throws state .typeError
  | some current =>
      let keys := kdfCK P current
      .returns { state with CKr := some keys.chainKey, Nr := state.Nr + 1 } keys.messageKey

def chainKeyFor (header : MessageHeader) (draw : Bytes) (state : State Secret) :
    Call Secret Secret :=
  (turnChain P header draw state).andThen fun _ state =>
    (skipMessageKeys P header.messageNumber state).andThen fun _ state =>
      takeChainKey P state

/-- `decrypt` up to the cipher: the message key and the state it is taken from. -/
def receiveKey (header : MessageHeader) (draw : Bytes) (state : State Secret) :
    Call Secret Secret :=
  let wanted := skipKey header.dhPublicKey header.messageNumber
  match state.MKSKIPPED.get wanted with
  | some messageKey =>
      .returns { state with MKSKIPPED := state.MKSKIPPED.delete wanted } messageKey
  | none => chainKeyFor P header draw state

def decrypt (header : MessageHeader) (nonceB64 ciphertextB64 : String)
    (associatedData draw : Bytes) (state : State Secret) : Call Secret Bytes :=
  (receiveKey P header draw state).andThen fun messageKey state =>
    match P.cipherDecrypt messageKey (fromBase64 nonceB64) associatedData (fromBase64 ciphertextB64) with
    | none => .throws state .badTag
    | some plaintext => .returns state plaintext

end Functions
end Chainmail.DoubleRatchet
