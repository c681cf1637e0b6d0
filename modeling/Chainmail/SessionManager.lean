import Chainmail.RatchetAssumptions

/-!
`SessionManager` of `src/crypto/double-ratchet.js`, constructed with a database,
and the stored form of a session. The objects of one process are numbered in
the order they are made; a restart loses them and the map, and keeps the database.
-/

namespace Chainmail.SessionManager

open DoubleRatchet (Primitives KeyPair SkipKey State MessageHeader)

structure SerializedKeyPair where
  privateKey : String
  publicKey : String
deriving DecidableEq

structure SerializedState where
  DHs : Option SerializedKeyPair
  DHr : Option String
  RK : Option String
  CKs : Option String
  CKr : Option String
  Ns : Nat
  Nr : Nat
  PN : Nat
  MKSKIPPED : List (SkipKey × String)
deriving DecidableEq

def serialize (state : State Bytes) : SerializedState :=
  { DHs := state.DHs.map fun pair => ⟨toBase64 pair.privateKey, toBase64 pair.publicKey⟩
    DHr := state.DHr.map toBase64
    RK := state.RK.map toBase64
    CKs := state.CKs.map toBase64
    CKr := state.CKr.map toBase64
    Ns := state.Ns
    Nr := state.Nr
    PN := state.PN
    MKSKIPPED := state.MKSKIPPED.entries.map fun entry => (entry.1, toBase64 entry.2) }

/-- `field ? new Uint8Array(Buffer.from(field, 'base64')) : null` -/
def restoreField (field : Option String) : Option Bytes :=
  match field with
  | none => none
  | some text => if text = "" then none else some (fromBase64 text)

def deserialize (data : SerializedState) : State Bytes :=
  { DHs := data.DHs.map fun pair => ⟨fromBase64 pair.privateKey, fromBase64 pair.publicKey⟩
    DHr := restoreField data.DHr
    RK := restoreField data.RK
    CKs := restoreField data.CKs
    CKr := restoreField data.CKr
    Ns := data.Ns
    Nr := data.Nr
    PN := data.PN
    MKSKIPPED := data.MKSKIPPED.foldl (fun map entry => map.set entry.1 (fromBase64 entry.2))
      OrderedMap.empty }

structure Manager where
  objects : List (State Bytes)
  sessions : OrderedMap String Nat
  db : OrderedMap String SerializedState

def newManager : Manager := ⟨[], OrderedMap.empty, OrderedMap.empty⟩

def sessionKey (remoteAddress : String) : String := "session:" ++ remoteAddress

/-- A new object enters the map under the remote address. -/
def Manager.hold (manager : Manager) (remoteAddress : String) (session : State Bytes) : Manager :=
  { manager with
    objects := manager.objects ++ [session]
    sessions := manager.sessions.set remoteAddress manager.objects.length }

def saveSession (remoteAddress : String) (manager : Manager) : Manager :=
  match manager.sessions.get remoteAddress with
  | none => manager
  | some object =>
      match manager.objects[object]? with
      | none => manager
      | some session =>
          { manager with db := manager.db.set (sessionKey remoteAddress) (serialize session) }

def getSession (remoteAddress : String) (manager : Manager) : Manager × Option Nat :=
  match manager.sessions.get remoteAddress with
  | some object => (manager, some object)
  | none =>
      match manager.db.get (sessionKey remoteAddress) with
      | none => (manager, none)
      | some data =>
          (manager.hold remoteAddress (deserialize data), some manager.objects.length)

section Requests
variable (P : Primitives Bytes)

-- A session whose initialisation throws is neither held nor saved.
def createSessionAsInitiator (remoteAddress : String) (sharedSecret remotePublicKey draw : Bytes)
    (manager : Manager) : Manager :=
  let call := DoubleRatchet.initAsInitiator P sharedSecret remotePublicKey draw
    DoubleRatchet.newState
  match call.result with
  | .error _ => manager
  | .ok _ => saveSession remoteAddress (manager.hold remoteAddress call.state)

def createSessionAsResponder (remoteAddress : String) (sharedSecret : Bytes) (ourKeyPair : KeyPair)
    (manager : Manager) : Manager :=
  let call := DoubleRatchet.initAsResponder sharedSecret ourKeyPair DoubleRatchet.newState
  saveSession remoteAddress (manager.hold remoteAddress call.state)

/-- A call on a session object, which the caller may have held for any time. -/
def Manager.update (manager : Manager) (object : Nat) (call : State Bytes → State Bytes) :
    Manager :=
  match manager.objects[object]? with
  | none => manager
  | some session => { manager with objects := manager.objects.set object (call session) }

inductive Request where
  | createSessionAsInitiator (remoteAddress : String) (sharedSecret remotePublicKey draw : Bytes)
  | createSessionAsResponder (remoteAddress : String) (sharedSecret : Bytes) (ourKeyPair : KeyPair)
  | getSession (remoteAddress : String)
  | encrypt (object : Nat) (plaintext associatedData nonce : Bytes)
  | decrypt (object : Nat) (header : MessageHeader) (nonceB64 ciphertextB64 : String)
      (associatedData draw : Bytes)
  | restart

def handle (request : Request) (manager : Manager) : Manager :=
  match request with
  | .createSessionAsInitiator remoteAddress sharedSecret remotePublicKey draw =>
      createSessionAsInitiator P remoteAddress sharedSecret remotePublicKey draw manager
  | .createSessionAsResponder remoteAddress sharedSecret ourKeyPair =>
      createSessionAsResponder remoteAddress sharedSecret ourKeyPair manager
  | .getSession remoteAddress => (getSession remoteAddress manager).1
  | .encrypt object plaintext associatedData nonce =>
      manager.update object fun session =>
        (DoubleRatchet.encrypt P plaintext associatedData nonce session).state
  | .decrypt object header nonceB64 ciphertextB64 associatedData draw =>
      manager.update object fun session =>
        (DoubleRatchet.decrypt P header nonceB64 ciphertextB64 associatedData draw session).state
  | .restart => { newManager with db := manager.db }

def managerAfter (past : List Request) : Manager := past.foldr (handle P) newManager

/-- The session that `getSession` would return. -/
def served (manager : Manager) (remoteAddress : String) : Option (State Bytes) :=
  (getSession remoteAddress manager).2.bind fun object =>
    (getSession remoteAddress manager).1.objects[object]?

/-- The message key under which `encrypt` would seal. -/
def sealingKey (session : State Bytes) : Option Bytes :=
  match session.CKs, session.DHs with
  | some current, some _ => some (DoubleRatchet.kdfCK P current).messageKey
  | _, _ => none

/-- The message keys that have encrypted a message, the last one first. -/
def usedKeys : List Request → List Bytes
  | [] => []
  | .encrypt object _ _ _ :: earlier =>
      ((managerAfter P earlier).objects[object]?.bind (sealingKey P)).toList ++ usedKeys earlier
  | _ :: earlier => usedKeys earlier

end Requests
end Chainmail.SessionManager
