import Chainmail.RatchetAtomicity
import Chainmail.SendingChains
import Chainmail.SessionManager

/-!
Restarts of a process that keeps its sessions in a `SessionManager`. A session
is saved when it is created and never again, so a restart brings back the state
it had then. Where every held session is still in that state, nothing is lost
and no message key seals twice.
-/

namespace Chainmail.SessionManager

open DoubleRatchet (Primitives KeyPair State FreeKdf AgreementBinds Separate kdfRK kdfCK
  RefusedUnwritten startedFrom)

section Storage

theorem restoreField_encoded {field : Option Bytes} (filled : field ≠ some []) :
    restoreField (field.map toBase64) = field := by
  cases field with
  | none => rfl
  | some bytes =>
      have written : toBase64 bytes ≠ "" := by
        intro blank
        have same : bytes = [] := toBase64_injective (blank.trans (by rfl : "" = toBase64 []))
        exact filled (by rw [same])
      simp [restoreField, written]

/-- A state without empty keys comes back from the database as it was. -/
theorem deserialize_serialize {state : State Bytes} (remote : state.DHr ≠ some [])
    (root : state.RK ≠ some []) (sending : state.CKs ≠ some []) (receiving : state.CKr ≠ some []) :
    deserialize (serialize state) = state := by
  have pair : (state.DHs.map fun pair => SerializedKeyPair.mk (toBase64 pair.privateKey)
      (toBase64 pair.publicKey)).map
      (fun pair => KeyPair.mk (fromBase64 pair.privateKey) (fromBase64 pair.publicKey)) =
      state.DHs := by
    cases state.DHs <;> simp
  have store : (state.MKSKIPPED.entries.map fun entry => (entry.1, toBase64 entry.2)).foldl
      (fun map entry => map.set entry.1 (fromBase64 entry.2)) OrderedMap.empty =
      state.MKSKIPPED := by
    simp only [List.foldl_map, fromBase64_toBase64]
    exact OrderedMap.foldl_set_entries state.MKSKIPPED
  simp only [deserialize, serialize, pair, store, restoreField_encoded remote,
    restoreField_encoded root, restoreField_encoded sending, restoreField_encoded receiving]

end Storage

section Managing
variable {manager : Manager} {remoteAddress other : String} {session : State Bytes}

theorem sessionKey_inj {one other : String} (same : sessionKey one = sessionKey other) :
    one = other := by
  simpa [sessionKey] using same

theorem saveSession_hold (manager : Manager) (remoteAddress : String) (session : State Bytes) :
    saveSession remoteAddress (manager.hold remoteAddress session) =
      { manager.hold remoteAddress session with
        db := manager.db.set (sessionKey remoteAddress) (serialize session) } := by
  simp [saveSession, Manager.hold]

theorem served_held {object : Nat} (held : manager.sessions.get remoteAddress = some object) :
    served manager remoteAddress = manager.objects[object]? := by
  simp [served, getSession, held]

theorem served_stored (away : manager.sessions.get remoteAddress = none) :
    served manager remoteAddress =
      (manager.db.get (sessionKey remoteAddress)).map deserialize := by
  cases stored : manager.db.get (sessionKey remoteAddress) <;>
    simp [served, getSession, away, stored, Manager.hold]

end Managing

section Requests
variable (P : Primitives Bytes)

/-- The request leaves the session in its place as it is. -/
def Idle (object : Nat) (session : State Bytes) : Request → Prop
  | .encrypt target _ _ _ => target = object → session.CKs = none
  | .decrypt target header _ _ _ _ => target = object → RefusedUnwritten P header session
  | _ => True

/-- No call since the last restart has changed the session in place `object`. -/
def Untouched (object : Nat) : List Request → Prop
  | [] => True
  | .restart :: _ => True
  | request :: earlier =>
      (∀ session, (managerAfter P earlier).objects[object]? = some session →
        Idle P object session request) ∧ Untouched object earlier

/-- Keys and secrets handed in are not empty, and a restart finds every held
    session untouched. -/
def Restorable (request : Request) (earlier : List Request) : Prop :=
  match request with
  | .createSessionAsInitiator _ _ remotePublicKey _ => remotePublicKey ≠ []
  | .createSessionAsResponder _ sharedSecret _ => sharedSecret ≠ []
  | .restart => ∀ remoteAddress object,
      (managerAfter P earlier).sessions.get remoteAddress = some object → Untouched P object earlier
  | _ => True

/-- The agreement a request starts a sending chain from. -/
def agreement (request : Request) (manager : Manager) : Option Bytes :=
  match request with
  | .createSessionAsInitiator _ _ remotePublicKey draw => P.getSharedSecret draw remotePublicKey
  | .decrypt object header _ _ _ draw => manager.objects[object]?.bind (startedFrom P header draw)
  | _ => none

def agreements : List Request → List Bytes
  | [] => []
  | request :: earlier =>
      (agreement P request (managerAfter P earlier)).toList ++ agreements earlier

/-- The root step yields keys that are not empty. -/
def KdfFills (P : Primitives Bytes) : Prop :=
  ∀ root shared, (kdfRK P root shared).rootKey ≠ [] ∧ (kdfRK P root shared).chainKey ≠ []

/-- The remote address whose entry a request may change. -/
def concerned : Request → Option String
  | .createSessionAsInitiator remoteAddress _ _ _ => some remoteAddress
  | .createSessionAsResponder remoteAddress _ _ => some remoteAddress
  | .getSession remoteAddress => some remoteAddress
  | _ => none

end Requests

section Entering
variable {manager : Manager} {remoteAddress : String} {session : State Bytes}
  {db : OrderedMap String SerializedState}

/-- Every held session is there, under one address, and as long as it is
    untouched the database has the same. -/
structure Backed (untouched : Nat → Prop) (manager : Manager) : Prop where
  present : ∀ remoteAddress object, manager.sessions.get remoteAddress = some object →
    ∃ session, manager.objects[object]? = some session ∧
      (untouched object →
        (manager.db.get (sessionKey remoteAddress)).map deserialize = some session)
  single : ∀ one other object, manager.sessions.get one = some object →
    manager.sessions.get other = some object → one = other

theorem backed_new (untouched : Nat → Prop) (db : OrderedMap String SerializedState) :
    Backed untouched { newManager with db := db } :=
  ⟨fun _ _ held => (nomatch held), fun _ _ _ held => (nomatch held)⟩

theorem Backed.mono {untouched fewer : Nat → Prop} (backed : Backed untouched manager)
    (weaker : ∀ object, fewer object → untouched object) : Backed fewer manager where
  present remoteAddress object held := by
    obtain ⟨session, placed, stored⟩ := backed.present remoteAddress object held
    exact ⟨session, placed, fun still => stored (weaker object still)⟩
  single := backed.single

/-- A new object enters the map, and its state is in the database. -/
theorem Backed.enter {untouched : Nat → Prop} (backed : Backed untouched manager)
    (stored : (db.get (sessionKey remoteAddress)).map deserialize = some session)
    (others : ∀ other, other ≠ remoteAddress →
      db.get (sessionKey other) = manager.db.get (sessionKey other)) :
    Backed untouched { manager.hold remoteAddress session with db := db } := by
  have before : ∀ other object, manager.sessions.get other = some object →
      object < manager.objects.length := by
    intro other object held
    obtain ⟨_, placed, _⟩ := backed.present other object held
    exact (List.getElem?_eq_some_iff.mp placed).1
  constructor
  · intro other object held
    simp only [Manager.hold, OrderedMap.get_set] at held
    split at held
    · next same =>
        obtain rfl := Option.some.inj held
        exact ⟨session, List.getElem?_concat_length, fun _ => by rw [same]; exact stored⟩
    · next different =>
        obtain ⟨old, placed, kept⟩ := backed.present other object held
        refine ⟨old, ?_, fun still => ?_⟩
        · exact (List.getElem?_append_left (before other object held)).trans placed
        · rw [others other different]
          exact kept still
  · intro one other object here there
    simp only [Manager.hold, OrderedMap.get_set] at here there
    -- The object is a new one, so no address that was there leads to it.
    split at here <;> split at there
    · next same also => rw [same, also]
    · next => exact absurd (before other object there) (by simp [← Option.some.inj here])
    · next => exact absurd (before one object here) (by simp [← Option.some.inj there])
    · exact backed.single one other object here there

theorem Backed.update {untouched after : Nat → Prop} {object : Nat}
    (backed : Backed untouched manager) (call : State Bytes → State Bytes)
    (still : ∀ place, after place → untouched place)
    (idle : ∀ session, manager.objects[object]? = some session → after object →
      call session = session) : Backed after (manager.update object call) := by
  unfold Manager.update
  split
  · exact backed.mono still
  · next session placed =>
      refine ⟨fun remoteAddress place held => ?_, backed.single⟩
      obtain ⟨old, there, kept⟩ := backed.present remoteAddress place held
      by_cases same : object = place
      · subst same
        obtain rfl := Option.some.inj (placed.symm.trans there)
        have inside := (List.getElem?_eq_some_iff.mp placed).1
        refine ⟨call session, List.getElem?_set_self inside, fun untouched => ?_⟩
        rw [idle session placed untouched]
        exact kept (still object untouched)
      · exact ⟨old, (List.getElem?_set_ne same).trans there,
          fun untouched => kept (still place untouched)⟩

end Entering

section Chains
variable {P : Primitives Bytes} {manager : Manager} {remoteAddress : String}
  {session : State Bytes} {db : OrderedMap String SerializedState}

/-- Where a session is: an object of the process, or only in the database. -/
inductive Place where
  | object (index : Nat)
  | stored (remoteAddress : String)
deriving DecidableEq

def sendingChain (manager : Manager) : Place → Option Bytes
  | .object index => manager.objects[index]?.bind State.CKs
  | .stored remoteAddress =>
      match manager.sessions.get remoteAddress with
      | some _ => none
      | none => (manager.db.get (sessionKey remoteAddress)).bind fun data => (deserialize data).CKs

theorem sendingChain_enter (others : ∀ other, other ≠ remoteAddress →
      db.get (sessionKey other) = manager.db.get (sessionKey other)) {place : Place} {current : Bytes}
    (held : sendingChain { manager.hold remoteAddress session with db := db } place = some current) :
    (place = .object manager.objects.length ∧ session.CKs = some current) ∨
      (place ≠ .object manager.objects.length ∧ place ≠ .stored remoteAddress ∧
        sendingChain manager place = some current) := by
  cases place with
  | object index =>
      simp only [sendingChain, Manager.hold] at held
      by_cases newest : index = manager.objects.length
      · subst newest
        rw [List.getElem?_concat_length] at held
        exact Or.inl ⟨rfl, held⟩
      · have inside : index < manager.objects.length := by
          by_contra beyond
          rw [List.getElem?_append_right (by omega),
            List.getElem?_eq_none (by simp; omega)] at held
          cases held
        rw [List.getElem?_append_left inside] at held
        exact Or.inr ⟨by simpa using newest, by simp, held⟩
  | stored other =>
      simp only [sendingChain, Manager.hold, OrderedMap.get_set] at held
      by_cases same : other = remoteAddress
      · simp [same] at held
      · simp only [same, ↓reduceIte, others other same] at held
        exact Or.inr ⟨by simp, by simpa using same, held⟩

theorem sendingChain_update {object : Nat} {call : State Bytes → State Bytes}
    (placed : manager.objects[object]? = some session) :
    sendingChain (manager.update object call) =
      Function.update (sendingChain manager) (.object object) (call session).CKs := by
  have inside := (List.getElem?_eq_some_iff.mp placed).1
  funext place
  by_cases same : place = .object object
  · subst same
    simp [Manager.update, placed, sendingChain, List.getElem?_set_self inside]
  · rw [Function.update_of_ne same]
    cases place with
    | stored other => simp [Manager.update, placed, sendingChain]
    | object index =>
        have different : object ≠ index := fun equal => same (by rw [equal])
        simp [Manager.update, placed, sendingChain, List.getElem?_set_ne different]

variable {agreed used : List Bytes}

-- A session whose chain starts from a new agreement, or that has no chain yet.
theorem separate_enter (free : FreeKdf P) (binds : AgreementBinds P)
    (separate : Separate P agreed used (sendingChain manager))
    (others : ∀ other, other ≠ remoteAddress →
      db.get (sessionKey other) = manager.db.get (sessionKey other))
    {root shared : Bytes} (fresh : shared ∉ agreed)
    (started : session.CKs = some (kdfRK P root shared).chainKey) :
    Separate P (shared :: agreed) used
      (sendingChain { manager.hold remoteAddress session with db := db }) := by
  have starting := separate.start free binds (.object manager.objects.length) root fresh
  refine starting.move id (fun place current held => ?_) fun _ _ _ _ same => same
  rcases sendingChain_enter others held with ⟨rfl, chain⟩ | ⟨apart, _, old⟩
  · rw [id, Function.update_self, ← chain, started]
  · rw [id, Function.update_of_ne apart, old]

theorem separate_enterIdle (separate : Separate P agreed used (sendingChain manager))
    (others : ∀ other, other ≠ remoteAddress →
      db.get (sessionKey other) = manager.db.get (sessionKey other))
    (silent : session.CKs = none) :
    Separate P agreed used (sendingChain { manager.hold remoteAddress session with db := db }) := by
  refine separate.move id (fun place current held => ?_) fun _ _ _ _ same => same
  rcases sendingChain_enter others held with ⟨_, chain⟩ | ⟨_, _, old⟩
  · rw [silent] at chain
    cases chain
  · exact old

theorem separate_load (separate : Separate P agreed used (sendingChain manager))
    (away : manager.sessions.get remoteAddress = none) {data : SerializedState}
    (stored : manager.db.get (sessionKey remoteAddress) = some data) :
    Separate P agreed used (sendingChain (manager.hold remoteAddress (deserialize data))) := by
  have enters {place : Place} {current : Bytes}
      (held : sendingChain { manager.hold remoteAddress (deserialize data) with db := manager.db }
        place = some current) := sendingChain_enter (fun _ _ => rfl) held
  refine separate.move (fun place => if place = .object manager.objects.length then
    .stored remoteAddress else place) (fun place current held => ?_) fun one other here there same => ?_
  · rcases enters held with ⟨rfl, chain⟩ | ⟨apart, _, old⟩
    · simpa [sendingChain, away, stored] using chain
    · simpa [apart] using old
  · obtain ⟨a, first⟩ := Option.ne_none_iff_exists'.mp here
    obtain ⟨b, second⟩ := Option.ne_none_iff_exists'.mp there
    rcases enters first with ⟨rfl, _⟩ | ⟨apart, notStored, _⟩ <;>
      rcases enters second with ⟨rfl, _⟩ | ⟨apartToo, notStoredToo, _⟩
    · rfl
    · simp only [↓reduceIte, apartToo] at same
      exact absurd same.symm notStoredToo
    · simp only [↓reduceIte, apart] at same
      exact absurd same notStored
    · simpa [apart, apartToo] using same

theorem separate_restart {untouched : Nat → Prop} (backed : Backed untouched manager)
    (whole : ∀ remoteAddress object, manager.sessions.get remoteAddress = some object →
      untouched object) (separate : Separate P agreed used (sendingChain manager)) :
    Separate P agreed used (sendingChain { newManager with db := manager.db }) := by
  -- A stored session stands where its object stood.
  let source : Place → Place := fun place => match place with
    | .object index => .object index
    | .stored remoteAddress => match manager.sessions.get remoteAddress with
      | some object => .object object
      | none => .stored remoteAddress
  refine separate.move source (fun place current held => ?_) fun one other here there same => ?_
  · cases place with
    | object index => simp [sendingChain, newManager] at held
    | stored remoteAddress =>
        have chain : ((manager.db.get (sessionKey remoteAddress)).map deserialize).bind
            State.CKs = some current := by
          simpa [sendingChain, newManager, Option.bind_map] using held
        cases mapped : manager.sessions.get remoteAddress with
        | none => simpa [source, sendingChain, mapped, Option.bind_map] using chain
        | some object =>
            obtain ⟨session, placed, stored⟩ := backed.present remoteAddress object mapped
            rw [stored (whole remoteAddress object mapped)] at chain
            simpa [source, sendingChain, mapped, placed] using chain
  · cases one with
    | object index => simp [sendingChain, newManager] at here
    | stored remoteAddress =>
        cases other with
        | object index => simp [sendingChain, newManager] at there
        | stored otherAddress =>
            cases first : manager.sessions.get remoteAddress <;>
              cases second : manager.sessions.get otherAddress <;>
              simp only [source, first, second, reduceCtorEq, Place.object.injEq,
                Place.stored.injEq] at same
            · rw [same]
            · rw [backed.single remoteAddress otherAddress _ first (same ▸ second)]

end Chains

section Steps
variable {P : Primitives Bytes}

/-- The session of an initiator whose first agreement is `shared`. -/
def initiated (P : Primitives Bytes) (sharedSecret remotePublicKey draw shared : Bytes) :
    State Bytes :=
  { DoubleRatchet.newState with
    DHs := some (DoubleRatchet.generateKeyPair P draw)
    DHr := some remotePublicKey
    RK := some (kdfRK P sharedSecret shared).rootKey
    CKs := some (kdfRK P sharedSecret shared).chainKey }

theorem createSessionAsInitiator_refused {sharedSecret remotePublicKey draw : Bytes}
    (refused : P.getSharedSecret draw remotePublicKey = none) (remoteAddress : String)
    (manager : Manager) :
    createSessionAsInitiator P remoteAddress sharedSecret remotePublicKey draw manager = manager := by
  simp [createSessionAsInitiator, DoubleRatchet.initAsInitiator, refused]

theorem createSessionAsInitiator_eq {sharedSecret remotePublicKey draw shared : Bytes}
    (agreed : P.getSharedSecret draw remotePublicKey = some shared) (remoteAddress : String)
    (manager : Manager) :
    createSessionAsInitiator P remoteAddress sharedSecret remotePublicKey draw manager =
      { manager.hold remoteAddress (initiated P sharedSecret remotePublicKey draw shared) with
        db := manager.db.set (sessionKey remoteAddress)
          (serialize (initiated P sharedSecret remotePublicKey draw shared)) } := by
  rw [← saveSession_hold]
  simp [createSessionAsInitiator, DoubleRatchet.initAsInitiator, agreed, initiated,
    DoubleRatchet.newState]

def responding (sharedSecret : Bytes) (ourKeyPair : KeyPair) : State Bytes :=
  (DoubleRatchet.initAsResponder sharedSecret ourKeyPair DoubleRatchet.newState).state

theorem createSessionAsResponder_eq (remoteAddress : String) (sharedSecret : Bytes)
    (ourKeyPair : KeyPair) (manager : Manager) :
    createSessionAsResponder remoteAddress sharedSecret ourKeyPair manager =
      { manager.hold remoteAddress (responding sharedSecret ourKeyPair) with
        db := manager.db.set (sessionKey remoteAddress)
          (serialize (responding sharedSecret ourKeyPair)) } :=
  saveSession_hold manager remoteAddress _

theorem saved_elsewhere (manager : Manager) {remoteAddress other : String}
    (data : SerializedState) (different : other ≠ remoteAddress) :
    (manager.db.set (sessionKey remoteAddress) data).get (sessionKey other) =
      manager.db.get (sessionKey other) :=
  OrderedMap.get_set_of_ne _ _ fun same => different (sessionKey_inj same)

-- `getSession` changes nothing, or loads a session that was only in the database.
theorem getSession_cases (remoteAddress : String) (manager : Manager) :
    (getSession remoteAddress manager).1 = manager ∨
      ∃ data, manager.sessions.get remoteAddress = none ∧
        manager.db.get (sessionKey remoteAddress) = some data ∧
        (getSession remoteAddress manager).1 = manager.hold remoteAddress (deserialize data) := by
  cases mapped : manager.sessions.get remoteAddress with
  | some object => exact Or.inl (by simp [getSession, mapped])
  | none =>
      cases stored : manager.db.get (sessionKey remoteAddress) with
      | none => exact Or.inl (by simp [getSession, mapped, stored])
      | some data => exact Or.inr ⟨data, rfl, rfl, by simp [getSession, mapped, stored]⟩

theorem encrypt_idle {session : State Bytes} (silent : session.CKs = none)
    (plaintext associatedData nonce : Bytes) :
    (DoubleRatchet.encrypt P plaintext associatedData nonce session).state = session := by
  simp [DoubleRatchet.encrypt, silent]

theorem decrypt_idle {session : State Bytes} {header : DoubleRatchet.MessageHeader}
    (refused : RefusedUnwritten P header session) (nonceB64 ciphertextB64 : String)
    (associatedData draw : Bytes) :
    (DoubleRatchet.decrypt P header nonceB64 ciphertextB64 associatedData draw session).state =
      session := by
  rw [DoubleRatchet.decrypt_state]
  exact (DoubleRatchet.receiveKey_unchanged_iff P header draw session).mpr refused

/-- A new session that survives storage enters the map and is saved. -/
theorem Backed.save {untouched : Nat → Prop} {manager : Manager} {session : State Bytes}
    (backed : Backed untouched manager) (remoteAddress : String)
    (whole : deserialize (serialize session) = session) :
    Backed untouched { manager.hold remoteAddress session with
      db := manager.db.set (sessionKey remoteAddress) (serialize session) } := by
  refine backed.enter ?_ fun other different => saved_elsewhere manager _ different
  rw [OrderedMap.get_set_self, Option.map_some, whole]

theorem step_backed (filled : KdfFills P) {request : Request} {earlier : List Request}
    (restorable : Restorable P request earlier)
    (backed : Backed (fun object => Untouched P object earlier) (managerAfter P earlier)) :
    Backed (fun object => Untouched P object (request :: earlier))
      (managerAfter P (request :: earlier)) := by
  cases request with
  | createSessionAsInitiator remoteAddress sharedSecret remotePublicKey draw =>
      have still : Backed (fun object => Untouched P object (.createSessionAsInitiator remoteAddress
          sharedSecret remotePublicKey draw :: earlier)) (managerAfter P earlier) :=
        backed.mono fun _ untouched => untouched.2
      show Backed _ (createSessionAsInitiator P remoteAddress sharedSecret remotePublicKey draw
        (managerAfter P earlier))
      cases agreed : P.getSharedSecret draw remotePublicKey with
      | none =>
          rw [createSessionAsInitiator_refused agreed]
          exact still
      | some shared =>
          rw [createSessionAsInitiator_eq agreed]
          refine still.save remoteAddress (deserialize_serialize ?_ ?_ ?_ (by simp [initiated,
            DoubleRatchet.newState]))
          · simpa [initiated, Restorable] using restorable
          · simpa [initiated] using (filled sharedSecret shared).1
          · simpa [initiated] using (filled sharedSecret shared).2
  | createSessionAsResponder remoteAddress sharedSecret ourKeyPair =>
      have still : Backed (fun object => Untouched P object (.createSessionAsResponder remoteAddress
          sharedSecret ourKeyPair :: earlier)) (managerAfter P earlier) :=
        backed.mono fun _ untouched => untouched.2
      show Backed _ (createSessionAsResponder remoteAddress sharedSecret ourKeyPair
        (managerAfter P earlier))
      rw [createSessionAsResponder_eq]
      have secret : (responding sharedSecret ourKeyPair).RK ≠ some [] := by
        simpa [responding, DoubleRatchet.initAsResponder, Restorable] using restorable
      refine still.save remoteAddress (deserialize_serialize ?_ secret ?_ ?_) <;>
        simp [responding, DoubleRatchet.initAsResponder]
  | getSession remoteAddress =>
      have still : Backed (fun object => Untouched P object (.getSession remoteAddress :: earlier))
          (managerAfter P earlier) := backed.mono fun _ untouched => untouched.2
      show Backed _ (getSession remoteAddress (managerAfter P earlier)).1
      rcases getSession_cases remoteAddress (managerAfter P earlier) with
        same | ⟨data, _, stored, loads⟩
      · rw [same]
        exact still
      · rw [loads]
        exact still.enter (by rw [stored, Option.map_some]) fun _ _ => rfl
  -- A session that is used from here on is no longer untouched, so nothing is asked of it.
  | encrypt object plaintext associatedData nonce =>
      refine backed.update _ (fun _ untouched => untouched.2) fun session placed untouched => ?_
      exact encrypt_idle (untouched.1 session placed rfl) plaintext associatedData nonce
  | decrypt object header nonceB64 ciphertextB64 associatedData draw =>
      refine backed.update _ (fun _ untouched => untouched.2) fun session placed untouched => ?_
      exact decrypt_idle (untouched.1 session placed rfl) nonceB64 ciphertextB64 associatedData draw
  -- Nothing is in memory after a restart.
  | restart => exact backed_new _ _

theorem history_backed (filled : KdfFills P) (past : List Request)
    (kept : EachInput (Restorable P) past) :
    Backed (fun object => Untouched P object past) (managerAfter P past) := by
  induction past with
  | nil => exact backed_new _ _
  | cons request earlier ih =>
      obtain ⟨restorable, before⟩ := eachInput_cons.mp kept
      exact step_backed filled restorable (ih before)

theorem encrypt_separate (free : FreeKdf P) {agreed used : List Bytes} {manager : Manager}
    (separate : Separate P agreed used (sendingChain manager)) (object : Nat)
    (plaintext associatedData nonce : Bytes) :
    Separate P agreed ((manager.objects[object]?.bind (sealingKey P)).toList ++ used)
      (sendingChain (manager.update object fun session =>
        (DoubleRatchet.encrypt P plaintext associatedData nonce session).state)) := by
  cases placed : manager.objects[object]? with
  | none => simpa [Manager.update, placed] using separate
  | some session =>
      have stands : sendingChain manager (.object object) = session.CKs := by
        simp [sendingChain, placed]
      rw [sendingChain_update placed]
      cases sending : session.CKs with
      | none =>
          rw [encrypt_idle sending, ← stands, Function.update_eq_self]
          simpa [sealingKey, sending] using separate
      | some current =>
          have next : (DoubleRatchet.encrypt P plaintext associatedData nonce session).state.CKs =
              some (kdfCK P current).chainKey := by
            cases pair : session.DHs <;> simp [DoubleRatchet.encrypt, sending, pair]
          have spent := separate.spend free (stands.trans sending)
          rw [next]
          cases pair : session.DHs with
          | none => simpa [sealingKey, sending, pair] using spent.unseal
          | some ours => simpa [sealingKey, sending, pair] using spent

theorem decrypt_separate (free : FreeKdf P) (binds : AgreementBinds P) {agreed used : List Bytes}
    {manager : Manager} (separate : Separate P agreed used (sendingChain manager)) (object : Nat)
    (header : DoubleRatchet.MessageHeader) (nonceB64 ciphertextB64 : String)
    (associatedData draw : Bytes)
    (fresh : ∀ shared, manager.objects[object]?.bind (startedFrom P header draw) = some shared →
      shared ∉ agreed) :
    Separate P ((manager.objects[object]?.bind (startedFrom P header draw)).toList ++ agreed) used
      (sendingChain (manager.update object fun session =>
        (DoubleRatchet.decrypt P header nonceB64 ciphertextB64 associatedData draw session).state)) := by
  cases placed : manager.objects[object]? with
  | none => simpa [Manager.update, placed] using separate
  | some session =>
      have stands : sendingChain manager (.object object) = session.CKs := by
        simp [sendingChain, placed]
      rw [placed] at fresh
      rw [sendingChain_update placed]
      rcases DoubleRatchet.decrypt_sending (P := P) header nonceB64 ciphertextB64 associatedData draw
        session with ⟨quiet, same⟩ | ⟨root, shared, started, chain⟩
      · rw [same, ← stands, Function.update_eq_self]
        simpa [quiet] using separate
      · rw [chain]
        simpa [started] using separate.start free binds (.object object) root (fresh shared started)

theorem step_separate (free : FreeKdf P) (binds : AgreementBinds P) {request : Request}
    {earlier : List Request} (restorable : Restorable P request earlier)
    (backed : Backed (fun object => Untouched P object earlier) (managerAfter P earlier))
    (fresh : (agreements P (request :: earlier)).Nodup)
    (separate : Separate P (agreements P earlier) (usedKeys P earlier)
      (sendingChain (managerAfter P earlier))) :
    Separate P (agreements P (request :: earlier)) (usedKeys P (request :: earlier))
      (sendingChain (managerAfter P (request :: earlier))) := by
  have unseen : ∀ shared, agreement P request (managerAfter P earlier) = some shared →
      shared ∉ agreements P earlier := by
    intro shared agreed member
    rw [agreements, agreed, Option.toList_some, List.singleton_append, List.nodup_cons] at fresh
    exact fresh.1 member
  cases request with
  | createSessionAsInitiator remoteAddress sharedSecret remotePublicKey draw =>
      show Separate P ((P.getSharedSecret draw remotePublicKey).toList ++ agreements P earlier) _
        (sendingChain (createSessionAsInitiator P remoteAddress sharedSecret remotePublicKey draw
          (managerAfter P earlier)))
      cases agreed : P.getSharedSecret draw remotePublicKey with
      | none =>
          rw [createSessionAsInitiator_refused agreed]
          exact separate
      | some shared =>
          rw [createSessionAsInitiator_eq agreed]
          exact separate_enter free binds separate
            (fun other different => saved_elsewhere _ _ different) (unseen shared agreed) rfl
  | createSessionAsResponder remoteAddress sharedSecret ourKeyPair =>
      show Separate P _ _ (sendingChain (createSessionAsResponder remoteAddress sharedSecret ourKeyPair
        (managerAfter P earlier)))
      rw [createSessionAsResponder_eq]
      exact separate_enterIdle separate (fun other different => saved_elsewhere _ _ different) rfl
  | getSession remoteAddress =>
      show Separate P _ _ (sendingChain (getSession remoteAddress (managerAfter P earlier)).1)
      rcases getSession_cases remoteAddress (managerAfter P earlier) with
        same | ⟨data, away, stored, loads⟩
      · rw [same]
        exact separate
      · rw [loads]
        exact separate_load separate away stored
  | encrypt object plaintext associatedData nonce =>
      exact encrypt_separate free separate object plaintext associatedData nonce
  | decrypt object header nonceB64 ciphertextB64 associatedData draw =>
      exact decrypt_separate free binds separate object header nonceB64 ciphertextB64
        associatedData draw unseen
  -- What is loaded again later is what was untouched, so no chain starts over.
  | restart => exact separate_restart backed restorable separate

theorem history_separate (free : FreeKdf P) (binds : AgreementBinds P) (filled : KdfFills P)
    (past : List Request) (kept : EachInput (Restorable P) past) (fresh : (agreements P past).Nodup) :
    Separate P (agreements P past) (usedKeys P past) (sendingChain (managerAfter P past)) := by
  induction past with
  | nil =>
      refine DoubleRatchet.separate_start _ fun place => ?_
      cases place <;> simp [sendingChain, managerAfter, newManager]
  | cons request earlier ih =>
      obtain ⟨restorable, before⟩ := eachInput_cons.mp kept
      have fewer : (agreements P earlier).Nodup := (List.nodup_append.mp fresh).2.1
      exact step_separate free binds restorable (history_backed filled earlier before) fresh
        (ih before fewer)

theorem hold_elsewhere {manager : Manager} {remoteAddress other : String} (session : State Bytes)
    (apart : other ≠ remoteAddress) (away : manager.sessions.get other = none) :
    (manager.hold remoteAddress session).sessions.get other = none :=
  (OrderedMap.get_set_of_ne _ _ apart).trans away

-- A session that is not in memory waits in the database until a request is about it.
theorem handle_elsewhere {manager : Manager} {remoteAddress : String} (request : Request)
    (apart : concerned request ≠ some remoteAddress)
    (away : manager.sessions.get remoteAddress = none) :
    (handle P request manager).sessions.get remoteAddress = none ∧
      (handle P request manager).db.get (sessionKey remoteAddress) =
        manager.db.get (sessionKey remoteAddress) := by
  cases request with
  | createSessionAsInitiator created sharedSecret remotePublicKey draw =>
      have different : remoteAddress ≠ created := fun same => apart (by rw [concerned, same])
      rw [handle]
      cases agreed : P.getSharedSecret draw remotePublicKey with
      | none =>
          rw [createSessionAsInitiator_refused agreed]
          exact ⟨away, rfl⟩
      | some shared =>
          rw [createSessionAsInitiator_eq agreed]
          exact ⟨hold_elsewhere (initiated P sharedSecret remotePublicKey draw shared) different away,
            saved_elsewhere manager _ different⟩
  | createSessionAsResponder created sharedSecret ourKeyPair =>
      have different : remoteAddress ≠ created := fun same => apart (by rw [concerned, same])
      rw [handle, createSessionAsResponder_eq]
      exact ⟨hold_elsewhere (responding sharedSecret ourKeyPair) different away,
        saved_elsewhere manager _ different⟩
  | getSession asked =>
      have different : remoteAddress ≠ asked := fun same => apart (by rw [concerned, same])
      rw [handle]
      rcases getSession_cases asked manager with same | ⟨data, _, _, loads⟩
      · rw [same]
        exact ⟨away, rfl⟩
      · rw [loads]
        exact ⟨hold_elsewhere (deserialize data) different away, rfl⟩
  | encrypt object plaintext associatedData nonce =>
      cases placed : manager.objects[object]? <;> simpa [handle, Manager.update, placed] using away
  | decrypt object header nonceB64 ciphertextB64 associatedData draw =>
      cases placed : manager.objects[object]? <;> simpa [handle, Manager.update, placed] using away
  | restart => exact ⟨rfl, rfl⟩

theorem restart_waits (later earlier : List Request) {remoteAddress : String}
    (apart : ∀ request ∈ later, concerned request ≠ some remoteAddress) :
    (managerAfter P (later ++ .restart :: earlier)).sessions.get remoteAddress = none ∧
      (managerAfter P (later ++ .restart :: earlier)).db.get (sessionKey remoteAddress) =
        (managerAfter P earlier).db.get (sessionKey remoteAddress) := by
  induction later with
  | nil => exact ⟨rfl, rfl⟩
  | cons request rest ih =>
      obtain ⟨away, stored⟩ := ih fun other member => apart other (List.mem_cons_of_mem _ member)
      obtain ⟨stillAway, kept⟩ := handle_elsewhere (P := P) request
        (apart request List.mem_cons_self) away
      exact ⟨stillAway, kept.trans stored⟩

theorem restart_serves (filled : KdfFills P) {later earlier : List Request}
    (kept : EachInput (Restorable P) (.restart :: earlier)) {remoteAddress : String}
    (apart : ∀ request ∈ later, concerned request ≠ some remoteAddress) :
    served (managerAfter P (later ++ .restart :: earlier)) remoteAddress =
      served (managerAfter P earlier) remoteAddress := by
  obtain ⟨away, stored⟩ := restart_waits (P := P) later earlier apart
  obtain ⟨untouched, before⟩ := eachInput_cons.mp kept
  rw [served_stored away, stored]
  cases mapped : (managerAfter P earlier).sessions.get remoteAddress with
  | none => rw [served_stored mapped]
  | some object =>
      obtain ⟨session, placed, whole⟩ :=
        (history_backed filled earlier before).present remoteAddress object mapped
      rw [served_held mapped, placed, whole (untouched remoteAddress object mapped)]

/-- While every restart finds the held sessions untouched, no message key seals
    twice, and the first session served after a restart is the one before it. -/
theorem restarts_keep_sessions (free : FreeKdf P) (binds : AgreementBinds P) (filled : KdfFills P)
    (past : List Request) (fresh : (agreements P past).Nodup)
    (kept : EachInput (Restorable P) past) :
    (usedKeys P past).Nodup ∧
      ∀ later earlier remoteAddress, later ++ .restart :: earlier <:+ past →
        (∀ request ∈ later, concerned request ≠ some remoteAddress) →
        served (managerAfter P (later ++ .restart :: earlier)) remoteAddress =
          served (managerAfter P earlier) remoteAddress := by
  refine ⟨(history_separate free binds filled past kept fresh).distinct, ?_⟩
  intro later earlier remoteAddress suffix apart
  have within : Request.restart :: earlier <:+ past := (List.suffix_append _ _).trans suffix
  exact restart_serves filled (kept.suffix within) apart

end Steps

/-! An initiator writes to bob, the process restarts, and it writes to bob again. -/

theorem framed_fills : KdfFills DoubleRatchet.framedPrimitives := fun _ _ => ⟨nofun, nofun⟩

def sessionWithBob : Request :=
  .createSessionAsInitiator "bob" [9] (List.replicate 32 2) (List.replicate 32 5)

def writtenTwice : List Request :=
  [.encrypt 0 [111] [] (List.replicate 12 1), .getSession "bob", .restart,
    .encrypt 0 [104, 105] [] (List.replicate 12 1), sessionWithBob]

def writtenOnce : List Request :=
  [.encrypt 0 [111] [] (List.replicate 12 1), .getSession "bob", .restart, sessionWithBob]

theorem restart_repeats_key :
    (agreements DoubleRatchet.framedPrimitives writtenTwice).Nodup ∧
      ¬ (usedKeys DoubleRatchet.framedPrimitives writtenTwice).Nodup ∧
      (served (managerAfter DoubleRatchet.framedPrimitives (writtenTwice.drop 2)) "bob").map State.Ns ≠
        (served (managerAfter DoubleRatchet.framedPrimitives (writtenTwice.drop 3)) "bob").map
          State.Ns :=
  ⟨by decide +kernel, by decide +kernel, by decide +kernel⟩

theorem writtenOnce_keys :
    (usedKeys DoubleRatchet.framedPrimitives writtenOnce).Nodup ∧
      served (managerAfter DoubleRatchet.framedPrimitives [.restart, sessionWithBob]) "bob" =
        served (managerAfter DoubleRatchet.framedPrimitives [sessionWithBob]) "bob" := by
  have kept : EachInput (Restorable DoubleRatchet.framedPrimitives) writtenOnce := by
    refine eachInput_cons.mpr ⟨trivial, eachInput_cons.mpr ⟨trivial, eachInput_cons.mpr
      ⟨fun _ _ _ => ⟨fun _ _ => trivial, trivial⟩, eachInput_cons.mpr ⟨nofun, eachInput_nil⟩⟩⟩⟩
  obtain ⟨distinct, same⟩ := restarts_keep_sessions DoubleRatchet.framed_free
    DoubleRatchet.framed_binds framed_fills writtenOnce (by decide +kernel) kept
  refine ⟨distinct, same [] [sessionWithBob] "bob" ?_ nofun⟩
  exact (List.suffix_cons _ _).trans (List.suffix_cons _ _)

end Chainmail.SessionManager
