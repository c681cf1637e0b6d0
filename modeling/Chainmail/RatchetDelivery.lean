import Chainmail.Runs
import Chainmail.RatchetReceive

/-!
Two sessions and the messages between them. Either party encrypts at any time,
messages are lost or delivered in any order, each at most once, and a delivery
happens only while both skips pass their guard. Every delivered message then
decrypts to the plaintext that was encrypted.
-/

namespace Chainmail.DoubleRatchet

inductive Party where
  | initiator
  | responder
deriving DecidableEq

def Party.peer : Party → Party
  | .initiator => .responder
  | .responder => .initiator

structure Message where
  recipient : Party
  sent : Encrypted
  associatedData : Bytes
  plaintext : Bytes
deriving DecidableEq

def Message.slot (message : Message) : SkipKey :=
  skipKey message.sent.header.dhPublicKey message.sent.header.messageNumber

structure Delivery where
  message : Message
  result : Except Thrown Bytes

/-- `generated` is every public key drawn so far, by either party. -/
structure Network (Secret : Type) where
  session : Party → State Secret
  inFlight : List Message
  delivered : List Delivery
  generated : List Bytes

variable {Secret : Type}

namespace Network
variable (P : Primitives Secret)

def paired (sharedSecret : Secret) (ourKeyPair : KeyPair) (draw : Bytes) : Network Secret where
  session
    | .initiator => (initAsInitiator P sharedSecret ourKeyPair.publicKey draw newState).state
    | .responder => (initAsResponder sharedSecret ourKeyPair newState).state
  inFlight := []
  delivered := []
  generated := [P.getPublicKey draw, ourKeyPair.publicKey]

-- A responder that has decrypted nothing has no sending chain: its call throws and sends nothing.
def send (sender : Party) (plaintext associatedData nonce : Bytes) (net : Network Secret) :
    Network Secret :=
  let call := encrypt P plaintext associatedData nonce (net.session sender)
  { net with
    session := Function.update net.session sender call.state
    inFlight := net.inFlight ++ match call.result with
      | .ok sent => [⟨sender.peer, sent, associatedData, plaintext⟩]
      | .error _ => [] }

def deliver (message : Message) (draw : Bytes) (rest : List Message) (net : Network Secret) :
    Network Secret :=
  let reader := net.session message.recipient
  let call := decrypt P message.sent.header message.sent.nonce message.sent.ciphertext
    message.associatedData draw reader
  { session := Function.update net.session message.recipient call.state
    inFlight := rest
    delivered := ⟨message, call.result⟩ :: net.delivered
    generated := recordDraw P message.sent.header reader draw net.generated }

end Network

inductive Paired (P : Primitives Secret) : Network Secret → Prop
  | setup (sharedSecret : Secret) (ourKeyPair : KeyPair) (draw : Bytes)
      (sized : ourKeyPair.privateKey.length = 32)
      (published : ourKeyPair.publicKey = P.getPublicKey ourKeyPair.privateKey)
      (drawSized : draw.length = 32) (distinct : P.getPublicKey draw ≠ ourKeyPair.publicKey) :
      Paired P (Network.paired P sharedSecret ourKeyPair draw)

inductive Step (P : Primitives Secret) : Network Secret → Network Secret → Prop
  | send (net : Network Secret) (sender : Party) (plaintext associatedData nonce : Bytes)
      (sized : nonce.length = 12) : Step P net (net.send P sender plaintext associatedData nonce)
  | lose (net : Network Secret) (before after : List Message) (message : Message)
      (split : net.inFlight = before ++ message :: after) :
      Step P net { net with inFlight := before ++ after }
  | deliver (net : Network Secret) (before after : List Message) (message : Message)
      (draw : Bytes) (split : net.inFlight = before ++ message :: after)
      (window : InWindow message.sent.header (net.session message.recipient))
      (drawn : Ratchets message.sent.header (net.session message.recipient) = true →
        draw.length = 32 ∧ P.getPublicKey draw ∉ net.generated) :
      Step P net (net.deliver P message draw (before ++ after))

section Invariant
variable {P : Primitives Secret} {epochs : Epochs Secret} {level : Party → Nat}
  {net : Network Secret}

/-- A message in flight to a reader at level `reader` from a writer at level `writer`. -/
structure Carried (P : Primitives Secret) (epochs : Epochs Secret) (reader writer : Nat)
    (state : State Secret) (message : Message) (epoch number : Nat) : Prop where
  header : message.sent.header = epochs.header epoch number
  sent : number < epochs.sent epoch
  written : epoch ≤ writer
  parity : (epoch + reader) % 2 = 1
  awaits : Awaits P epochs reader state epoch number
  sealed : ∃ nonce : Bytes, nonce.length = 12 ∧ message.sent.nonce = toBase64 nonce ∧
    message.sent.ciphertext = toBase64
      (P.cipherEncrypt (epochs.key P epoch number) nonce message.associatedData message.plaintext)

/-- The two sessions are one turn apart on a common schedule. -/
structure Synchronised (P : Primitives Secret) (epochs : Epochs Secret) (level : Party → Nat)
    (net : Network Secret) : Prop where
  adjacent : ∀ party, level party = level party.peer + 1 ∨ level party.peer = level party + 1
  wired : ∀ party, Wired P epochs (max (level party) (level party.peer)) net.generated
  follows : ∀ party, Follows P epochs (level party) (net.session party)
  carried : ∀ message ∈ net.inFlight, ∃ epoch number,
    Carried P epochs (level message.recipient) (level message.recipient.peer)
      (net.session message.recipient) message epoch number
  apart : (net.inFlight.map Message.slot).Nodup
  correct : ∀ delivery ∈ net.delivered, delivery.result = .ok delivery.message.plaintext

@[simp] theorem peer_peer (party : Party) : party.peer.peer = party := by
  cases party <;> rfl

theorem peer_ne (party : Party) : party.peer ≠ party := by
  cases party <;> decide

theorem eq_or_peer (party other : Party) : other = party ∨ other = party.peer := by
  cases party <;> cases other <;> decide

theorem Synchronised.level_le (synchronised : Synchronised P epochs level net) (party : Party) :
    level party.peer ≤ level party + 1 ∧ level party ≤ level party.peer + 1 := by
  have adjacent := synchronised.adjacent party
  omega

/-- The schedule right after both sessions are set up. -/
def firstEpochs (P : Primitives Secret) (sharedSecret : Secret) (ourKeyPair : KeyPair)
    (draw : Bytes) (shared : Secret) : Epochs Secret where
  pair
    | 0 => ourKeyPair
    | _ + 1 => generateKeyPair P draw
  root
    | 0 => sharedSecret
    | _ + 1 => (kdfRK P sharedSecret shared).rootKey
  chain _ := (kdfRK P sharedSecret shared).chainKey
  sent _ := 0

def firstLevel : Party → Nat
  | .initiator => 1
  | .responder => 0

theorem synchronised_paired (commutes : X25519Commutes P) (start : Paired P net) :
    ∃ epochs level, Synchronised P epochs level net := by
  obtain ⟨sharedSecret, ourKeyPair, draw, sized, published, drawSized, distinct⟩ := start
  obtain ⟨shared, ours, theirs⟩ := commutes draw ourKeyPair.privateKey drawSized sized
  rw [← published] at ours
  refine ⟨firstEpochs P sharedSecret ourKeyPair draw shared, firstLevel, ?_⟩
  -- Two pairs are there from the start: the one of the responder, and the one that is drawn.
  have wired : Wired P (firstEpochs P sharedSecret ourKeyPair draw shared) 1
      [P.getPublicKey draw, ourKeyPair.publicKey] := by
    constructor
    case sized =>
      intro i _
      cases i with
      | zero => exact sized
      | succ i => exact drawSized
    case published =>
      intro i _
      cases i with
      | zero => exact published
      | succ i => rfl
    case distinct =>
      intro i iInside j jInside same
      rcases i with _ | i <;> rcases j with _ | j
      · rfl
      · exact absurd same.symm distinct
      · exact absurd same distinct
      · omega
    case recorded =>
      intro i _
      cases i with
      | zero => simp [firstEpochs]
      | succ i => simp [firstEpochs, generateKeyPair]
    case agreed =>
      intro i below
      obtain rfl : i = 0 := by omega
      exact ⟨shared, theirs, rfl, rfl⟩
    case unsent => exact fun _ _ => rfl
    case silent => rfl
  constructor
  case adjacent =>
    intro party
    cases party
    · exact Or.inl rfl
    · exact Or.inr rfl
  case wired =>
    intro party
    cases party <;> exact wired
  case follows =>
    intro party
    cases party with
    | initiator =>
        have initiated : (initAsInitiator P sharedSecret ourKeyPair.publicKey draw newState).state =
            { newState with
              DHs := some (generateKeyPair P draw), DHr := some ourKeyPair.publicKey
              RK := some (kdfRK P sharedSecret shared).rootKey
              CKs := some (kdfRK P sharedSecret shared).chainKey } := by
          simp [initAsInitiator, ours, newState]
        simp only [Network.paired, initiated]
        constructor <;> first | rfl | exact fun slot stored held => nomatch held
    | responder =>
        constructor <;> first | rfl | exact fun slot stored held => nomatch held
  case carried => exact fun message member => nomatch member
  case apart => exact List.nodup_nil
  case correct => exact fun delivery member => nomatch member

theorem Synchronised.lose (synchronised : Synchronised P epochs level net)
    {before after : List Message} {message : Message}
    (split : net.inFlight = before ++ message :: after) :
    Synchronised P epochs level { net with inFlight := before ++ after } where
  adjacent := synchronised.adjacent
  wired := synchronised.wired
  follows := synchronised.follows
  carried other member := by
    refine synchronised.carried other ?_
    rw [split]
    exact List.mem_append.mpr ((List.mem_append.mp member).imp_right (List.mem_cons_of_mem _))
  apart := by
    have apart := synchronised.apart
    rw [split] at apart
    refine apart.sublist (List.Sublist.map _ ?_)
    exact (List.Sublist.refl before).append (List.sublist_cons_self message after)
  correct := synchronised.correct

/-- The schedule after one more message on chain `writer`. -/
def sentOne (epochs : Epochs Secret) (writer : Nat) : Epochs Secret :=
  { epochs with sent := Function.update epochs.sent writer (epochs.sent writer + 1) }

theorem sentOne_of_ne {writer other : Nat} (different : other ≠ writer) :
    (sentOne epochs writer).sent other = epochs.sent other :=
  Function.update_of_ne different _ _

theorem sentOne_extends {top writer : Nat} (newest : top ≤ writer + 1) :
    Extends top epochs (sentOne epochs writer) where
  pair _ _ := rfl
  root _ _ := rfl
  chain _ _ := rfl
  prior i inside := by
    rcases i with _ | _ | i
    · rfl
    · rfl
    · exact sentOne_of_ne (by omega)
  sent i := by
    by_cases same : i = writer
    · subst same
      simp [sentOne]
    · rw [sentOne_of_ne same]

theorem sentOne_wired {top writer : Nat} {generated : List Bytes}
    (wired : Wired P epochs top generated) (inside : writer ≤ top) (started : 0 < writer) :
    Wired P (sentOne epochs writer) top generated where
  sized := wired.sized
  published := wired.published
  distinct := wired.distinct
  recorded := wired.recorded
  agreed := wired.agreed
  unsent i above := by
    rw [sentOne_of_ne (by omega)]
    exact wired.unsent i above
  silent := by
    rw [sentOne_of_ne (by omega)]
    exact wired.silent

def afterSend (P : Primitives Secret) (epochs : Epochs Secret) (writer : Nat)
    (state : State Secret) : State Secret :=
  { state with
    CKs := some (advance P (epochs.sent writer + 1) (epochs.chain writer))
    Ns := state.Ns + 1 }

theorem encrypt_follows {writer : Nat} {state : State Secret}
    (follows : Follows P epochs (writer + 1) state) (plaintext associatedData nonce : Bytes) :
    encrypt P plaintext associatedData nonce state = .returns
      (afterSend P epochs (writer + 1) state)
      { header := epochs.header (writer + 1) (epochs.sent (writer + 1))
        nonce := toBase64 nonce
        ciphertext := toBase64 (P.cipherEncrypt
          (epochs.key P (writer + 1) (epochs.sent (writer + 1))) nonce associatedData plaintext) } := by
  have sending := follows.sending
  rw [sendingAt] at sending
  simp only [encrypt, sending, follows.pair, follows.counted, follows.earlier, afterSend,
    advance_succ]
  rfl

theorem afterSend_follows {writer : Nat} {state : State Secret}
    (follows : Follows P epochs (writer + 1) state) :
    Follows P (sentOne epochs (writer + 1)) (writer + 1)
      (afterSend P epochs (writer + 1) state) := by
  have extended : Extends (writer + 1) epochs (sentOne epochs (writer + 1)) :=
    sentOne_extends (Nat.le_succ (writer + 1))
  exact {
    pair := follows.pair
    remote := follows.remote
    root := follows.root
    sending := by simp [afterSend, sendingAt, sentOne]
    receiving := follows.receiving
    counted := by simp [afterSend, sentOne, follows.counted]
    earlier := by
      rw [extended.prior _ (by omega)]
      exact follows.earlier
    received := follows.received.trans (extended.sent _)
    stored := extended.stored (by omega) follows.stored }

-- The message stays where it is while the schedule and the two levels move on.
theorem Carried.extend {later : Epochs Secret} {top reader writer readerAfter writerAfter : Nat}
    {before after : State Secret} {message : Message} {epoch number : Nat}
    (carried : Carried P epochs reader writer before message epoch number)
    (extended : Extends top epochs later) (inside : writer ≤ top) (onward : writer ≤ writerAfter)
    (even : (readerAfter + reader) % 2 = 0) (awaits : Awaits P later readerAfter after epoch number) :
    Carried P later readerAfter writerAfter after message epoch number := by
  have written := carried.written
  exact {
    header := by rw [extended.header (by omega)]; exact carried.header
    sent := Nat.lt_of_lt_of_le carried.sent (extended.sent epoch)
    written := by omega
    parity := by have parity := carried.parity; omega
    awaits := awaits
    sealed := by rw [extended.key (by omega)]; exact carried.sealed }

theorem Awaits.same_store {reader epoch number : Nat} {before after : State Secret}
    (awaits : Awaits P epochs reader before epoch number) (received : after.Nr = before.Nr)
    (store : after.MKSKIPPED = before.MKSKIPPED) : Awaits P epochs reader after epoch number := by
  rwa [Awaits, received, store]

theorem update_kept {α : Type} (session : Party → State Secret) {sender : Party}
    {after : State Secret} (field : State Secret → α)
    (same : field after = field (session sender)) (party : Party) :
    field (Function.update session sender after party) = field (session party) := by
  by_cases here : party = sender
  · subst here
    rw [Function.update_self]
    exact same
  · rw [Function.update_of_ne here]

theorem Synchronised.sentOne_extends {writer : Nat} {sender : Party}
    (synchronised : Synchronised P epochs level net) (written : level sender = writer + 1)
    (party : Party) : Extends (level party) epochs (sentOne epochs (writer + 1)) := by
  have close := synchronised.level_le sender
  rcases eq_or_peer sender party with rfl | rfl
  · exact DoubleRatchet.sentOne_extends (by omega)
  · exact DoubleRatchet.sentOne_extends (by omega)

/-- The message that is sent next is carried to a reader who cannot be past it. -/
theorem Synchronised.newest {writer : Nat} {sender : Party}
    (synchronised : Synchronised P epochs level net) (written : level sender = writer + 1)
    {reader : State Secret} (unread : reader.Nr = (net.session sender.peer).Nr)
    (plaintext associatedData nonce : Bytes) (sized : nonce.length = 12) :
    Carried P (sentOne epochs (writer + 1)) (level sender.peer) (level sender) reader
      ⟨sender.peer, ⟨epochs.header (writer + 1) (epochs.sent (writer + 1)), toBase64 nonce,
        toBase64 (P.cipherEncrypt (epochs.key P (writer + 1) (epochs.sent (writer + 1))) nonce
          associatedData plaintext)⟩, associatedData, plaintext⟩
      (writer + 1) (epochs.sent (writer + 1)) := by
  have adjacent := synchronised.adjacent sender
  have extended := synchronised.sentOne_extends written sender
  refine ⟨?_, ?_, ?_, ?_, ?_, ?_⟩
  · exact (extended.header (by omega) _).symm
  · simp [sentOne]
  · omega
  · omega
  · intro below early
    have received := (synchronised.follows sender.peer).received
    rw [unread] at early
    have next : level sender.peer - 1 = writer + 1 := by omega
    rw [next] at received
    exact absurd (early (by omega)) (by omega)
  · exact ⟨nonce, sized, rfl, by rw [extended.key (by omega)]⟩

/-- No message in flight has the slot that is sent to next. -/
theorem Synchronised.slot_fresh {writer : Nat} {sender : Party}
    (synchronised : Synchronised P epochs level net) (written : level sender = writer + 1)
    {message : Message} (member : message ∈ net.inFlight) :
    message.slot ≠ epochs.slot (writer + 1) (epochs.sent (writer + 1)) := by
  intro same
  obtain ⟨epoch, number, carried⟩ := synchronised.carried message member
  rw [Message.slot, carried.header] at same
  have inside : epoch ≤ max (level sender) (level sender.peer) := by
    have earlier := carried.written
    rcases eq_or_peer sender message.recipient.peer with here | there
    · rw [here] at earlier
      omega
    · rw [there] at earlier
      omega
  obtain ⟨rfl, rfl⟩ := slot_inj (synchronised.wired sender) inside (by omega) same
  exact absurd carried.sent (Nat.lt_irrefl _)

theorem Synchronised.send (synchronised : Synchronised P epochs level net) (sender : Party)
    (plaintext associatedData nonce : Bytes) (sized : nonce.length = 12) :
    ∃ later, Synchronised P later level (net.send P sender plaintext associatedData nonce) := by
  have follows := synchronised.follows sender
  -- A session at level zero has no sending chain yet, so nothing is sent.
  cases written : level sender with
  | zero =>
      rw [written] at follows
      have refused : encrypt P plaintext associatedData nonce (net.session sender) =
          .throws (net.session sender) .typeError := by
        simp [encrypt, follows.sending, sendingAt]
      refine ⟨epochs, ?_⟩
      simpa [Network.send, refused] using synchronised
  | succ writer =>
      rw [written] at follows
      have returned := encrypt_follows follows plaintext associatedData nonce
      have extended := synchronised.sentOne_extends written
      have sameNr : (afterSend P epochs (writer + 1) (net.session sender)).Nr =
          (net.session sender).Nr := rfl
      have sameStore : (afterSend P epochs (writer + 1) (net.session sender)).MKSKIPPED =
          (net.session sender).MKSKIPPED := rfl
      have keptNr := update_kept net.session State.Nr sameNr
      have keptStore := update_kept net.session State.MKSKIPPED sameStore
      refine ⟨sentOne epochs (writer + 1), ?_⟩
      simp only [Network.send, returned, Outcome.returns_result, Outcome.returns_state]
      constructor
      case adjacent => exact synchronised.adjacent
      case wired =>
        intro party
        refine sentOne_wired (synchronised.wired party) ?_ (Nat.succ_pos writer)
        rcases eq_or_peer sender party with rfl | rfl
        · omega
        · rw [peer_peer]
          omega
      case follows =>
        intro party
        by_cases same : party = sender
        · subst same
          simpa [written] using afterSend_follows follows
        · have other : level party ≠ writer + 1 := by
            have adjacent := synchronised.adjacent sender
            obtain rfl := (eq_or_peer sender party).resolve_left same
            omega
          simp only [Function.update_of_ne same]
          exact (extended party).follows (Nat.le_refl _) (sentOne_of_ne other)
            (synchronised.follows party)
      case carried =>
        intro message member
        -- The messages under way are awaited as before; the new one is awaited for the first time.
        rcases List.mem_append.mp member with old | new
        · obtain ⟨epoch, number, carried⟩ := synchronised.carried message old
          have awaits := carried.awaits.same_store (keptNr _) (keptStore _)
          exact ⟨epoch, number, carried.extend (extended _) (Nat.le_refl _) (Nat.le_refl _)
            (by omega) ((extended _).awaits carried.written awaits)⟩
        · obtain rfl := List.mem_singleton.mp new
          refine ⟨writer + 1, epochs.sent (writer + 1), ?_⟩
          rw [peer_peer]
          exact synchronised.newest written (keptNr _) plaintext associatedData nonce sized
      case apart =>
        simp only [List.map_append, List.map_cons, List.map_nil]
        refine List.nodup_append.mpr ⟨synchronised.apart, List.nodup_singleton _, ?_⟩
        intro slot old new fresh same
        obtain rfl := List.mem_singleton.mp fresh
        obtain ⟨message, member, rfl⟩ := List.mem_map.mp old
        exact synchronised.slot_fresh written member same
      case correct => exact synchronised.correct

theorem Carried.decrypts (roundTrips : CipherRoundTrips P) {reader writer : Nat}
    {before after : State Secret} {message : Message} {epoch number : Nat} {draw : Bytes}
    (carried : Carried P epochs reader writer before message epoch number)
    (selected : receiveKey P message.sent.header draw before =
      .returns after (epochs.key P epoch number)) :
    decrypt P message.sent.header message.sent.nonce message.sent.ciphertext
      message.associatedData draw before = .returns after message.plaintext := by
  obtain ⟨nonce, sized, sentNonce, sentText⟩ := carried.sealed
  rw [decrypt, selected, Outcome.returns_andThen, sentNonce, sentText, fromBase64_toBase64,
    fromBase64_toBase64, roundTrips _ _ _ _ sized]

theorem Synchronised.slot_apart (synchronised : Synchronised P epochs level net)
    {before after : List Message} {message : Message}
    (split : net.inFlight = before ++ message :: after) :
    message.slot ∉ (before ++ after).map Message.slot := by
  have distinct := synchronised.apart
  rw [split, List.map_append, List.map_cons, List.nodup_middle, List.nodup_cons] at distinct
  rw [List.map_append]
  exact distinct.1

theorem Synchronised.deliver (commutes : X25519Commutes P) (roundTrips : CipherRoundTrips P)
    (synchronised : Synchronised P epochs level net) {before after : List Message}
    {message : Message} {draw : Bytes} (split : net.inFlight = before ++ message :: after)
    (window : InWindow message.sent.header (net.session message.recipient))
    (drawn : Ratchets message.sent.header (net.session message.recipient) = true →
      draw.length = 32 ∧ P.getPublicKey draw ∉ net.generated) :
    ∃ later levelAfter, Synchronised P later levelAfter
      (net.deliver P message draw (before ++ after)) := by
  have member : message ∈ net.inFlight := by simp [split]
  obtain ⟨epoch, number, carried⟩ := synchronised.carried message member
  have adjacent := synchronised.adjacent message.recipient
  have written := carried.written
  rw [carried.header] at window drawn
  obtain ⟨later, state, readerAfter, returned, advanced, others⟩ :=
    receiveKey_advances commutes (synchronised.wired message.recipient)
      (synchronised.follows message.recipient) (by omega) (by omega) (by omega) carried.sent
      carried.parity carried.awaits window drawn
  have moved := advanced.moved
  have decrypted := carried.decrypts roundTrips (by rw [carried.header]; exact returned)
  have rest : (before ++ after).Sublist net.inFlight := by
    rw [split]
    exact (List.Sublist.refl before).append (List.sublist_cons_self message after)
  have apart := synchronised.slot_apart split
  have peerLevel : Function.update level message.recipient readerAfter message.recipient.peer =
      level message.recipient.peer := Function.update_of_ne (peer_ne _) _ _
  have peerState : Function.update net.session message.recipient state message.recipient.peer =
      net.session message.recipient.peer := Function.update_of_ne (peer_ne _) _ _
  -- Only the recipient moves, perhaps to the next level; its peer stays where it is.
  refine ⟨later, Function.update level message.recipient readerAfter, ?_⟩
  simp only [Network.deliver, decrypted, Outcome.returns_result, Outcome.returns_state]
  constructor
  case adjacent =>
    intro party
    rcases eq_or_peer message.recipient party with rfl | rfl
    · rw [peerLevel, Function.update_self]
      omega
    · rw [peer_peer, peerLevel, Function.update_self]
      omega
  case wired =>
    intro party
    have wired := advanced.wired
    rw [← carried.header] at wired
    rcases eq_or_peer message.recipient party with rfl | rfl
    · rw [peerLevel, Function.update_self]
      convert wired using 1
      omega
    · rw [peer_peer, peerLevel, Function.update_self]
      convert wired using 1
      omega
  case follows =>
    intro party
    dsimp only
    rcases eq_or_peer message.recipient party with rfl | rfl
    · rw [Function.update_self, Function.update_self]
      exact advanced.follows
    · rw [peerLevel, peerState]
      exact advanced.extended.follows (Nat.le_max_right _ _) (congrFun advanced.silent _)
        (synchronised.follows _)
  case carried =>
    intro other remaining
    obtain ⟨j, m, waiting⟩ := synchronised.carried other (rest.subset remaining)
    have otherWritten := waiting.written
    refine ⟨j, m, ?_⟩
    dsimp only
    -- A message to the same recipient has another slot, and one to the peer is not concerned.
    rcases eq_or_peer message.recipient other.recipient with same | opposite
    · have different : epochs.slot j m ≠ epochs.slot epoch number := by
        intro equal
        refine apart (List.mem_map.mpr ⟨other, remaining, ?_⟩)
        rw [Message.slot, Message.slot, waiting.header, carried.header]
        exact equal
      rw [same] at waiting otherWritten ⊢
      rw [peerLevel, Function.update_self, Function.update_self]
      exact waiting.extend advanced.extended (Nat.le_max_right _ _) (Nat.le_refl _) (by omega)
        (others j m (by omega) waiting.sent waiting.parity different waiting.awaits)
    · rw [opposite, peer_peer] at waiting otherWritten
      rw [opposite, peer_peer, peerLevel, Function.update_self, peerState]
      exact waiting.extend advanced.extended (Nat.le_max_left _ _) (by omega) (by omega)
        (advanced.extended.awaits (by omega) waiting.awaits)
  case apart => exact synchronised.apart.sublist (rest.map _)
  case correct =>
    intro delivery delivered
    rcases List.mem_cons.mp delivered with rfl | earlier
    · rfl
    · exact synchronised.correct delivery earlier

theorem step_synchronised (commutes : X25519Commutes P) (roundTrips : CipherRoundTrips P)
    (before after : Network Secret) (step : Step P before after)
    (synchronised : ∃ epochs level, Synchronised P epochs level before) :
    ∃ epochs level, Synchronised P epochs level after := by
  obtain ⟨epochs, level, synchronised⟩ := synchronised
  cases step with
  | send sender plaintext associatedData nonce sized =>
      obtain ⟨later, sent⟩ := synchronised.send sender plaintext associatedData nonce sized
      exact ⟨later, level, sent⟩
  | lose _ _ message split => exact ⟨epochs, level, synchronised.lose split⟩
  | deliver _ _ message draw split window drawn =>
      exact synchronised.deliver commutes roundTrips split window drawn

/-- In every run, every delivered message decrypts to what was encrypted. -/
theorem delivered_messages_decrypt (commutes : X25519Commutes P)
    (roundTrips : CipherRoundTrips P) (net : Network Secret)
    (reached : Reachable (Paired P) (Step P) net) :
    ∀ delivery ∈ net.delivered, delivery.result = .ok delivery.message.plaintext := by
  have invariant : ∃ epochs level, Synchronised P epochs level net :=
    reached.invariant (fun _ start => synchronised_paired commutes start)
      (fun before after synchronised step =>
        step_synchronised commutes roundTrips before after step synchronised)
  obtain ⟨_, _, synchronised⟩ := invariant
  exact synchronised.correct

end Invariant

/-! The initiator sends twice, and the second letter arrives first. -/

def letterNonce : Bytes := List.replicate 12 1

def twoInFlight : Network Bytes :=
  ((Network.paired framedPrimitives [9] ⟨List.replicate 32 2, List.replicate 32 2⟩
      (List.replicate 32 5)).send framedPrimitives .initiator [104, 105] [] letterNonce).send
    framedPrimitives .initiator [111] [] letterNonce

def firstLetter : Message := twoInFlight.inFlight.head (by decide +kernel)

def secondLetter : Message := twoInFlight.inFlight.getLast (by decide +kernel)

def overtaken : Network Bytes :=
  twoInFlight.deliver framedPrimitives secondLetter (List.replicate 32 7) [firstLetter]

def bothDelivered : Network Bytes := overtaken.deliver framedPrimitives firstLetter [] []

theorem bothDelivered_reachable :
    Reachable (Paired framedPrimitives) (Step framedPrimitives) bothDelivered := by
  have sent : Reachable (Paired framedPrimitives) (Step framedPrimitives) twoInFlight :=
    .next (.next (.start (.setup [9] _ _ rfl rfl rfl (by decide)))
      (.send _ .initiator [104, 105] [] letterNonce rfl)) (.send _ .initiator [111] [] letterNonce rfl)
  have second : Reachable (Paired framedPrimitives) (Step framedPrimitives) overtaken := by
    refine .next sent (.deliver twoInFlight [firstLetter] [] secondLetter
      (List.replicate 32 7) rfl ?_ ?_)
    · intro _
      show Near _ _ ∧ Near _ _
      decide +kernel
    · decide +kernel
  have first : Step framedPrimitives overtaken
      (overtaken.deliver framedPrimitives firstLetter [] ([] ++ [])) := by
    apply Step.deliver
    · rfl
    · refine InWindow.of_stored ?_
      decide +kernel
    · decide +kernel
  exact .next second first

theorem bothDelivered_decrypt : bothDelivered.delivered.length = 2 ∧
    ∀ delivery ∈ bothDelivered.delivered, delivery.result = .ok delivery.message.plaintext :=
  ⟨rfl, delivered_messages_decrypt framed_commutes framed_roundtrips bothDelivered
    bothDelivered_reachable⟩

end Chainmail.DoubleRatchet
