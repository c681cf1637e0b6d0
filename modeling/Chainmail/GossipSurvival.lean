import Chainmail.GuardedRelay

/-!
What a gossip payload can do to `handleMessage` of `src/network/relay-node.js`. Only
the parsing and the storing of a message are guarded; in between, its sender is read
for the limiter, and is shown in the log where the limiter refuses the message.
-/

namespace Chainmail.GuardedRelay

open Json DhtStorage RelayNode ReputationLimiter

/-- What `senderId` holds. -/
def senderValue (envelope : Json) (peer : Option String) : Json :=
  match present (envelope.field "from") with
  | some value => value
  | none =>
      match peer with
      | none | some "" => .string "unknown"
      | some peer => .string peer

/-- `senderId.slice(0, 16)` inside a template string; what it shows is only logged. -/
def showStart : Json → Except Failure Unit
  | .string _ => .ok ()
  | .array items => do
      let _ ← joinItems (items.take 16)
      return ()
  | _ => .error .typeError

section Handler
variable (P : Packages) (signer : Option Signer) (config : ReputationLimiter.Config)

/-- The guarded block: what it throws is logged. -/
def storeEnvelope (envelope : Json) (data : Bytes) (draw : RandomId)
    (coordinator : Option Replication) (now : Moment) (relay : Relay) : Relay :=
  match storageKey envelope with
  | .ok (some key) => (storeWithReplication P signer key data draw coordinator now relay).state
  | _ => relay

/-- `handleMessage`, of which nobody awaits the result. -/
def handleMessage (data : Bytes) (peer : Option String) (draw : RandomId)
    (coordinator : Option Replication) (now : Moment) (guarded : Guarded) :
    Outcome Guarded Failure Unit :=
  match parse (textDecode data) with
  | none => .returns guarded ()
  | some envelope =>
      match member "from" (some envelope) with
      | .error failure => .throws guarded failure
      | .ok _ =>
          let senderId := senderOf envelope peer guarded.messages
          let rateCheck := checkAndRecord config senderId data.length now.ms guarded.limiter
          let counted :=
            { guarded with limiter := rateCheck.2, messages := guarded.messages + 1 }
          match rateCheck.1 with
          | some _ =>
              match showStart (senderValue envelope peer) with
              | .error failure => .throws counted failure
              | .ok _ => .returns counted ()
          | none =>
              .returns { counted with
                relay := storeEnvelope P signer envelope data draw coordinator now guarded.relay
                admitted :=
                  guarded.admitted ++
                  [⟨data, senderId, draw, coordinator, now, guarded.limiter, rateCheck.2⟩] } ()

/-- The value has a start to show, and that can be converted. -/
def showable : Json → Bool
  | .string _ => true
  | .array items => convertibleItems (items.take 16)
  | _ => false

/-- The message is no JSON; or it is not `null`, and where the limiter refuses it the log
    can show who it is from. -/
def Survives (data : Bytes) (peer : Option String) (now : Moment) (guarded : Guarded) : Prop :=
  ∀ envelope, parse (textDecode data) = some envelope → envelope ≠ .null ∧
    ((check config (senderOf envelope peer guarded.messages) data.length now.ms
        guarded.limiter).isSome = true →
      showable (senderValue envelope peer) = true)

end Handler

section Survival
variable {P : Packages} {signer : Option Signer} {config : ReputationLimiter.Config}

theorem showStart_ok_iff {value : Json} : showStart value = .ok () ↔ showable value = true := by
  cases value with
  | string text => simp [showStart, showable]
  | array items =>
      rw [showable, ← texts_isOk.2]
      cases joined : joinItems (items.take 16) <;> simp [showStart, joined, Except.isOk, Except.toBool]
  | _ => simp [showStart, showable]

theorem member_of_ne_null {key : String} {value : Json} (object : value ≠ .null) :
    member key (some value) = .ok (value.field key) := by
  cases value with
  | null => exact absurd rfl object
  | _ => rfl

theorem checkAndRecord_fst {Sender : Type} [DecidableEq Sender] (senderId : Sender)
    (size now : Nat) (limiter : State Sender) :
    (checkAndRecord config senderId size now limiter).1 = check config senderId size now limiter := by
  rw [checkAndRecord]
  cases check config senderId size now limiter <;> rfl

/-- The store hears of a message as soon as the limiter lets it in. -/
theorem storing_handleMessage {data : Bytes} {envelope : Json}
    (parsed : parse (textDecode data) = some envelope) (object : envelope ≠ .null)
    (allowed : Bool) (draw : RandomId) (coordinator : Option Replication) (now : Moment)
    (relay : Relay) :
    RelayNode.handleMessage P signer data allowed draw coordinator now relay =
      if allowed then storeEnvelope P signer envelope data draw coordinator now relay else relay := by
  have accepted : acceptedKey data allowed =
      if allowed then storageKey envelope else .ok none := by
    rw [acceptedKey, parseOrThrow, parsed, ok_bind, member_of_ne_null object, ok_bind]
    rfl
  unfold RelayNode.handleMessage
  rw [accepted, storeEnvelope]
  cases allowed <;> rfl

/-- What it throws aside, the handler does what the relay was followed with. -/
theorem handleMessage_state (data : Bytes) (peer : Option String) (draw : RandomId)
    (coordinator : Option Replication) (now : Moment) (guarded : Guarded) :
    (handleMessage P signer config data peer draw coordinator now guarded).state =
      handleGossip P signer config data peer draw coordinator now guarded := by
  rw [handleMessage]
  delta handleGossip
  cases parsed : parse (textDecode data) with
  | none => simp [readSender, parseOrThrow, parsed]
  | some envelope =>
      by_cases isNull : envelope = .null
      · subst isNull
        simp [readSender, parseOrThrow, parsed, member]
      · have read : readSender data peer guarded.messages =
            .ok (senderOf envelope peer guarded.messages) := by
          rw [readSender, parseOrThrow, parsed, ok_bind, member_of_ne_null isNull]
          rfl
        simp only [read, member_of_ne_null isNull, storing_handleMessage parsed isNull]
        cases allowed : (checkAndRecord config (senderOf envelope peer guarded.messages) data.length
          now.ms guarded.limiter).1 with
        | none => simp
        | some refusal => cases showStart (senderValue envelope peer) <;> simp

/-- A relay in any state completes the handling of a message, whatever its bytes, exactly
    when they are no JSON, or not `null` and either let in or from someone the log can show. -/
theorem handleMessage_survives_iff (data : Bytes) (peer : Option String) (draw : RandomId)
    (coordinator : Option Replication) (now : Moment) (guarded : Guarded) :
    (handleMessage P signer config data peer draw coordinator now guarded).result = .ok () ↔
      Survives config data peer now guarded := by
  rw [handleMessage, Survives]
  cases parsed : parse (textDecode data) with
  | none => simp
  | some envelope =>
      simp only [Option.some.injEq, forall_eq']
      by_cases isNull : envelope = .null
      · subst isNull
        simp [member]
      · rw [member_of_ne_null isNull]
        simp only [checkAndRecord_fst]
        cases check config (senderOf envelope peer guarded.messages) data.length now.ms
          guarded.limiter with
        | none => simp [isNull]
        | some refusal =>
            simp only [Option.isSome_some, true_implies, ← showStart_ok_iff]
            cases showStart (senderValue envelope peer) <;> simp [isNull]

end Survival

/-! A relay hears a lone `null`; or it refuses a message for its size, and that one is from
a number. -/

def nothing : Bytes := utf8Encode "null"

def numbered : Bytes := utf8Encode (stringify (.object [("from", ofInt 7)]))

def smallConfig : ReputationLimiter.Config :=
  configure .nan .nan .nan (.ofNat 1) .nan id fun _ => "today"

theorem rejections_unhandled :
    (handleMessage samplePackages none sampleConfig nothing none sampleDraw none sampleMoment
        (replay samplePackages none sampleConfig [])).result = .error .typeError ∧
      (handleMessage samplePackages none smallConfig numbered none sampleDraw none sampleMoment
        (replay samplePackages none smallConfig [])).result = .error .typeError := by
  constructor
  · decide +kernel
  · decide +kernel

end Chainmail.GuardedRelay
