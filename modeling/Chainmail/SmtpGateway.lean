import Chainmail.JsText
import Chainmail.OrderedMap
import Chainmail.Outcome
import Chainmail.PackageAssumptions
import Chainmail.Runs
import Chainmail.Senders

/-!
The inbound side of `src/gateway/smtp-gateway.js`. The SMTP server calls `onMailFrom`,
`onRcptTo` and `onData` with one session for the whole connection, and the callbacks
keep what they need on it. Mappings are registered while mail comes in. Log lines, the
outbound side and the start of the server are left out.
-/

namespace Chainmail.SMTPGateway

open JsText

variable {P : Packages} (language : LowerCase)

/-- What is pushed to `session.to`. -/
structure Recipient where
  email : String
  dmailAddress : String
  localPart : String
deriving DecidableEq

/-- What the callbacks set on the session of a connection. -/
structure Session where
  «from» : Option String
  «to» : Option (List Recipient)

def Session.recipients (session : Session) : List Recipient := session.to.getD []

/-- What is stored under `addr:`. -/
structure Mapping where
  dmailAddress : String
  registeredAt : Nat

/-- The gateway; its node is only looked at for being there. -/
structure Gateway (P : Packages) where
  domain : String
  dmailNode : Bool
  gatewayIdentity : Option (Identity P)
  db : OrderedMap String Mapping
  addressMap : OrderedMap String String

/-- A mapping that is only in the database is cached. -/
def getDmailAddress (gateway : Gateway P) (localPart : String) : Gateway P × Option String :=
  let key := language.toLowerCase localPart
  match gateway.addressMap.get key with
  | some dmailAddress => (gateway, some dmailAddress)
  | none =>
      match gateway.db.get ("addr:" ++ key) with
      | some record =>
          ({ gateway with addressMap := gateway.addressMap.set key record.dmailAddress },
            some record.dmailAddress)
      | none => (gateway, none)

def registerAddress (gateway : Gateway P) (localPart dmailAddress : String) (now : Nat) :
    Outcome (Gateway P) Failure String :=
  match addressToPublicKey P dmailAddress with
  | .error _ => .throws gateway (.error "Invalid dMail address")
  | .ok _ =>
      let key := language.toLowerCase localPart
      .returns { gateway with
          db := gateway.db.set ("addr:" ++ key) ⟨dmailAddress, now⟩
          addressMap := gateway.addressMap.set key dmailAddress }
        (localPart ++ "@" ++ gateway.domain)

def onMailFrom (address : String) (session : Session) : Session :=
  { session with «from» := some address }

/-- The state of one connection: the gateway and the session. -/
structure Connection (P : Packages) where
  gateway : Gateway P
  session : Session

/-- What is accepted is returned; the callback only gets the error. -/
def onRcptTo (address : String) (connection : Connection P) :
    Outcome (Connection P) Failure Recipient :=
  let email := language.toLowerCase address
  let parts := split '@' email
  let localPart := parts.headD ""
  if parts[1]? ≠ some connection.gateway.domain then
    .throws connection (.error ("Relay not allowed for " ++ parts[1]?.getD "undefined"))
  else
    let found := getDmailAddress language connection.gateway localPart
    let connection := { connection with gateway := found.1 }
    match found.2.filter (· ≠ "") with
    | none => .throws connection (.error ("Unknown recipient: " ++ email))
    | some dmailAddress =>
        let recipient := ⟨email, dmailAddress, localPart⟩
        .returns { connection with
            session := { connection.session with
              «to» := some (connection.session.recipients ++ [recipient]) } }
          recipient

/-- What `simpleParser` reads of a mail. -/
structure Parsed where
  subject : Option String
  text : Option String

/-- What one call of `forwardToDmail` draws, and whether the node's `sendMessage` resolves. -/
structure Attempt where
  now : Nat
  draws : CipherDraws
  resolves : Bool

/-- What is sent for a recipient. Nothing is thrown: an error is only logged. -/
def forwardToDmail (gateway : Gateway P) (parsed : Parsed) (mailFrom : Option String)
    (recipient : Recipient) (attempt : Attempt) : Option Json :=
  match gateway.dmailNode, gateway.gatewayIdentity with
  | true, some gatewayIdentity =>
      match Senders.forwardToDmail gatewayIdentity (mailFrom.getD "undefined")
        recipient.dmailAddress parsed.subject parsed.text attempt.now attempt.draws with
      | .ok envelope => if attempt.resolves then some envelope else none
      | .error _ => none
  | _, _ => none

/-- A recipient that a mail was forwarded to, and what the node sent. -/
structure Forward where
  recipient : Recipient
  sent : Option Json

/-- The loop over the recipients, with the attempt that is made for each. -/
def forwardAll (gateway : Gateway P) (parsed : Parsed) (mailFrom : Option String) :
    List Recipient → (Nat → Attempt) → List Forward
  | [], _ => []
  | recipient :: rest, attempts =>
      ⟨recipient, forwardToDmail gateway parsed mailFrom recipient (attempts 0)⟩ ::
        forwardAll gateway parsed mailFrom rest fun turn => attempts (turn + 1)

/-- What the callback of `onData` is called with, after these forwards. -/
structure Receipt where
  reply : Except Failure Unit
  forwards : List Forward

def Receipt.recipients (receipt : Receipt) : List Recipient :=
  receipt.forwards.map Forward.recipient

/-- A mail that cannot be parsed is none. Without `session.to`, the log line throws. -/
def onData (mail : Option Parsed) (attempts : Nat → Attempt) (connection : Connection P) :
    Receipt :=
  match mail, connection.session.to with
  | none, _ => ⟨.error .rejected, []⟩
  | some _, none => ⟨.error .typeError, []⟩
  | some parsed, some recipients =>
      ⟨.ok (), forwardAll connection.gateway parsed connection.session.from recipients attempts⟩

section Acknowledgement
variable {connection : Connection P}

/-- Success is reported only if the node sent the mail to every recipient. -/
def Acknowledges (session : Session) (receipt : Receipt) : Prop :=
  receipt.reply = .ok () →
    receipt.recipients = session.recipients ∧ ∀ forward ∈ receipt.forwards, forward.sent.isSome

/-- The gateway has a node and an identity, the envelope can be built, and the node sends it. -/
def Deliverable (gateway : Gateway P) (parsed : Parsed) (mailFrom : Option String)
    (recipient : Recipient) (attempt : Attempt) : Prop :=
  gateway.dmailNode = true ∧ attempt.resolves = true ∧
    ∃ gatewayIdentity, gateway.gatewayIdentity = some gatewayIdentity ∧
      ∃ envelope, Senders.forwardToDmail gatewayIdentity (mailFrom.getD "undefined")
        recipient.dmailAddress parsed.subject parsed.text attempt.now attempt.draws = .ok envelope

theorem forwardToDmail_isSome (gateway : Gateway P) (parsed : Parsed) (mailFrom : Option String)
    (recipient : Recipient) (attempt : Attempt) :
    (forwardToDmail gateway parsed mailFrom recipient attempt).isSome ↔
      Deliverable gateway parsed mailFrom recipient attempt := by
  rw [forwardToDmail, Deliverable]
  cases gateway.dmailNode with
  | false => simp
  | true =>
      cases gateway.gatewayIdentity with
      | none => simp
      | some gatewayIdentity =>
          cases built : Senders.forwardToDmail gatewayIdentity (mailFrom.getD "undefined")
              recipient.dmailAddress parsed.subject parsed.text attempt.now attempt.draws with
          | error failure => simp [built]
          | ok envelope => cases attempt.resolves <;> simp [built]

theorem forwardAll_recipients (gateway : Gateway P) (parsed : Parsed) (mailFrom : Option String)
    (recipients : List Recipient) (attempts : Nat → Attempt) :
    (forwardAll gateway parsed mailFrom recipients attempts).map Forward.recipient =
      recipients := by
  induction recipients generalizing attempts with
  | nil => rfl
  | cons recipient rest ih => rw [forwardAll, List.map_cons, ih]

theorem forwardAll_sent (gateway : Gateway P) (parsed : Parsed) (mailFrom : Option String)
    (recipients : List Recipient) (attempts : Nat → Attempt) :
    (∀ forward ∈ forwardAll gateway parsed mailFrom recipients attempts, forward.sent.isSome) ↔
      ∀ turn recipient, recipients[turn]? = some recipient →
        Deliverable gateway parsed mailFrom recipient (attempts turn) := by
  induction recipients generalizing attempts with
  | nil => simp [forwardAll]
  | cons first rest ih =>
      rw [forwardAll, List.forall_mem_cons, ih, forwardToDmail_isSome]
      constructor
      · rintro ⟨own, others⟩ turn recipient listed
        cases turn with
        | zero =>
            cases listed
            exact own
        | succ turn => exact others turn recipient listed
      · intro all
        exact ⟨all 0 first rfl, fun turn recipient listed => all (turn + 1) recipient listed⟩

/-- The gateway acknowledges only what it sent exactly when it answers with an error
    before the loop, or every recipient is deliverable at its turn. -/
theorem onData_acknowledges_iff (mail : Option Parsed) (attempts : Nat → Attempt)
    (connection : Connection P) :
    Acknowledges connection.session (onData mail attempts connection) ↔
      ∀ parsed, mail = some parsed → ∀ turn recipient,
        connection.session.recipients[turn]? = some recipient →
          Deliverable connection.gateway parsed connection.session.from recipient
            (attempts turn) := by
  cases mail with
  | none => simp [Acknowledges, onData]
  | some parsed =>
      cases listed : connection.session.to with
      | none => simp [Acknowledges, onData, listed, Session.recipients]
      | some recipients =>
          have whole : connection.session.recipients = recipients := by
            simp [Session.recipients, listed]
          simp only [Acknowledges, onData, listed, Receipt.recipients, forwardAll_recipients, whole,
            forwardAll_sent, true_and, forall_const, Option.some.injEq, forall_eq']

def sampleParsed : Parsed := ⟨some "Hello", some "Hi"⟩

/-- An attempt at which the node's `sendMessage` resolves, or rejects for want of peers. -/
def sampleAttempt (resolves : Bool) : Attempt := ⟨0, sampleCipherDraws, resolves⟩

/-- Two addresses are mapped. -/
def sampleGateway : Gateway samplePackages where
  domain := "dmail.network"
  dmailNode := true
  gatewayIdentity := some (sampleIdentity 1)
  db := OrderedMap.empty
  addressMap := (OrderedMap.empty.set "alice" "dm1alice").set "bob" "dm1bob"

def sampleRecipient (localPart : String) : Recipient :=
  ⟨localPart ++ "@dmail.network", "dm1" ++ localPart, localPart⟩

/-- A mail for alice that no peer takes is reported as accepted. -/
theorem lost_mail_acknowledged : ¬ ∀ (mail : Option Parsed) (attempts : Nat → Attempt)
    (connection : Connection samplePackages),
    Acknowledges connection.session (onData mail attempts connection) := by
  intro claimed
  have delivered := (claimed (some sampleParsed) (fun _ => sampleAttempt false)
    ⟨sampleGateway, some "carol@mail.com", some [sampleRecipient "alice"]⟩ rfl).2 _
      List.mem_cons_self
  rw [forwardToDmail_isSome] at delivered
  exact Bool.noConfusion delivered.2.1

end Acknowledgement

section Connections

/-- The commands of a connection, and the mappings registered meanwhile. -/
inductive Event where
  | mailFrom (address : String)
  | rcptTo (address : String)
  | data (mail : Option Parsed) (attempts : Nat → Attempt)
  | registerAddress (localPart dmailAddress : String) (now : Nat)

def step (connection : Connection P) : Event → Connection P
  | .mailFrom address => { connection with session := onMailFrom address connection.session }
  | .rcptTo address => (onRcptTo language address connection).state
  | .data _ _ => connection
  | .registerAddress localPart dmailAddress now =>
      { connection with
        gateway := (registerAddress language connection.gateway localPart dmailAddress now).state }

/-- The last event comes first. -/
def replay (gateway : Gateway P) : List Event → Connection P
  | [] => ⟨gateway, ⟨none, none⟩⟩
  | event :: earlier => step language (replay gateway earlier) event

/-- Whom a command accepts. -/
def acceptedBy (connection : Connection P) (address : String) : List Recipient :=
  (onRcptTo language address connection).result.toOption.toList

/-- Who was accepted since the transaction began: since its `MAIL FROM`. -/
def accepted (gateway : Gateway P) : List Event → List Recipient
  | [] => []
  | .mailFrom _ :: _ => []
  | .data _ _ :: _ => []
  | .rcptTo address :: earlier =>
      accepted gateway earlier ++ acceptedBy language (replay language gateway earlier) address
  | .registerAddress _ _ _ :: earlier => accepted gateway earlier

/-- Who was accepted in the transactions before. -/
def acceptedBefore (gateway : Gateway P) : List Event → List Recipient
  | [] => []
  | .mailFrom _ :: earlier => acceptedBefore gateway earlier ++ accepted language gateway earlier
  | .data _ _ :: earlier => acceptedBefore gateway earlier ++ accepted language gateway earlier
  | .rcptTo _ :: earlier => acceptedBefore gateway earlier
  | .registerAddress _ _ _ :: earlier => acceptedBefore gateway earlier

/-- The mail went to the recipients, and to each of them once. -/
def ForwardedExactly (recipients : List Recipient) (receipt : Receipt) : Prop :=
  (receipt.recipients.map Recipient.email).Nodup ∧
    ∀ recipient, recipient ∈ receipt.recipients ↔ recipient ∈ recipients

/-- A mail goes to those who were accepted in its own transaction. -/
def Separate (gateway : Gateway P) (event : Event) (earlier : List Event) : Prop :=
  match event with
  | .data mail attempts =>
      ForwardedExactly (accepted language gateway earlier)
        (onData mail attempts (replay language gateway earlier))
  | _ => True

/-- A mail that can be parsed is the first one with recipients, and has each of them
    once; one that cannot has none. -/
def FirstWithRecipients (gateway : Gateway P) (event : Event) (earlier : List Event) : Prop :=
  match event with
  | .data (some _) _ =>
      acceptedBefore language gateway earlier = [] ∧
        ((accepted language gateway earlier).map Recipient.email).Nodup
  | .data none _ => accepted language gateway earlier = []
  | _ => True

variable {language} {gateway : Gateway P}

theorem onRcptTo_recipients (address : String) (connection : Connection P) :
    (onRcptTo language address connection).state.session.recipients =
      connection.session.recipients ++ acceptedBy language connection address := by
  rw [acceptedBy, onRcptTo]
  dsimp only
  split
  · simp [Except.toOption]
  · split
    · simp [Except.toOption]
    · simp [Except.toOption, Session.recipients]

/-- The session never forgets a recipient. -/
theorem replay_recipients (past : List Event) :
    (replay language gateway past).session.recipients =
      acceptedBefore language gateway past ++ accepted language gateway past := by
  induction past with
  | nil => rfl
  | cons event earlier ih =>
      cases event with
      | mailFrom address =>
          rw [accepted, acceptedBefore, List.append_nil]
          exact ih
      | data mail attempts =>
          rw [accepted, acceptedBefore, List.append_nil]
          exact ih
      | rcptTo address =>
          rw [accepted, acceptedBefore, ← List.append_assoc, ← ih]
          exact onRcptTo_recipients address _
      | registerAddress localPart dmailAddress now => exact ih

theorem onData_recipients (parsed : Parsed) (attempts : Nat → Attempt) (connection : Connection P) :
    (onData (some parsed) attempts connection).recipients = connection.session.recipients := by
  cases listed : connection.session.to with
  | none => simp [onData, listed, Receipt.recipients, Session.recipients]
  | some recipients =>
      simp [onData, listed, Receipt.recipients, Session.recipients, forwardAll_recipients]

/-- Those of a mail and of the ones before it are exactly its own, each once, when
    there were none before. -/
theorem forwarded_exactly_iff {before own : List Recipient} {receipt : Receipt}
    (whole : receipt.recipients = before ++ own) :
    ForwardedExactly own receipt ↔ before = [] ∧ (own.map Recipient.email).Nodup := by
  rw [ForwardedExactly, whole, List.map_append]
  constructor
  · rintro ⟨once, only⟩
    have apart := List.nodup_append.mp once
    refine ⟨List.eq_nil_iff_forall_not_mem.mpr fun recipient member => ?_, apart.2.1⟩
    have again := (only recipient).mp (List.mem_append_left _ member)
    exact apart.2.2 _ (List.mem_map_of_mem member) _ (List.mem_map_of_mem again) rfl
  · rintro ⟨rfl, once⟩
    exact ⟨once, fun _ => Iff.rfl⟩

theorem separate_iff (event : Event) (earlier : List Event) :
    Separate language gateway event earlier ↔
      FirstWithRecipients language gateway event earlier := by
  cases event with
  | data mail attempts =>
      cases mail with
      | none =>
          have none : (onData (P := P) none attempts (replay language gateway earlier)).recipients =
              [] := rfl
          simp [Separate, FirstWithRecipients, ForwardedExactly, none,
            List.eq_nil_iff_forall_not_mem]
      | some parsed =>
          apply forwarded_exactly_iff
          rw [onData_recipients, replay_recipients]
  | mailFrom address => exact Iff.rfl
  | rcptTo address => exact Iff.rfl
  | registerAddress localPart dmailAddress now => exact Iff.rfl

/-- On every connection, each mail goes to the recipients of its own transaction, once
    each, exactly when no mail has recipients after one that had some. -/
theorem recipients_stay_apart_iff (language : LowerCase) (gateway : Gateway P)
    (past : List Event) :
    EachInput (Separate language gateway) past ↔
      EachInput (FirstWithRecipients language gateway) past := by
  have same : Separate language gateway = FirstWithRecipients language gateway :=
    funext fun event => funext fun earlier => propext (separate_iff event earlier)
  rw [same]

/-- A mail for alice, then one for bob, on one connection. -/
def twoMails : List Event :=
  [.data (some sampleParsed) fun _ => sampleAttempt true, .rcptTo "bob@dmail.network",
    .mailFrom "carol@mail.com", .data (some sampleParsed) fun _ => sampleAttempt true,
    .rcptTo "alice@dmail.network", .mailFrom "carol@mail.com"]

/-- The second mail goes to alice as well. -/
theorem second_mail_leaks : ¬ ∀ (language : LowerCase) (gateway : Gateway samplePackages)
    (past : List Event), EachInput (Separate language gateway) past := by
  intro claimed
  have separate := (eachInput_cons.mp (claimed asciiLower sampleGateway twoMails)).1
  -- Alice was accepted before the second mail, and is still on the session.
  have first := ((separate_iff _ _).mp separate).1
  exact absurd first (by decide)

end Connections
end Chainmail.SMTPGateway
