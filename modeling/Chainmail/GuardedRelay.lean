import Chainmail.GlobalLimit
import Chainmail.RecordHops
import Chainmail.RelayExpiry

/-!
The relay of `src/network/relay-node.js` with its rate limiter. The limiter is
asked about gossip only; a store request goes to the database past it.
-/

namespace Chainmail.GuardedRelay

open Json DhtStorage RelayNode ReputationLimiter

/-- What the limiter tells senders apart by. An array or an object is another one in
    every message. -/
inductive SenderId where
  | text (text : String)
  | number (value : Decimal)
  | yes
  | own (message : Nat)
deriving DecidableEq

/-- `envelope.from || message.from?.toString() || 'unknown'` -/
def senderOf (envelope : Json) (peer : Option String) (message : Nat) : SenderId :=
  match present (envelope.field "from") with
  | some (.string text) => .text text
  | some (.number value) => .number value
  | some (.bool _) => .yes
  | some _ => .own message
  | none =>
      match peer with
      | none | some "" => .text "unknown"
      | some peer => .text peer

/-- A message that was let through, what its records are drawn from, and the limiter before and
    after. -/
structure Admission where
  data : Bytes
  senderId : SenderId
  draw : RandomId
  coordinator : Option Replication
  now : Moment
  before : State SenderId
  after : State SenderId

structure Guarded where
  relay : Relay
  limiter : State SenderId
  messages : Nat
  admitted : List Admission

inductive Event where
  | gossip (data : Bytes) (peer : Option String) (draw : RandomId)
      (coordinator : Option Replication)
  | storeRequest (data : Bytes) (draw : RandomId)
  | cleanup
  | delete (recipient messageId : String)
  | limiter (event : ReputationLimiter.Event SenderId)

/-- The sender of a message, if the message can be read at all. -/
def readSender (data : Bytes) (peer : Option String) (message : Nat) : Except Failure SenderId := do
  let envelope ← parseOrThrow (textDecode data)
  let _ ← member "from" (some envelope)
  return senderOf envelope peer message

section Run
variable (P : Packages) (signer : Option Signer) (config : ReputationLimiter.Config)

/-- `handleMessage` with the limiter that it asks. -/
def handleGossip (data : Bytes) (peer : Option String) (draw : RandomId)
    (coordinator : Option Replication) (now : Moment) (guarded : Guarded) : Guarded :=
  match readSender data peer guarded.messages with
  | .error _ => guarded
  | .ok senderId =>
      let rateCheck := checkAndRecord config senderId data.length now.ms guarded.limiter
      let allowed := rateCheck.1.isNone
      { relay := handleMessage P signer data allowed draw coordinator now guarded.relay
        limiter := rateCheck.2
        messages := guarded.messages + 1
        admitted :=
          if allowed then
            guarded.admitted ++
              [⟨data, senderId, draw, coordinator, now, guarded.limiter, rateCheck.2⟩]
          else guarded.admitted }

def step (guarded : Guarded) (event : Event) (now : Moment) : Guarded :=
  match event with
  | .gossip data peer draw coordinator =>
      handleGossip P signer config data peer draw coordinator now guarded
  | .storeRequest data draw =>
      { guarded with relay := (handleStoreRequest P signer data draw now guarded.relay).1 }
  | .cleanup =>
      { guarded with relay.db := cleanupExpired now guarded.relay.db }
  | .delete recipient messageId =>
      { guarded with relay.db := deleteMessage recipient messageId guarded.relay.db }
  | .limiter event =>
      { guarded with limiter := (ReputationLimiter.step config event now.ms guarded.limiter).2 }

/-- The last event comes first. -/
def replay : List (Event × Moment) → Guarded
  | [] => ⟨RelayNode.start, ReputationLimiter.start, 0, []⟩
  | (event, now) :: earlier => step P signer config (replay earlier) event now

/-- The bytes that are recorded for a sender on the day. -/
def usedToday (senderId : SenderId) (now : Nat) (limiter : State SenderId) : Nat :=
  match limiter.dailyUsage.get senderId with
  | some usage => if usage.date = config.dateOf now then usage.bytes else 0
  | none => 0

/-- The message is no larger than one may be, and the limiter has counted it once more in its
    sender's window and all of it in the usage of the day. -/
structure Counted (admission : Admission) : Prop where
  size : config.sizes.maxMessageSize.lt (.ofNat admission.data.length) = false
  window : RateLimiter.timestampsOf admission.senderId admission.after.base =
    RateLimiter.timestampsOf admission.senderId admission.before.base ++ [admission.now.ms]
  quota : admission.after.dailyUsage.get admission.senderId =
    some ⟨usedToday config admission.senderId admission.now.ms admission.before +
      admission.data.length, config.dateOf admission.now.ms⟩

/-- What the relay stores of a message that was let through, and under which keys. -/
def Admission.entries (admission : Admission) : List (String × MessageRecord) :=
  written P signer (.gossip admission.data true admission.draw admission.coordinator) admission.now

/-- Everything in the store is an entry of a message that the limiter let through. -/
def Covered (past : List (Event × Moment)) : Prop :=
  ∀ key record, (replay P signer config past).relay.db.get key = some record →
    ∃ admission ∈ (replay P signer config past).admitted,
      (key, record) ∈ admission.entries P signer ∧ Counted config admission

/-- A store request writes nothing but entries of messages that were let through before. -/
def CarriesAdmitted (input : Event × Moment) (earlier : List (Event × Moment)) : Prop :=
  match input with
  | (.storeRequest data draw, now) =>
      ∀ entry ∈ written P signer (.storeRequest data draw) now,
        ∃ admission ∈ (replay P signer config earlier).admitted, entry ∈ admission.entries P signer
  | _ => True

/-- A store request is turned away before it puts anything, or the record it puts is in the store
    already. -/
def PutsNothingNew (input : Event × Moment) (earlier : List (Event × Moment)) : Prop :=
  match input with
  | (.storeRequest data draw, now) =>
      ∀ record, requestedRecord data draw now = .ok (some record) →
        ∀ entry, entryOf P signer record now = .ok entry →
          (replay P signer config earlier).relay.db.get entry.1 = some entry.2
  | _ => True

end Run

section Counting
variable {config : ReputationLimiter.Config} {senderId : SenderId} {size now : Nat}
  {limiter : State SenderId}

theorem record_window : RateLimiter.timestampsOf senderId
    (record config senderId size now limiter).base =
      RateLimiter.timestampsOf senderId limiter.base ++ [now] := by
  rw [record_base, RateLimiter.timestampsOf_record, if_pos rfl]

theorem record_quota (positive : 0 < size) :
    (record config senderId size now limiter).dailyUsage.get senderId =
      some ⟨usedToday config senderId now limiter + size, config.dateOf now⟩ := by
  simp only [record, if_pos positive, adjustReputation, recordStorage, OrderedMap.get_set_self,
    usedToday]
  cases limiter.dailyUsage.get senderId with
  | none => simp
  | some usage =>
      by_cases today : usage.date = config.dateOf now
      · simp [today]
      · simp [today]

theorem check_size (positive : 0 < size) (passed : check config senderId size now limiter = none) :
    config.sizes.maxMessageSize.lt (.ofNat size) = false := by
  rw [check] at passed
  split at passed
  next => cases passed
  next sized =>
    rw [checkSizes, if_pos positive] at sized
    split at sized
    next => cases sized
    next within =>
      rw [checkSize] at within
      split at within
      next => cases within
      next fits => exact Bool.eq_false_iff.mpr fits

theorem readSender_positive {data : Bytes} {peer : Option String} {message : Nat}
    (read : readSender data peer message = .ok senderId) : 0 < data.length := by
  cases data with
  | nil => cases read
  | cons => exact Nat.succ_pos _

end Counting

section Runs
variable {P : Packages} {signer : Option Signer} {config : ReputationLimiter.Config}
  {guarded : Guarded} {now : Moment}

/-- A message that was let through joins the list, and every other event leaves it. -/
theorem step_admitted (guarded : Guarded) (event : Event) :
    (step P signer config guarded event now).admitted = guarded.admitted ∨
      ∃ admission, (step P signer config guarded event now).admitted =
        guarded.admitted ++ [admission] ∧ Counted config admission := by
  cases event with
  | gossip data peer draw coordinator =>
      rw [step]
      delta handleGossip
      cases read : readSender data peer guarded.messages with
      | error failure => exact .inl rfl
      | ok senderId =>
          -- The limiter skips its checks for an empty message, which cannot be read either.
          have positive := readSender_positive read
          cases passed : check config senderId data.length now.ms guarded.limiter with
          | some refusal => simp [checkAndRecord, passed]
          | none =>
              refine .inr ⟨⟨data, senderId, draw, coordinator, now, guarded.limiter,
                record config senderId data.length now.ms guarded.limiter⟩, ?_, ?_⟩
              · simp [checkAndRecord, passed]
              · exact ⟨check_size positive passed, record_window, record_quota positive⟩
  | storeRequest data draw => exact .inl rfl
  | cleanup => exact .inl rfl
  | delete recipient messageId => exact .inl rfl
  | limiter event => exact .inl rfl

theorem admitted_counted (P : Packages) (signer : Option Signer) (past : List (Event × Moment)) :
    ∀ admission ∈ (replay P signer config past).admitted, Counted config admission := by
  induction past with
  | nil => exact fun _ member => absurd member List.not_mem_nil
  | cons input earlier ih =>
      intro admission member
      rw [replay] at member
      rcases step_admitted (replay P signer config earlier) input.1 with
        same | ⟨latest, added, counted⟩
      · rw [same] at member
        exact ih admission member
      · rw [added] at member
        rcases List.mem_append.mp member with old | new
        · exact ih admission old
        · rw [List.mem_singleton.mp new]
          exact counted

theorem acceptedKey_allowed {data : Bytes} {allowed : Bool} {key : Json}
    (accepted : acceptedKey data allowed = .ok (some key)) : allowed = true := by
  obtain ⟨envelope, _, checked⟩ := bind_ok_iff.mp accepted
  obtain ⟨_, _, keyed⟩ := bind_ok_iff.mp checked
  split at keyed
  next let_in => exact let_in
  next => cases keyed

/-- What gossip adds to the store is a message that was let through. -/
theorem gossip_held {data : Bytes} {peer : Option String} {draw : RandomId}
    {coordinator : Option Replication} {key : String} {record : MessageRecord}
    (found : (handleGossip P signer config data peer draw coordinator now guarded).relay.db.get key =
      some record) :
    guarded.relay.db.get key = some record ∨
      ∃ admission ∈ (handleGossip P signer config data peer draw coordinator now guarded).admitted,
        (key, record) ∈ admission.entries P signer := by
  delta handleGossip at found ⊢
  cases read : readSender data peer guarded.messages with
  | error failure =>
      rw [read] at found
      exact .inl found
  | ok senderId =>
      rw [read] at found
      rcases RelayNode.step_held _ (.gossip data _ draw coordinator) now found with
        wrote | ⟨before, _⟩
      -- A message that is refused has no key to be stored under.
      · obtain ⟨_, _, accepted, _⟩ := gossip_entry wrote
        have allowed := acceptedKey_allowed accepted
        rw [allowed] at wrote
        refine .inr ⟨⟨data, senderId, draw, coordinator, now, guarded.limiter,
          (checkAndRecord config senderId data.length now.ms guarded.limiter).2⟩, ?_, wrote⟩
        simp only [if_pos allowed]
        exact List.mem_append_right _ List.mem_cons_self
      · exact .inl before

theorem covered_cons {input : Event × Moment} {earlier : List (Event × Moment)}
    (covered : Covered P signer config earlier) :
    Covered P signer config (input :: earlier) ↔ CarriesAdmitted P signer config input earlier := by
  have grown : ∀ admission ∈ (replay P signer config earlier).admitted,
      admission ∈ (replay P signer config (input :: earlier)).admitted := by
    intro admission member
    rw [replay]
    rcases step_admitted (replay P signer config earlier) input.1 with
      same | ⟨latest, added, _⟩
    · rwa [same]
    · rw [added]
      exact List.mem_append_left _ member
  have kept {key : String} {record : MessageRecord}
      (held : (replay P signer config earlier).relay.db.get key = some record) :
      ∃ admission ∈ (replay P signer config (input :: earlier)).admitted,
        (key, record) ∈ admission.entries P signer ∧ Counted config admission := by
    obtain ⟨admission, member, both⟩ := covered key record held
    exact ⟨admission, grown admission member, both⟩
  obtain ⟨event, now⟩ := input
  cases event with
  | gossip data peer draw coordinator =>
      refine iff_of_true (fun key record found => ?_) trivial
      rcases gossip_held found with held | ⟨admission, member, corresponds⟩
      · exact kept held
      · have counted := admitted_counted P signer
          ((.gossip data peer draw coordinator, now) :: earlier) admission member
        exact ⟨admission, member, corresponds, counted⟩
  | storeRequest data draw =>
      constructor
      · intro now entry member
        obtain ⟨record, listed, found⟩ :=
          putAll_mem (replay P signer config earlier).relay.db member
        rw [← step_storeRequest] at found
        obtain ⟨admission, let_in, corresponds, _⟩ := now entry.1 record found
        refine ⟨admission, let_in, ?_⟩
        -- One request writes one entry, so what it leaves is what it wrote.
        obtain ⟨first, requested, made⟩ := request_entry listed
        obtain ⟨second, again, entered⟩ := request_entry member
        cases requested.symm.trans again
        have same : (entry.1, record) = entry := Except.ok.inj (made.symm.trans entered)
        rwa [same] at corresponds
      · intro carries key record found
        rcases RelayNode.step_held _ (.storeRequest data draw) now found with
          wrote | ⟨before, _⟩
        · obtain ⟨admission, member, corresponds⟩ := carries _ wrote
          exact ⟨admission, grown _ member, corresponds,
            admitted_counted P signer earlier admission member⟩
        · exact kept before
  | cleanup =>
      exact iff_of_true (fun key record found => kept (cleanupExpired_held found)) trivial
  | delete recipient messageId =>
      exact iff_of_true (fun key record found => kept (deleteMessage_held found)) trivial
  | limiter event => exact iff_of_true (fun key record found => kept found) trivial

/-- What is in the store already is an entry of a message that was let through. -/
theorem carries_of_nothing_new {input : Event × Moment} {earlier : List (Event × Moment)}
    (covered : Covered P signer config earlier) (known : PutsNothingNew P signer config input earlier) :
    CarriesAdmitted P signer config input earlier := by
  obtain ⟨event, now⟩ := input
  cases event with
  | storeRequest data draw =>
      intro entry member
      obtain ⟨record, requested, made⟩ := request_entry member
      have held := known record requested entry made
      obtain ⟨admission, let_in, corresponds, _⟩ := covered entry.1 entry.2 held
      exact ⟨admission, let_in, corresponds⟩
  | _ => trivial

theorem always_covered {past : List (Event × Moment)}
    (each : EachInput (PutsNothingNew P signer config) past) :
    Always (Covered P signer config) past := by
  induction past with
  | nil =>
      intro earlier suffix key record held
      rw [List.suffix_nil.mp suffix] at held
      cases held
  | cons input earlier ih =>
      obtain ⟨known, before⟩ := eachInput_cons.mp each
      have always := ih before
      have covered := always earlier (List.suffix_refl _)
      exact always_cons.mpr
        ⟨(covered_cons covered).mpr (carries_of_nothing_new covered known), always⟩

end Runs

/-- In every run whose store requests put nothing new, all that is stored is at every moment what
    messages were stored as that the limiter let through; and that is so exactly when every store
    request puts an entry of such a message. -/
theorem admission_covers_iff (P : Packages) (signer : Option Signer)
    (config : ReputationLimiter.Config) (past : List (Event × Moment)) :
    (EachInput (PutsNothingNew P signer config) past → Always (Covered P signer config) past) ∧
      (Always (Covered P signer config) past ↔
        EachInput (CarriesAdmitted P signer config) past) := by
  have free : EachInput (fun _ _ => True) past := fun _ _ _ => trivial
  refine ⟨always_covered, always_iff_each free ?_ fun _ _ _ covered => covered_cons covered⟩
  intro key record held
  cases held

def sampleConfig : ReputationLimiter.Config :=
  configure .nan .nan .nan .nan .nan id fun _ => "today"

/-- What mail for alice is stored as. -/
def heldMail : MessageRecord :=
  newRecord (.string "alice") (toBase64 mail) sampleDraw sampleMoment

theorem heldMail_sendable : RecordHops.Sendable heldMail :=
  @RecordHops.newRecord_sendable ⟨.string "alice", trivial⟩ _ rfl _ _ _

theorem mail_read : readSender mail none 0 = .ok (.text "unknown") := by
  have canonical : Canonical (.object [("to", .string "alice")]) :=
    canonical_object ["to"] rfl (by decide) ⟨trivial, trivial⟩
  rw [readSender, mail, mailTo, parse_transmitted canonical]
  rfl

theorem mail_written {entry : String × MessageRecord}
    (made : entryOf samplePackages none heldMail sampleMoment = .ok entry) :
    written samplePackages none (.gossip mail true sampleDraw none) sampleMoment = [entry] := by
  rw [heldMail] at made
  delta written
  dsimp only
  rw [show acceptedKey mail true = _ from mailTo_key (by decide)]
  simp [made, Except.toOption]

theorem mail_let_in :
    check sampleConfig (SenderId.text "unknown") mail.length 1 ReputationLimiter.start = none :=
  Option.isNone_iff_eq_none.mp (by decide +kernel)

/-- Mail is let through, and a peer that has its record asks to store that. -/
def returned : List (Event × Moment) :=
  [(.storeRequest (RecordHops.storeRequest heldMail) sampleDraw, sampleMoment),
    (.gossip mail none sampleDraw none, sampleMoment)]

theorem returned_covered : Always (Covered samplePackages none sampleConfig) returned := by
  refine (admission_covers_iff samplePackages none sampleConfig returned).1 ?_
  refine eachInput_cons.mpr ⟨?_, eachInput_cons.mpr ⟨trivial, eachInput_nil⟩⟩
  intro record requested entry made
  cases (heldMail_sendable.requested sampleDraw sampleMoment).symm.trans requested
  have db : (replay samplePackages none sampleConfig
      [(.gossip mail none sampleDraw none, sampleMoment)]).relay.db =
        putAll [entry] RelayNode.start.db := by
    rw [replay, replay, step]
    delta handleGossip
    dsimp only
    rw [mail_read]
    have allowed := mail_let_in
    simp only [sampleMoment, checkAndRecord, allowed, Option.isNone_none]
    rw [step_gossip, ← mail_written made]
    rfl
  rw [db, putAll_cons]
  exact OrderedMap.get_set_self ..

/-- A store request that comes when nothing was let through. -/
def unasked : List (Event × Moment) := [(.storeRequest (storeFor "1" "a") sampleDraw, sampleMoment)]

theorem unasked_stored :
    (replay samplePackages none sampleConfig unasked).relay.db.get "alice:1" =
        some (sampleRecord "1" "a") ∧
      (replay samplePackages none sampleConfig unasked).admitted = [] ∧
      ¬ Covered samplePackages none sampleConfig unasked := by
  have held : (replay samplePackages none sampleConfig unasked).relay.db.get "alice:1" =
      some (sampleRecord "1" "a") := by
    rw [unasked, replay, step, step_storeRequest, storeFor_written _ _ (by decide)]
    rfl
  refine ⟨held, rfl, fun covered => ?_⟩
  obtain ⟨admission, member, _⟩ := covered _ _ held
  cases member

end Chainmail.GuardedRelay
