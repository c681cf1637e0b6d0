import Chainmail.SmtpGateway

/-!
`registerAddress` and `getDmailAddress` of `src/gateway/smtp-gateway.js` as they really
run: both wait for the database, which takes its operations in the order they were
issued and answers them in that order, while other calls go on. A cached address needs
no operation. What comes of it is compared with the two as one step each.
-/

namespace Chainmail.SMTPGateway

open JsText

variable {P : Packages} (language : LowerCase)

/-- What a call has asked of the database. -/
inductive Operation where
  | put (key : String) (record : Mapping)
  | get (key : String)

/-- What a call that waits goes on with. A `get` that finds nothing rejects. -/
inductive Reply where
  | stored (key dmailAddress : String)
  | found (key dmailAddress : String)
  | rejected

/-- The gateway with the operations the database has not performed, the answers their
    calls have not gone on with, and the mappings that were logged as registered. -/
structure Calls (P : Packages) where
  gateway : Gateway P
  queue : List Operation
  replies : List Reply
  registered : List (String × String)

/-- A call, the next operation of the database, or the next call that goes on. -/
inductive CallEvent where
  | registerAddress (localPart dmailAddress : String) (now : Nat)
  | getDmailAddress (localPart : String)
  | complete (succeeds : Bool)
  | resume

def perform (db : OrderedMap String Mapping) : Operation → OrderedMap String Mapping × Reply
  | .put key record => (db.set ("addr:" ++ key) record, .stored key record.dmailAddress)
  | .get key =>
      match db.get ("addr:" ++ key) with
      | some record => (db, .found key record.dmailAddress)
      | none => (db, .rejected)

/-- What a call does with its answer to the cache. -/
def Reply.cache (addressMap : OrderedMap String String) : Reply → OrderedMap String String
  | .stored key dmailAddress => addressMap.set key dmailAddress
  | .found key dmailAddress => addressMap.set key dmailAddress
  | .rejected => addressMap

/-- The mapping that is logged. -/
def Reply.registration : Reply → Option (String × String)
  | .stored key dmailAddress => some (key, dmailAddress)
  | _ => none

def stepCall (calls : Calls P) : CallEvent → Calls P
  | .registerAddress localPart dmailAddress now =>
      match addressToPublicKey P dmailAddress with
      | .error _ => calls
      | .ok _ =>
          { calls with
            queue := calls.queue ++ [.put (language.toLowerCase localPart) ⟨dmailAddress, now⟩] }
  | .getDmailAddress localPart =>
      let key := language.toLowerCase localPart
      if calls.gateway.addressMap.has key then calls
      else { calls with queue := calls.queue ++ [.get key] }
  -- The database answers one operation at a time, in the order in which they were asked.
  | .complete succeeds =>
      match calls.queue with
      | [] => calls
      | operation :: queue =>
          if succeeds then
            let performed := perform calls.gateway.db operation
            { calls with
              gateway := { calls.gateway with db := performed.1 }
              queue
              replies := calls.replies ++ [performed.2] }
          else { calls with queue, replies := calls.replies ++ [.rejected] }
  -- A caller goes on after its `await`: only then is the cache written.
  | .resume =>
      match calls.replies with
      | [] => calls
      | reply :: replies =>
          { calls with
            gateway := { calls.gateway with addressMap := reply.cache calls.gateway.addressMap }
            replies
            registered := calls.registered ++ reply.registration.toList }

def runCalls (calls : Calls P) (events : List CallEvent) : Calls P :=
  events.foldl (stepCall language) calls

/-- An entry that is an address is cached under its local part. -/
def loadEntry (addressMap : OrderedMap String String) (entry : String × Mapping) :
    OrderedMap String String :=
  if "addr:".toList.isPrefixOf entry.1.toList then
    addressMap.set (String.ofList (entry.1.toList.drop 5)) entry.2.dmailAddress
  else addressMap

/-- The database lists its entries by the order of their keys. The iteration may end with
    an error, which is caught, after as many entries. -/
def loadAddressMappings (entries : Nat) (gateway : Gateway P) : Gateway P :=
  let read := (gateway.db.entries.mergeSort fun left right => decide (left.1 ≤ right.1)).take entries
  { gateway with addressMap := read.foldl loadEntry .empty }

/-- The gateway after its start, before the first call. -/
def started (entries : Nat) (gateway : Gateway P) : Calls P :=
  ⟨loadAddressMappings entries gateway, [], [], []⟩

/-- No call is in progress. -/
def Idle (calls : Calls P) : Prop := calls.queue = [] ∧ calls.replies = []

def storedAddress (db : OrderedMap String Mapping) (key : String) : Option String :=
  (db.get ("addr:" ++ key)).map Mapping.dmailAddress

/-- The address of the last registration of a key, or the one from before. -/
def lastRegistered (before : Option String) (key : String) (registered : List (String × String)) :
    Option String :=
  registered.foldl (fun last entry => if key = entry.1 then some entry.2 else last) before

/-- The mappings that are asked for with a valid address, in the order of the calls. -/
def requested (P : Packages) : CallEvent → Option (String × String)
  | .registerAddress localPart dmailAddress _ =>
      (addressToPublicKey P dmailAddress).toOption.map fun _ =>
        (language.toLowerCase localPart, dmailAddress)
  | _ => none

section Caching
variable {db : OrderedMap String Mapping} {addressMap : OrderedMap String String} {key : String}

/-- Every cached address is the stored one. -/
def Coherent (db : OrderedMap String Mapping) (addressMap : OrderedMap String String) : Prop :=
  ∀ key dmailAddress, addressMap.get key = some dmailAddress →
    storedAddress db key = some dmailAddress

theorem storedAddress_set (db : OrderedMap String Mapping) (key other : String) (record : Mapping) :
    storedAddress (db.set ("addr:" ++ key) record) other =
      if other = key then some record.dmailAddress else storedAddress db other := by
  rw [storedAddress, OrderedMap.get_set]
  by_cases same : other = key
  · simp [same]
  · simp [same, storedAddress]

theorem Coherent.set {dmailAddress : String} (coherent : Coherent db addressMap)
    (stored : storedAddress db key = some dmailAddress) :
    Coherent db (addressMap.set key dmailAddress) := by
  intro other found cached
  rw [OrderedMap.get_set] at cached
  by_cases same : other = key
  · rw [if_pos same] at cached
    rw [same, stored, cached]
  · rw [if_neg same] at cached
    exact coherent other found cached

theorem Coherent.put (coherent : Coherent db addressMap) (key : String) (record : Mapping) :
    Coherent (db.set ("addr:" ++ key) record) (addressMap.set key record.dmailAddress) := by
  intro other found cached
  rw [OrderedMap.get_set] at cached
  rw [storedAddress_set]
  by_cases same : other = key
  · rw [if_pos same] at cached ⊢
    exact cached
  · rw [if_neg same] at cached ⊢
    exact coherent other found cached

/-- What the database performs, the cache follows as soon as the call goes on. -/
theorem Coherent.perform (coherent : Coherent db addressMap) (operation : Operation) :
    Coherent (perform db operation).1 ((perform db operation).2.cache addressMap) := by
  cases operation with
  | put key record => exact coherent.put key record
  | get key =>
      cases held : db.get ("addr:" ++ key) with
      | none => simpa [SMTPGateway.perform, held, Reply.cache] using coherent
      | some record =>
          have stored : storedAddress db key = some record.dmailAddress := by
            simp [storedAddress, held]
          simpa [SMTPGateway.perform, held, Reply.cache] using coherent.set stored

theorem lastRegistered_append (before : Option String) (key : String)
    (registered more : List (String × String)) : lastRegistered before key (registered ++ more) =
      lastRegistered (lastRegistered before key registered) key more :=
  List.foldl_append

/-- What is stored is what was registered last. -/
theorem storedAddress_perform (db : OrderedMap String Mapping) (operation : Operation) (key : String) :
    storedAddress (perform db operation).1 key =
      lastRegistered (storedAddress db key) key (perform db operation).2.registration.toList := by
  cases operation with
  | put name record =>
      simp [perform, storedAddress_set, Reply.registration, lastRegistered]
  | get name =>
      cases held : db.get ("addr:" ++ name) with
      | none => simp [perform, held, Reply.registration, lastRegistered]
      | some record => simp [perform, held, Reply.registration, lastRegistered]

theorem Coherent.loadEntry {entry : String × Mapping} (coherent : Coherent db addressMap)
    (held : db.get entry.1 = some entry.2) : Coherent db (loadEntry addressMap entry) := by
  rw [SMTPGateway.loadEntry]
  by_cases named : "addr:".toList.isPrefixOf entry.1.toList
  · rw [if_pos named]
    obtain ⟨localPart, written⟩ := List.isPrefixOf_iff_prefix.mp named
    have rest : entry.1.toList.drop 5 = localPart := by
      rw [← written]
      exact List.drop_left' rfl
    have key : "addr:" ++ String.ofList (entry.1.toList.drop 5) = entry.1 := by
      rw [← String.toList_inj, String.toList_append, rest, ← written]
      exact congrArg _ String.toList_ofList
    refine coherent.set ?_
    rw [storedAddress, key, held]
    rfl
  · rw [if_neg named]
    exact coherent

theorem Coherent.loadEntries (read : List (String × Mapping)) :
    ∀ {addressMap : OrderedMap String String}, Coherent db addressMap →
      (∀ entry ∈ read, db.get entry.1 = some entry.2) →
      Coherent db (read.foldl SMTPGateway.loadEntry addressMap) := by
  induction read with
  | nil => exact fun coherent _ => coherent
  | cons entry rest ih =>
      intro addressMap coherent held
      exact ih (coherent.loadEntry (held entry List.mem_cons_self))
        fun other member => held other (List.mem_cons_of_mem _ member)

theorem coherent_load (entries : Nat) (gateway : Gateway P) :
    Coherent gateway.db (loadAddressMappings entries gateway).addressMap := by
  have none : Coherent gateway.db .empty := by
    intro key dmailAddress cached
    simp at cached
  refine Coherent.loadEntries _ none fun entry member => ?_
  exact (OrderedMap.get_iff_mem _ _ _).mpr (List.mem_mergeSort.mp (List.mem_of_mem_take member))

end Caching

section Runs
variable {language} {gateway : Gateway P} {calls : Calls P} {entries : Nat}

/-- The cache once every answered call has gone on. -/
def settledMap (calls : Calls P) : OrderedMap String String :=
  calls.replies.foldl Reply.cache calls.gateway.addressMap

/-- The registrations once every answered call has gone on. -/
def settledLog (calls : Calls P) : List (String × String) :=
  calls.registered ++ calls.replies.filterMap Reply.registration

/-- With the answers that are on their way, the cache agrees with the database and the
    database with the registrations. -/
structure Consistent (gateway : Gateway P) (calls : Calls P) : Prop where
  cached : Coherent calls.gateway.db (settledMap calls)
  stored : ∀ key, storedAddress calls.gateway.db key =
    lastRegistered (storedAddress gateway.db key) key (settledLog calls)

theorem consistent_started (entries : Nat) (gateway : Gateway P) :
    Consistent gateway (started entries gateway) :=
  ⟨coherent_load entries gateway, fun _ => rfl⟩

theorem registration_single (reply : Reply) :
    [reply].filterMap Reply.registration = reply.registration.toList := by
  cases said : reply.registration <;> simp [said]

theorem Consistent.complete (consistent : Consistent gateway calls) (succeeds : Bool) :
    Consistent gateway (stepCall language calls (.complete succeeds)) := by
  obtain ⟨held, queue, replies, registered⟩ := calls
  cases queue with
  | nil => exact consistent
  | cons operation rest =>
      cases succeeds with
      | false =>
          constructor
          · simpa [stepCall, settledMap, List.foldl_append, Reply.cache] using consistent.cached
          · simpa [stepCall, settledLog, registration_single, Reply.registration] using
              consistent.stored
      | true =>
          constructor
          · have followed := consistent.cached.perform operation
            simpa [stepCall, settledMap, List.foldl_append] using followed
          · intro key
            have stored := storedAddress_perform held.db operation key
            rw [consistent.stored key, ← lastRegistered_append] at stored
            simpa [stepCall, settledLog, registration_single] using stored

theorem Consistent.resume (consistent : Consistent gateway calls) :
    Consistent gateway (stepCall language calls .resume) := by
  obtain ⟨held, queue, replies, registered⟩ := calls
  cases replies with
  | nil => exact consistent
  | cons reply rest =>
      have log : registered ++ reply.registration.toList ++ rest.filterMap Reply.registration =
          registered ++ (reply :: rest).filterMap Reply.registration := by
        cases said : reply.registration <;> simp [said]
      exact ⟨consistent.cached, fun key => (consistent.stored key).trans (congrArg _ log.symm)⟩

/-- A call that asks the database for something changes nothing yet. -/
theorem Consistent.call (consistent : Consistent gateway calls) (queue : List Operation) :
    Consistent gateway { calls with queue } := ⟨consistent.cached, consistent.stored⟩

theorem Consistent.step (consistent : Consistent gateway calls) (event : CallEvent) :
    Consistent gateway (stepCall language calls event) := by
  cases event with
  | registerAddress localPart dmailAddress now =>
      cases valid : addressToPublicKey P dmailAddress with
      | error failure => simpa [stepCall, valid] using consistent
      | ok key => simpa [stepCall, valid] using consistent.call _
  | getDmailAddress localPart =>
      by_cases cached : calls.gateway.addressMap.has (language.toLowerCase localPart)
      · simpa [stepCall, cached] using consistent
      · simpa [stepCall, cached] using consistent.call _
  | complete succeeds => exact consistent.complete succeeds
  | resume => exact consistent.resume

variable (language) in
theorem Consistent.run (consistent : Consistent gateway calls) (events : List CallEvent) :
    Consistent gateway (runCalls language calls events) := by
  induction events generalizing calls with
  | nil => exact consistent
  | cons event rest ih => exact ih (consistent.step event)

/-- The mapping that an operation is to register. -/
def Operation.registration : Operation → Option (String × String)
  | .put key record => some (key, record.dmailAddress)
  | .get _ => none

/-- The registrations that are logged or still can be. -/
def expected (calls : Calls P) : List (String × String) :=
  settledLog calls ++ calls.queue.filterMap Operation.registration

theorem perform_registration (db : OrderedMap String Mapping) (operation : Operation) :
    (perform db operation).2.registration = operation.registration := by
  cases operation with
  | put key record => rfl
  | get key =>
      cases held : db.get ("addr:" ++ key) <;>
        simp [perform, held, Reply.registration, Operation.registration]

variable (language) in
/-- A step registers nothing out of turn, and forgets only what the database refuses. -/
theorem expected_step (calls : Calls P) (event : CallEvent) :
    (expected (stepCall language calls event)).Sublist
        (expected calls ++ (requested language P event).toList) ∧
      (event ≠ .complete false → expected (stepCall language calls event) =
        expected calls ++ (requested language P event).toList) := by
  -- All but a refusal change the log by what the call asks for.
  have whole {left right : List (String × String)} {condition : Prop} (same : left = right) :
      left.Sublist right ∧ (condition → left = right) := by
    rw [same]
    exact ⟨.refl _, fun _ => rfl⟩
  obtain ⟨held, queue, replies, registered⟩ := calls
  cases event with
  | registerAddress localPart dmailAddress now =>
      apply whole
      cases valid : addressToPublicKey P dmailAddress with
      | error failure => simp [stepCall, valid, requested, Except.toOption]
      | ok key =>
          simp [stepCall, valid, requested, Except.toOption, expected, settledLog,
            Operation.registration]
  | getDmailAddress localPart =>
      apply whole
      by_cases cached : held.addressMap.has (language.toLowerCase localPart)
      · simp [stepCall, cached, requested]
      · simp [stepCall, cached, requested, expected, settledLog, Operation.registration]
  | complete succeeds =>
      cases queue with
      | nil => exact whole (by simp [stepCall, requested])
      | cons operation rest =>
          cases succeeds with
          | true =>
              apply whole
              cases asked : operation.registration <;>
                simp [stepCall, requested, expected, settledLog, perform_registration, asked]
          | false =>
              refine ⟨?_, fun given => absurd rfl given⟩
              simpa [stepCall, requested, expected, settledLog, registration_single,
                Reply.registration] using
                (List.sublist_cons_self operation rest).filterMap Operation.registration
  | resume =>
      apply whole
      cases replies with
      | nil => simp [stepCall, requested]
      | cons reply rest =>
          cases said : reply.registration <;>
            simp [stepCall, requested, expected, settledLog, said]

variable (language) in
theorem expected_run (events : List CallEvent) : ∀ calls : Calls P,
    (expected (runCalls language calls events)).Sublist
        (expected calls ++ events.filterMap (requested language P)) ∧
      (.complete false ∉ events → expected (runCalls language calls events) =
        expected calls ++ events.filterMap (requested language P)) := by
  induction events with
  | nil => simp [runCalls]
  | cons event rest ih =>
      intro calls
      obtain ⟨part, all⟩ := expected_step language calls event
      obtain ⟨later, laterAll⟩ := ih (stepCall language calls event)
      have asked : (event :: rest).filterMap (requested language P) =
          (requested language P event).toList ++ rest.filterMap (requested language P) := by
        cases said : requested language P event <;> simp [said]
      rw [asked, ← List.append_assoc]
      refine ⟨later.trans (part.append_right _), fun performed => ?_⟩
      rw [List.mem_cons, not_or] at performed
      rw [← all (Ne.symm performed.1)]
      exact laterAll performed.2

/-- A lookup while no call is in progress gives the stored address. -/
theorem getDmailAddress_stored {gateway : Gateway P}
    (coherent : Coherent gateway.db gateway.addressMap) (localPart : String) :
    (getDmailAddress language gateway localPart).2 =
      storedAddress gateway.db (language.toLowerCase localPart) := by
  cases cached : gateway.addressMap.get (language.toLowerCase localPart) with
  | some dmailAddress =>
      rw [coherent _ dmailAddress cached]
      simp [getDmailAddress, cached]
  | none =>
      cases held : gateway.db.get ("addr:" ++ language.toLowerCase localPart) <;>
        simp [getDmailAddress, cached, storedAddress, held]

/-- Whenever no call is in progress, every cached address is the stored one, which is that of
    the last registration, so a lookup gives that; and what is registered was asked for in this
    order, all of it where the database refuses nothing. -/
theorem cached_addresses_stored (language : LowerCase) (gateway : Gateway P) (entries : Nat)
    (events : List CallEvent) (idle : Idle (runCalls language (started entries gateway) events)) :
    let after := runCalls language (started entries gateway) events
    Coherent after.gateway.db after.gateway.addressMap ∧
    (∀ key, storedAddress after.gateway.db key =
      lastRegistered (storedAddress gateway.db key) key after.registered) ∧
    (∀ localPart, (getDmailAddress language after.gateway localPart).2 =
      storedAddress after.gateway.db (language.toLowerCase localPart)) ∧
    after.registered.Sublist (events.filterMap (requested language P)) ∧
    (.complete false ∉ events → after.registered = events.filterMap (requested language P)) := by
  intro after
  obtain ⟨cached, stored⟩ := (consistent_started entries gateway).run language events
  obtain ⟨part, all⟩ := expected_run language events (started entries gateway)
  have map : settledMap after = after.gateway.addressMap := by rw [settledMap, idle.2, List.foldl_nil]
  have log : settledLog after = after.registered := by
    rw [settledLog, idle.2, List.filterMap_nil, List.append_nil]
  have last : expected after = after.registered := by
    rw [expected, idle.1, log, List.filterMap_nil, List.append_nil]
  have coherent : Coherent after.gateway.db after.gateway.addressMap := map ▸ cached
  refine ⟨coherent, fun key => ?_, getDmailAddress_stored coherent, ?_, fun performed => ?_⟩
  · rw [← log]
    exact stored key
  · rw [← last]
    exact part
  · rw [← last]
    exact all performed

/-- Alice is looked up while she is registered. -/
def overlapping : List CallEvent :=
  [.getDmailAddress "Alice", .registerAddress "alice" "dm12" 5, .complete true, .complete true,
    .resume, .resume]

theorem overlapping_lookup : (getDmailAddress asciiLower
    (runCalls asciiLower (started 0 sampleGateway) overlapping).gateway "ALICE").2 =
      some "dm12" := by
  have idle : Idle (runCalls asciiLower (started 0 sampleGateway) overlapping) := ⟨rfl, rfl⟩
  rw [(cached_addresses_stored asciiLower sampleGateway 0 overlapping idle).2.2.1 "ALICE"]
  rfl

/-- A call that nothing interrupts is the one step that `getDmailAddress` stands for. -/
theorem lookup_alone (calls : Calls P) (idle : Idle calls) (localPart : String) :
    (runCalls language calls [.getDmailAddress localPart, .complete true, .resume]).gateway =
      (getDmailAddress language calls.gateway localPart).1 := by
  obtain ⟨held, queue, replies, registered⟩ := calls
  obtain ⟨rfl, rfl⟩ : queue = [] ∧ replies = [] := idle
  cases cached : held.addressMap.get (language.toLowerCase localPart) with
  | some dmailAddress =>
      simp [runCalls, stepCall, OrderedMap.has, cached, getDmailAddress]
  | none =>
      cases found : held.db.get ("addr:" ++ language.toLowerCase localPart) <;>
        simp [runCalls, stepCall, OrderedMap.has, cached, getDmailAddress, perform, found,
          Reply.cache]

theorem registration_alone (calls : Calls P) (idle : Idle calls) (localPart dmailAddress : String)
    (now : Nat) :
    (runCalls language calls [.registerAddress localPart dmailAddress now, .complete true,
      .resume]).gateway = (registerAddress language calls.gateway localPart dmailAddress now).state := by
  obtain ⟨held, queue, replies, registered⟩ := calls
  obtain ⟨rfl, rfl⟩ : queue = [] ∧ replies = [] := idle
  cases valid : addressToPublicKey P dmailAddress with
  | error failure => simp [runCalls, stepCall, valid, registerAddress]
  | ok key => simp [runCalls, stepCall, valid, registerAddress, perform, Reply.cache]

end Runs
end Chainmail.SMTPGateway
