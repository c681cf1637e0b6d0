import Chainmail.RelayRetention

/-!
What the reply to a store request says about the store. The record is put before the
log and the statistics read it, and what they throw is answered as an error as well.
-/

namespace Chainmail.RelayNode

open Json DhtStorage

variable (P : Packages) (signer : Option Signer)

/-- An error says that the store is as before, and a success that the record of its id was
    written and nothing else. -/
structure ReplyTells (data : Bytes) (draw : RandomId) (now : Moment) (relay : Relay) : Prop where
  failed : ((handleStoreRequest P signer data draw now relay).2.field "error").isSome = true →
    (handleStoreRequest P signer data draw now relay).1.db = relay.db
  stored : (handleStoreRequest P signer data draw now relay).2.field "success" = some (.bool true) →
    ∃ requested key record, requestedRecord data draw now = .ok (some requested) ∧
      entryOf P signer requested now = .ok (key, record) ∧
      (handleStoreRequest P signer data draw now relay).2.field "id" = some record.id ∧
      (handleStoreRequest P signer data draw now relay).1.db = relay.db.set key record

/-- The log can show the id and the count of the record, and the data has a length to ask for. -/
structure Describable (record : MessageRecord) : Prop where
  sliced : canSlice (some record.id) = true
  counted : signer.isSome = true ∨ convertible record.replicationCount = true
  filled : ∃ data, record.data = some data ∧ data ≠ .null

/-- What the request would put can be described, or is there already. -/
def Tellable (data : Bytes) (draw : RandomId) (now : Moment) (relay : Relay) : Prop :=
  ∀ requested key record, requestedRecord data draw now = .ok (some requested) →
    entryOf P signer requested now = .ok (key, record) →
    Describable signer requested ∨ relay.db.get key = some record

variable {P signer} {now : Moment}

theorem logReplicated_ok_iff {record : MessageRecord} : logReplicated record = .ok () ↔
    canSlice (some record.id) = true ∧ convertible record.replicationCount = true := by
  rw [← texts_isOk.1, logReplicated]
  cases sliced : canSlice (some record.id) with
  | false => simp
  | true => cases toText record.replicationCount <;> simp [Except.isOk, Except.toBool]

theorem entryOf_kept {record : MessageRecord} {key : String} {entered : MessageRecord}
    (made : entryOf P signer record now = .ok (key, entered)) :
    entered.id = record.id ∧ entered.data = record.data := by
  rcases entryOf_record made with same | ⟨proof, same⟩
  · cases same
    exact ⟨rfl, rfl⟩
  · cases same
    exact ⟨rfl, rfl⟩

/-- A record that was signed here has a number for its count. -/
theorem entryOf_counted {record : MessageRecord} {key : String} {entered : MessageRecord}
    (made : entryOf P signer record now = .ok (key, entered)) :
    convertible entered.replicationCount = true ↔
      signer.isSome = true ∨ convertible record.replicationCount = true := by
  rcases (entryOf_cases made).2 with ⟨rfl, same⟩ | ⟨node, _, proof, rfl, _, _, same⟩
  · cases same
    simp
  · cases same
    simp [convertible, ofInt]

theorem describable_iff {record : MessageRecord} {key : String} {entered : MessageRecord}
    (made : entryOf P signer record now = .ok (key, entered)) :
    Describable signer record ↔
      logReplicated entered = .ok () ∧ ∃ data, entered.data = some data ∧ data ≠ .null := by
  obtain ⟨sameId, sameData⟩ := entryOf_kept made
  rw [logReplicated_ok_iff, entryOf_counted made, sameId, sameData]
  constructor
  · rintro ⟨sliced, counted, filled⟩
    exact ⟨⟨sliced, counted⟩, filled⟩
  · rintro ⟨⟨sliced, counted⟩, filled⟩
    exact ⟨sliced, counted, filled⟩

variable {data : Bytes} {draw : RandomId} {relay : Relay}

/-- The reply, once there is something to put. -/
theorem reply_put {requested record : MessageRecord} {key : String}
    (asked : requestedRecord data draw now = .ok (some requested))
    (made : entryOf P signer requested now = .ok (key, record)) :
    (handleStoreRequest P signer data draw now relay).1.db = relay.db.set key record ∧
      (Describable signer requested ∧ (handleStoreRequest P signer data draw now relay).2 =
          .object [("success", .bool true), ("id", record.id)] ∨
        ¬ Describable signer requested ∧
          (handleStoreRequest P signer data draw now relay).2 = storeFailed) := by
  rw [describable_iff made]
  unfold handleStoreRequest
  simp only [asked, storeRecord, made]
  cases logReplicated record with
  | error failure => simp
  | ok shown =>
      cases held : record.data with
      | none => simp [held]
      | some value => cases value <;> simp [held]

/-- The reply, where nothing is put. -/
theorem reply_unput
    (unmade : ∀ requested, requestedRecord data draw now = .ok (some requested) →
      ∃ failure, entryOf P signer requested now = .error failure) :
    (handleStoreRequest P signer data draw now relay).1.db = relay.db ∧
      ((handleStoreRequest P signer data draw now relay).2 = storeFailed ∨
        (handleStoreRequest P signer data draw now relay).2 = invalidRequest) := by
  unfold handleStoreRequest
  cases asked : requestedRecord data draw now with
  | error failure => simp
  | ok found =>
      cases found with
      | none => simp
      | some requested =>
          obtain ⟨failure, unmade⟩ := unmade requested asked
          simp [storeRecord, unmade]

theorem failed_unsuccessful {answer : Json} (failed : answer = storeFailed ∨ answer = invalidRequest) :
    answer.field "success" ≠ some (.bool true) := by
  rcases failed with rfl | rfl
  · exact fun impossible => by cases impossible
  · exact fun impossible => by cases impossible

/-- What is said of everything that a request may put is said of the one thing it puts. -/
theorem tellable_put {requested record : MessageRecord} {key : String}
    (asked : requestedRecord data draw now = .ok (some requested))
    (made : entryOf P signer requested now = .ok (key, record)) :
    Tellable P signer data draw now relay ↔
      Describable signer requested ∨ relay.db.get key = some record := by
  constructor
  · intro tellable
    exact tellable requested key record asked made
  · intro known other otherKey otherRecord askedAlso madeAlso
    rw [asked] at askedAlso
    cases askedAlso
    rw [made] at madeAlso
    cases madeAlso
    exact known

theorem tellable_unput (unmade : ∀ requested, requestedRecord data draw now = .ok (some requested) →
      ∃ failure, entryOf P signer requested now = .error failure) :
    Tellable P signer data draw now relay := by
  intro requested key record asked made
  obtain ⟨failure, unmade⟩ := unmade requested asked
  rw [unmade] at made
  cases made

/-- A record that was put is told of when it can be described. Otherwise the reply is an error,
    and then the store must have been so before. -/
theorem tells_put {requested record : MessageRecord} {key : String}
    (asked : requestedRecord data draw now = .ok (some requested))
    (made : entryOf P signer requested now = .ok (key, record)) :
    ReplyTells P signer data draw now relay ↔
      Describable signer requested ∨ relay.db.get key = some record := by
  obtain ⟨wrote, ⟨describable, replied⟩ | ⟨undescribed, replied⟩⟩ := reply_put asked made
  · refine iff_of_true ⟨?_, ?_⟩ (.inl describable)
    · rw [replied]
      intro impossible
      cases impossible
    · intro _
      exact ⟨requested, key, record, asked, made, by rw [replied]; rfl, wrote⟩
  · rw [or_iff_right undescribed, ← OrderedMap.set_eq_self_iff, ← wrote]
    constructor
    · intro tells
      exact tells.failed (by rw [replied]; rfl)
    · intro unchanged
      refine ⟨fun _ => unchanged, fun succeeded => ?_⟩
      exact absurd succeeded (failed_unsuccessful (.inl replied))

theorem tells_unput (unmade : ∀ requested, requestedRecord data draw now = .ok (some requested) →
      ∃ failure, entryOf P signer requested now = .error failure) :
    ReplyTells P signer data draw now relay := by
  have unput : (handleStoreRequest P signer data draw now relay).1.db = relay.db ∧ _ :=
    reply_unput unmade
  obtain ⟨unchanged, replied⟩ := unput
  exact ⟨fun _ => unchanged, fun succeeded => absurd succeeded (failed_unsuccessful replied)⟩

/-- For every request and every store, the reply tells what was done exactly when what the
    request puts can be described, or was there already. -/
theorem reply_tells_iff (P : Packages) (signer : Option Signer) (data : Bytes) (draw : RandomId)
    (now : Moment) (relay : Relay) :
    ReplyTells P signer data draw now relay ↔ Tellable P signer data draw now relay := by
  by_cases put : ∃ requested key record, requestedRecord data draw now = .ok (some requested) ∧
      entryOf P signer requested now = .ok (key, record)
  · obtain ⟨requested, key, record, asked, made⟩ := put
    rw [tells_put asked made, tellable_put asked made]
  · have unmade : ∀ requested, requestedRecord data draw now = .ok (some requested) →
        ∃ failure, entryOf P signer requested now = .error failure := by
      intro requested asked
      cases made : entryOf P signer requested now with
      | error failure => exact ⟨failure, rfl⟩
      | ok entry => exact absurd ⟨requested, entry.1, entry.2, asked, made⟩ put
    exact iff_of_true (tells_unput unmade) (tellable_unput unmade)

/-! A record whose id is a number is put, and its id cannot be shown. -/

def numberedOptions : List (String × Json) :=
  [("id", ofInt 5), ("recipient", .string "alice"), ("data", .string "aa")]

def numberedRequest : Bytes :=
  utf8Encode (stringify (.object [("action", .string "store"), ("record", .object numberedOptions)]))

theorem numbered_requested : requestedRecord numberedRequest sampleDraw sampleMoment =
    .ok (some (.construct (.object numberedOptions) [] sampleDraw sampleMoment)) :=
  requestedRecord_options sampleDraw sampleMoment
    (canonical_object ["id", "recipient", "data"] rfl (by decide) ⟨trivial, trivial, trivial, trivial⟩)
    rfl

theorem failure_stored :
    (handleStoreRequest samplePackages none numberedRequest sampleDraw sampleMoment start).2 =
        storeFailed ∧
      (handleStoreRequest samplePackages none numberedRequest sampleDraw sampleMoment start).1.db ≠
        start.db := by
  have made : ∃ key record, entryOf samplePackages none
      (.construct (.object numberedOptions) [] sampleDraw sampleMoment) sampleMoment =
        .ok (key, record) := ⟨_, _, rfl⟩
  obtain ⟨key, record, made⟩ := made
  have put : (handleStoreRequest samplePackages none numberedRequest sampleDraw sampleMoment
      start).1.db = start.db.set key record ∧ _ := reply_put numbered_requested made
  obtain ⟨wrote, ⟨describable, _⟩ | ⟨_, replied⟩⟩ := put
  · exact absurd describable.sliced (by decide +kernel)
  · refine ⟨replied, fun same => ?_⟩
    rw [wrote, OrderedMap.set_eq_self_iff] at same
    cases same

end Chainmail.RelayNode
