import Chainmail.MessageStore
import Chainmail.SharedStorage

/-!
Read marks among the messages of the shared storage. A mark is put in the messages' own
range of keys, where the readers of messages find it as well.
-/

namespace Chainmail.ReadMarks

open SharedStorage
open DhtStorage (Moment RandomId Signer entryOf newRecord)
open MessageStore (keyOf Plain)

variable (P : Packages) (signer : Option Signer)

inductive Event where
  | store (recipient data : String) (draw : RandomId)
  | deleteMessage (recipient messageId : String)
  | markAsRead (userAddress messageId : String)

def step (db : Database) (event : Event) (now : Moment) : Database :=
  match event with
  | .store recipient data draw => (store P signer recipient data draw now db).state
  | .deleteMessage recipient messageId => deleteMessage recipient messageId db
  | .markAsRead userAddress messageId => markAsRead userAddress messageId now db

/-- The last event comes first. -/
def replay : List (Event × Moment) → Database
  | [] => OrderedMap.empty
  | (event, now) :: earlier => step P signer (replay earlier) event now

/-- The message was marked as read for the user. -/
def Marked (past : List (Event × Moment)) (userAddress messageId : String) : Prop :=
  ∃ now, (Event.markAsRead userAddress messageId, now) ∈ past

def FindsMarks (past : List (Event × Moment)) : Prop :=
  ∀ userAddress messageId, isRead userAddress messageId (replay P signer past) = true ↔
    Marked past userAddress messageId

def ListsMarks (past : List (Event × Moment)) : Prop :=
  ∀ userAddress messageId, messageId ∈ getReadMessageIds userAddress (replay P signer past) ↔
    Marked past userAddress messageId

/-- If the last event is a mark, then everyone gets the messages that they got before it. -/
def LeavesMessages (past : List (Event × Moment)) : Prop :=
  ∀ userAddress messageId now earlier,
    past = (.markAsRead userAddress messageId, now) :: earlier → ∀ recipient draws later,
      getMessages recipient draws later (replay P signer past) =
        getMessages recipient draws later (replay P signer earlier)

/-- The statistics are those of the stored messages alone. -/
def CountsMessages (past : List (Event × Moment)) : Prop :=
  getStats (replay P signer past) =
    getStats ((replay P signer past).keep fun _ value => value.isRecord)

/-- Marks and messages do not interfere. -/
structure Apart (past : List (Event × Moment)) : Prop where
  found : FindsMarks P signer past
  listed : ListsMarks P signer past
  messages : LeavesMessages P signer past
  counted : CountsMessages P signer past

/-- What a record is put under, if the event puts one. -/
def putUnder (event : Event) (now : Moment) : Option String :=
  match event with
  | .store recipient data draw =>
      (entryOf P signer (newRecord (.string recipient) data draw now) now).toOption.map Prod.fst
  | _ => none

/-- The event marks nothing, and stores nothing where a mark would be. -/
def StaysOut (input : Event × Moment) : Prop :=
  match input.1 with
  | .markAsRead _ _ => False
  | event => ∀ userAddress messageId, putUnder P signer event input.2 ≠
      some (readKey userAddress messageId)

/-- A mark has one colon between its user and its message; what is stored or deleted at the
    place of a mark is stored where there is one, and deleted where there is none. -/
def KeepsMarks (input : Event × Moment) (earlier : List (Event × Moment)) : Prop :=
  match input.1 with
  | .markAsRead userAddress messageId => Plain (userAddress, messageId)
  | .deleteMessage recipient messageId =>
      ∀ userAddress marked, Marked earlier userAddress marked →
        readKey userAddress marked ≠ messageKey recipient messageId
  | event => ∀ userAddress messageId, putUnder P signer event input.2 =
      some (readKey userAddress messageId) → Marked earlier userAddress messageId

section Keys
variable {userAddress messageId other own : String}

theorem readKey_eq_iff : readKey userAddress messageId = readKey other own ↔
    keyOf (userAddress, messageId) = keyOf (other, own) := by
  have letters (pair : String × String) :
      (readKey pair.1 pair.2).toList = "read:".toList ++ (keyOf pair).toList := by
    simp [readKey, keyOf]
  rw [← String.toList_inj, letters (userAddress, messageId), letters (other, own),
    List.append_cancel_left_eq, String.toList_inj]

end Keys

section Steps
variable {P signer} {event : Event} {now : Moment} {past earlier : List (Event × Moment)}
  {input : Event × Moment} {userAddress messageId recipient data : String} {draw : RandomId}

theorem marked_cons : Marked ((event, now) :: past) userAddress messageId ↔
    event = .markAsRead userAddress messageId ∨ Marked past userAddress messageId := by
  simp only [Marked, List.mem_cons, Prod.mk.injEq, exists_or]
  refine or_congr_left ⟨?_, ?_⟩
  · rintro ⟨_, rfl, _⟩
    rfl
  · rintro rfl
    exact ⟨now, rfl, rfl⟩

variable (P signer recipient data draw now) in
/-- What `store` leaves: a record, or the database as it was. -/
theorem store_state (db : Database) :
    (∃ key record, putUnder P signer (.store recipient data draw) now = some key ∧
      (store P signer recipient data draw now db).state = db.set key (.record record)) ∨
    putUnder P signer (.store recipient data draw) now = none ∧
      (store P signer recipient data draw now db).state = db := by
  rw [putUnder, store]
  cases entered : entryOf P signer (newRecord (.string recipient) data draw now) now with
  | error failure => exact .inr ⟨rfl, rfl⟩
  | ok entry => exact .inl ⟨entry.1, entry.2, rfl, rfl⟩

theorem isRead_set {key : String} (db : Database) (value : Value) :
    isRead userAddress messageId (db.set key value) = true ↔
      readKey userAddress messageId = key ∨ isRead userAddress messageId db = true := by
  rw [isRead, OrderedMap.has, OrderedMap.get_set]
  by_cases same : readKey userAddress messageId = key
  · simp [same]
  · simp [same, isRead, OrderedMap.has]

theorem isRead_delete {key : String} (db : Database) :
    isRead userAddress messageId (db.delete key) = true ↔
      readKey userAddress messageId ≠ key ∧ isRead userAddress messageId db = true := by
  rw [isRead, OrderedMap.has, OrderedMap.get_delete]
  by_cases same : readKey userAddress messageId = key
  · simp [same]
  · simp [same, isRead, OrderedMap.has]

theorem marked_plain (kept : EachInput (KeepsMarks P signer) past)
    (marked : Marked past userAddress messageId) : Plain (userAddress, messageId) := by
  induction past with
  | nil =>
      obtain ⟨_, member⟩ := marked
      cases member
  | cons input earlier ih =>
      obtain ⟨event, now⟩ := input
      obtain ⟨own, before⟩ := eachInput_cons.mp kept
      rcases marked_cons.mp marked with rfl | old
      · exact own
      · exact ih before old

/-- A mark finds its own pair alone exactly when its key can be split in one way. -/
theorem findsMarks_mark (kept : EachInput (KeepsMarks P signer) earlier)
    (finds : FindsMarks P signer earlier) :
    FindsMarks P signer ((.markAsRead userAddress messageId, now) :: earlier) ↔
      Plain (userAddress, messageId) := by
  have after (other own : String) :
      isRead other own (replay P signer ((.markAsRead userAddress messageId, now) :: earlier)) =
        true ↔ readKey other own = readKey userAddress messageId ∨ Marked earlier other own := by
    rw [← finds other own]
    exact isRead_set _ _
  constructor
  · intro found
    -- A key with two readings is found for both pairs, of which one was never marked.
    by_contra colons
    obtain ⟨other, own, foreign, key⟩ := MessageStore.foreign_prefix colons
    have read := (after other own).mpr (.inl (readKey_eq_iff.mpr key.symm))
    rcases marked_cons.mp ((found other own).mp read) with same | old
    · cases same
      exact foreign rfl
    · have same := (marked_plain kept old).unique key.symm
      cases same
      exact foreign rfl
  · intro plain other own
    rw [after, marked_cons]
    refine or_congr_left ⟨?_, ?_⟩
    · intro key
      cases plain.unique (readKey_eq_iff.mp key.symm)
      rfl
    · rintro same
      cases same
      rfl

theorem findsMarks_cons (kept : EachInput (KeepsMarks P signer) earlier)
    (finds : FindsMarks P signer earlier) :
    FindsMarks P signer (input :: earlier) ↔ KeepsMarks P signer input earlier := by
  obtain ⟨event, now⟩ := input
  cases event with
  | store recipient data draw =>
      have same (other own : String) :
          Marked ((.store recipient data draw, now) :: earlier) other own ↔
            Marked earlier other own := by
        simp [marked_cons]
      simp only [FindsMarks, KeepsMarks, same, replay, step]
      rcases store_state P signer now recipient data draw (replay P signer earlier) with
        ⟨key, record, put, after⟩ | ⟨put, after⟩
      · rw [put, after]
        refine forall_congr' fun other => forall_congr' fun own => ?_
        rw [isRead_set, finds other own, Option.some.injEq, eq_comm]
        simp
      · rw [put, after]
        simp [finds _ _]
  | deleteMessage recipient messageId =>
      have same (other own : String) :
          Marked ((.deleteMessage recipient messageId, now) :: earlier) other own ↔
            Marked earlier other own := by
        simp [marked_cons]
      have after (other own : String) :
          isRead other own (replay P signer ((.deleteMessage recipient messageId, now) :: earlier)) =
            true ↔ readKey other own ≠ messageKey recipient messageId ∧ Marked earlier other own := by
        rw [← finds other own]
        exact isRead_delete _
      simp only [FindsMarks, KeepsMarks, same, after, and_iff_right_iff_imp]
  | markAsRead userAddress messageId => exact findsMarks_mark kept finds

theorem listsMarks_iff : ListsMarks P signer past ↔ FindsMarks P signer past := by
  simp only [ListsMarks, FindsMarks, mem_getReadMessageIds]

/-- Where nothing has been marked, only what marks nothing keeps the marks and stays out. -/
theorem staysOut_iff (unmarked : ∀ userAddress messageId, ¬ Marked earlier userAddress messageId) :
    StaysOut P signer input ↔ KeepsMarks P signer input earlier ∧
      ∀ userAddress messageId, input.1 ≠ .markAsRead userAddress messageId := by
  obtain ⟨event, now⟩ := input
  cases event with
  | store recipient data draw => simp [StaysOut, KeepsMarks, unmarked]
  | deleteMessage recipient messageId => simp [StaysOut, KeepsMarks, unmarked, putUnder]
  | markAsRead userAddress messageId => simp [StaysOut]

theorem eachStaysOut_iff : EachInput (fun input _ => StaysOut P signer input) past ↔
    EachInput (KeepsMarks P signer) past ∧
      ∀ userAddress messageId, ¬ Marked past userAddress messageId := by
  induction past with
  | nil =>
      refine iff_of_true eachInput_nil ⟨eachInput_nil, ?_⟩
      rintro userAddress messageId ⟨_, member⟩
      cases member
  | cons input earlier ih =>
      rw [eachInput_cons, eachInput_cons, ih]
      constructor
      · rintro ⟨out, kept, unmarked⟩
        obtain ⟨own, other⟩ := (staysOut_iff unmarked).mp out
        refine ⟨⟨own, kept⟩, fun userAddress messageId marked => ?_⟩
        rcases marked_cons.mp marked with same | old
        · exact other _ _ same
        · exact unmarked _ _ old
      · rintro ⟨⟨own, kept⟩, unmarked⟩
        have before (userAddress messageId : String) : ¬ Marked earlier userAddress messageId :=
          fun old => unmarked _ _ (marked_cons.mpr (.inr old))
        have other (userAddress messageId : String) :
            input.1 ≠ .markAsRead userAddress messageId :=
          fun same => unmarked _ _ (marked_cons.mpr (.inl same))
        exact ⟨(staysOut_iff before).mpr ⟨own, other⟩, kept, before⟩

theorem countsMessages_iff : CountsMessages P signer past ↔
    ∀ key value, (replay P signer past).get key = some value → value.isRecord = true := by
  have count (db : Database) : (getStats db).messageCount = db.entries.length :=
    (ordered_perm _).length_eq
  constructor
  · intro same key value held
    have counts := congrArg StorageStats.messageCount same
    rw [count, count, OrderedMap.keep, eq_comm, List.length_filter_eq_length_iff] at counts
    exact counts (key, value) ((OrderedMap.get_iff_mem _ _ _).mp held)
  · intro records
    have whole : (replay P signer past).keep (fun _ value => value.isRecord) =
        replay P signer past := by
      apply OrderedMap.ext_entries
      rw [OrderedMap.keep, List.filter_eq_self]
      exact fun entry member => records _ _ ((OrderedMap.get_iff_mem _ entry.1 entry.2).mpr member)
    rw [CountsMessages, whole]

theorem replay_records
    (unmarked : ∀ userAddress messageId, ¬ Marked past userAddress messageId) :
    ∀ key value, (replay P signer past).get key = some value → value.isRecord = true := by
  induction past with
  | nil =>
      intro key value held
      cases held
  | cons input earlier ih =>
      obtain ⟨event, now⟩ := input
      have records := ih fun _ _ old => unmarked _ _ (marked_cons.mpr (.inr old))
      intro key value held
      cases event with
      | store recipient data draw =>
          rw [replay, step] at held
          rcases store_state P signer now recipient data draw (replay P signer earlier) with
            ⟨own, record, _, after⟩ | ⟨_, after⟩
          · rw [after, OrderedMap.get_set] at held
            split at held
            · cases held
              rfl
            · exact records key value held
          · rw [after] at held
            exact records key value held
      | deleteMessage recipient messageId =>
          rw [replay, step, deleteMessage, OrderedMap.get_delete] at held
          split at held
          · cases held
          · exact records key value held
      | markAsRead userAddress messageId => exact absurd (marked_cons.mpr (.inl rfl)) (unmarked _ _)

theorem unmarked_of_counts (counts : Always (CountsMessages P signer) past)
    (userAddress messageId : String) : ¬ Marked past userAddress messageId := by
  rintro ⟨now, member⟩
  obtain ⟨newer, earlier, rfl⟩ := List.append_of_mem member
  have records := countsMessages_iff.mp (counts _ (List.suffix_append _ _))
  have held : (replay P signer ((.markAsRead userAddress messageId, now) :: earlier)).get
      (readKey userAddress messageId) = some (.mark now) := OrderedMap.get_set_self _ _ _
  cases records _ _ held

theorem apart_of_unmarked (finds : FindsMarks P signer past)
    (unmarked : ∀ userAddress messageId, ¬ Marked past userAddress messageId) :
    Apart P signer past where
  found := finds
  listed := listsMarks_iff.mpr finds
  messages := by
    rintro userAddress messageId now earlier rfl
    exact absurd (marked_cons.mpr (.inl rfl)) (unmarked _ _)
  counted := countsMessages_iff.mpr (replay_records unmarked)

end Steps

variable (past : List (Event × Moment))

theorem finds_always_iff : Always (FindsMarks P signer) past ↔
    EachInput (KeepsMarks P signer) past := by
  have free : EachInput (fun _ _ => True) past := fun _ _ _ => trivial
  refine always_iff_each_kept free ?_ fun _ _ _ kept finds => findsMarks_cons kept finds
  intro userAddress messageId
  refine iff_of_false (fun read => (by cases read)) ?_
  rintro ⟨_, member⟩
  cases member

/-- Marks and messages stay apart exactly when there are no marks and nothing is put where one
    would be. Where there are marks, they are found exactly when each has one colon and no
    message comes or goes in its place; and a mark is read as a message only by the
    recipients that its key starts with. -/
theorem marks_apart_iff :
    (Always (Apart P signer) past ↔ EachInput (fun input _ => StaysOut P signer input) past) ∧
    (Always (fun past => FindsMarks P signer past ∧ ListsMarks P signer past) past ↔
      EachInput (KeepsMarks P signer) past) ∧
    ∀ userAddress messageId now recipient, ¬ (recipient ++ ":").toList <+:
      (readKey userAddress messageId).toList → ∀ draws later,
        getMessages recipient draws later
            (markAsRead userAddress messageId now (replay P signer past)) =
          getMessages recipient draws later (replay P signer past) := by
  refine ⟨?_, ?_, ?_⟩
  · rw [eachStaysOut_iff, ← finds_always_iff]
    constructor
    · intro apart
      exact ⟨fun earlier suffix => (apart earlier suffix).found,
        unmarked_of_counts fun earlier suffix => (apart earlier suffix).counted⟩
    · rintro ⟨finds, unmarked⟩ earlier suffix
      refine apart_of_unmarked (finds earlier suffix) ?_
      rintro userAddress messageId ⟨now, member⟩
      exact unmarked _ _ ⟨now, suffix.subset member⟩
  · simp only [listsMarks_iff, and_self]
    exact finds_always_iff P signer past
  · intro userAddress messageId now recipient outside draws later
    rw [getMessages, getMessages, markAsRead, startingWith_set _ outside]

/-- One mark, and nothing else. -/
def oneMark : List (Event × Moment) := [(.markAsRead "alice" "m1", RelayNode.sampleMoment)]

theorem mark_counted : ¬ ∀ (P : Packages) (signer : Option Signer) (past : List (Event × Moment)),
    Always (Apart P signer) past := by
  intro claimed
  have apart := claimed samplePackages none oneMark
  exact unmarked_of_counts (fun earlier suffix => (apart earlier suffix).counted) "alice" "m1"
    ⟨_, List.mem_cons_self⟩

end Chainmail.ReadMarks
