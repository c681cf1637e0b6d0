import Chainmail.RelaySteps
import Chainmail.PackageAssumptions
import Chainmail.Runs

/-!
A cleanup step by step, with the calls that get in between. The iterator reads
the entries as they were when it was opened, and the keys it finds are deleted
after that one by one, each time after a wait and without another look.
-/

namespace Chainmail.DhtStorage

open Json

namespace MessageRecord

/-- What has expired stays so. -/
theorem isExpired_later {record : MessageRecord} {now later : Moment} (order : now.ms ≤ later.ms)
    (expired : record.isExpired now = .ok true) : record.isExpired later = .ok true := by
  obtain ⟨expires, number, done⟩ := bind_ok_iff.mp expired
  rw [isExpired, number, ok_bind]
  have passed := JsNumber.lt_ofNat_mono order (Except.ok.inj done)
  exact congrArg Except.ok passed

end MessageRecord

namespace CleanupRaces

variable (P : Packages) (signer : Option Signer)

/-- A call that writes while a cleanup waits. It has read the clock some time before its write. -/
inductive Call where
  | store (recipient : Json) (data : String) (draw : RandomId) (called : Moment)
  | storeRecord (record : MessageRecord) (called : Moment)
  | deleteMessage (recipient messageId : String)

/-- What the write of a call makes of the database. -/
def Call.write : Call → Database → Database
  | .store recipient data draw called, db => (DhtStorage.store P signer recipient data draw called db).state
  | .storeRecord record called, db => (DhtStorage.storeRecord P signer record called db).state
  | .deleteMessage recipient messageId, db => DhtStorage.deleteMessage recipient messageId db

/-- What a call puts, and under which key. -/
def Call.puts : Call → Option (String × MessageRecord)
  | .store recipient data draw called =>
      (entryOf P signer (newRecord recipient data draw called) called).toOption
  | .storeRecord record called => (entryOf P signer record called).toOption
  | .deleteMessage _ _ => none

/-- How far `cleanupExpired` has come: in its loop over the entries, or over the keys to delete. -/
inductive Phase where
  | idle
  | scanning (toVisit : List (String × MessageRecord)) (toDelete : List String)
  | deleting (toDelete : List String)

def Phase.toVisit : Phase → List (String × MessageRecord)
  | .scanning toVisit _ => toVisit
  | _ => []

def Phase.toDelete : Phase → List String
  | .idle => []
  | .scanning _ toDelete => toDelete
  | .deleting toDelete => toDelete

/-- The storage with its cleanup; and what the cleanup began with, and which keys were written
    since. -/
structure Storage where
  db : Database
  phase : Phase
  snapshot : Database
  opened : Moment
  rewritten : List String

def start : Storage := ⟨.empty, .idle, .empty, ⟨1, Nat.one_pos⟩, []⟩

inductive Event where
  | call (call : Call)
  | cleanupExpired
  | turn

/-- The next turn of the loop that the cleanup is in. An expiry that is no number ends it. -/
def turn (now : Moment) (storage : Storage) : Storage :=
  match storage.phase with
  | .idle => storage
  | .scanning [] toDelete => { storage with phase := .deleting toDelete }
  | .scanning ((key, record) :: rest) toDelete =>
      match record.isExpired now with
      | .error _ => { storage with phase := .idle }
      | .ok true => { storage with phase := .scanning rest (toDelete ++ [key]) }
      | .ok false => { storage with phase := .scanning rest toDelete }
  | .deleting [] => { storage with phase := .idle }
  | .deleting (key :: rest) => { storage with db := storage.db.delete key, phase := .deleting rest }

/-- `cleanupExpired` up to its first turn. -/
def begun (now : Moment) (db : Database) : Storage := ⟨db, .scanning (iterator db) [], db, now, []⟩

def step (event : Event) (now : Moment) (storage : Storage) : Storage :=
  match event with
  | .call call =>
      { storage with
        db := call.write P signer storage.db
        rewritten := (call.puts P signer).toList.map Prod.fst ++ storage.rewritten }
  | .cleanupExpired =>
      match storage.phase with
      | .idle => begun now storage.db
      | _ => storage
  | .turn => turn now storage

def replay : List (Event × Moment) → Storage
  | [] => start
  | (event, now) :: earlier => step P signer event now (replay earlier)

/-- A record that has not expired is not deleted by the cleanup. And when the cleanup ends, whatever
    had expired when it began, and was not written since, is gone. -/
structure Cleans (event : Event) (now : Moment) (before : Storage) : Prop where
  expiredOnly : event = .turn → ∀ key rest, before.phase = .deleting (key :: rest) →
    ∀ record, before.db.get key = some record → record.isExpired now ≠ .ok false
  complete : before.phase ≠ .idle → (step P signer event now before).phase = .idle →
      ∀ key record, before.snapshot.get key = some record →
        record.isExpired before.opened = .ok true → key ∉ before.rewritten →
          (step P signer event now before).db.get key = none

/-- Nothing fresh is put under a key that is going to be deleted; the scan finds no entry expired
    whose key has a fresh record by now; and every expiry it meets is a number. -/
def Undisturbed (event : Event) (now : Moment) (before : Storage) : Prop :=
  match event with
  | .call call => ∀ entry, call.puts P signer = some entry → entry.1 ∈ before.phase.toDelete →
      entry.2.isExpired now = .ok true
  | .cleanupExpired => True
  | .turn => ∀ key record rest toDelete, before.phase = .scanning ((key, record) :: rest) toDelete →
      ∃ expired, record.isExpired now = .ok expired ∧ (expired = true →
        ∀ held, before.db.get key = some held → held.isExpired now = .ok true)

section Steps
variable {P signer} {storage : Storage} {event : Event} {now later : Moment}

/-- What has been found expired has stayed so or gone; and what had expired when the cleanup began,
    and was not written since, is still to come, found, or gone. -/
structure OnCourse (now : Moment) (storage : Storage) : Prop where
  opened : storage.opened.ms ≤ now.ms
  collected : ∀ key ∈ storage.phase.toDelete, ∀ record, storage.db.get key = some record →
    record.isExpired now = .ok true
  owed : storage.phase ≠ .idle → ∀ key record, storage.snapshot.get key = some record →
    record.isExpired storage.opened = .ok true → key ∉ storage.rewritten →
      (key, record) ∈ storage.phase.toVisit ∨ key ∈ storage.phase.toDelete ∨
        storage.db.get key = none

theorem onCourse_start : OnCourse now start where
  opened := now.positive
  collected key member := by cases member
  owed busy := absurd rfl busy

theorem OnCourse.wait (course : OnCourse now storage) (order : now.ms ≤ later.ms) :
    OnCourse later storage where
  opened := course.opened.trans order
  collected key member record held :=
    MessageRecord.isExpired_later order (course.collected key member record held)
  owed := course.owed

/-- A call puts its entry, if it has one, and writes nothing else. -/
theorem write_get (call : Call) (db : Database) (key : String) :
    (call.write P signer db).get key = none ∨ (call.write P signer db).get key = db.get key ∨
      ∃ record, call.puts P signer = some (key, record) ∧
        (call.write P signer db).get key = some record := by
  have put (made : Option (String × MessageRecord)) :
      (RelayNode.putAll made.toList db).get key = db.get key ∨
        ∃ record, made = some (key, record) ∧
          (RelayNode.putAll made.toList db).get key = some record := by
    cases made with
    | none => exact .inl rfl
    | some entry =>
        simp only [Option.toList_some, RelayNode.putAll, List.foldl_cons, List.foldl_nil,
          OrderedMap.get_set]
        by_cases own : key = entry.1
        · exact .inr ⟨entry.2, by rw [own], if_pos own⟩
        · exact .inl (if_neg own)
  cases call with
  | store recipient data draw called =>
      rw [Call.write, RelayNode.store_state]
      exact .inr (put _)
  | storeRecord record called =>
      rw [Call.write, RelayNode.storeRecord_state]
      exact .inr (put _)
  | deleteMessage recipient messageId =>
      rw [Call.write, DhtStorage.deleteMessage, OrderedMap.get_delete]
      by_cases own : key = recipient ++ ":" ++ messageId
      · exact .inl (if_pos own)
      · exact .inr (.inl (if_neg own))

theorem OnCourse.call {call : Call} (course : OnCourse now storage)
    (undisturbed : Undisturbed P signer (.call call) now storage) :
    OnCourse now (step P signer (.call call) now storage) where
  opened := course.opened
  collected := by
    intro key member record held
    rcases write_get call storage.db key with gone | same | ⟨put, own, found⟩
    · rw [step, gone] at held
      cases held
    · rw [step, same] at held
      exact course.collected key member record held
    · rw [step, found] at held
      cases held
      exact undisturbed (key, record) own member
  owed := by
    intro busy key record snapped expired untouched
    have before : key ∉ storage.rewritten := fun inside =>
      untouched (List.mem_append_right _ inside)
    rcases course.owed busy key record snapped expired before with visit | found | gone
    · exact .inl visit
    · exact .inr (.inl found)
    · refine .inr (.inr ?_)
      rcases write_get call storage.db key with gone | same | ⟨put, own, _⟩
      · exact gone
      · exact same.trans gone
      · refine absurd (List.mem_append_left _ ?_) untouched
        rw [own]
        exact List.mem_singleton_self key

theorem OnCourse.begin (course : OnCourse now storage) :
    OnCourse now (step P signer .cleanupExpired now storage) := by
  rw [step]
  split
  next =>
    refine ⟨Nat.le_refl _, fun key member => (by cases member), ?_⟩
    intro _ key record held _ _
    exact .inl (List.mem_mergeSort.mpr ((OrderedMap.get_iff_mem _ _ _).mp held))
  next => exact course

/-- The scan collects the key of an entry that has expired, and leaves the others. -/
theorem OnCourse.visit {key : String} {record : MessageRecord}
    {rest : List (String × MessageRecord)} {toDelete : List String} {expired : Bool}
    (course : OnCourse now storage)
    (scanning : storage.phase = .scanning ((key, record) :: rest) toDelete)
    (known : record.isExpired now = .ok expired)
    (outdated : expired = true → ∀ held, storage.db.get key = some held →
      held.isExpired now = .ok true) :
    OnCourse now (CleanupRaces.turn now storage) := by
  have collected := course.collected
  have owed := course.owed
  rw [scanning] at collected owed
  have owing (other : String) (item : MessageRecord)
      (held : storage.snapshot.get other = some item)
      (due : item.isExpired storage.opened = .ok true) (untouched : other ∉ storage.rewritten) :
      (other = key ∧ item = record) ∨ (other, item) ∈ rest ∨ other ∈ toDelete ∨
        storage.db.get other = none := by
    have left := owed (by simp) other item held due untouched
    simpa [Phase.toVisit, Phase.toDelete, or_assoc] using left
  rw [CleanupRaces.turn, scanning]
  dsimp only
  rw [known]
  cases expired with
  | true =>
      refine ⟨course.opened, fun other member item held => ?_, fun _ other item held due untouched => ?_⟩
      · rcases List.mem_append.mp member with earlier | last
        · exact collected other earlier item held
        · rw [List.mem_singleton.mp last] at held
          exact outdated rfl item held
      · rcases owing other item held due untouched with ⟨rfl, _⟩ | later | found | gone
        · exact .inr (.inl (List.mem_append_right _ List.mem_cons_self))
        · exact .inl later
        · exact .inr (.inl (List.mem_append_left _ found))
        · exact .inr (.inr gone)
  | false =>
      refine ⟨course.opened, collected, fun _ other item held due untouched => ?_⟩
      rcases owing other item held due untouched with ⟨rfl, rfl⟩ | later | found | gone
      -- What had expired when the cleanup began has expired when it is visited.
      · have still := MessageRecord.isExpired_later course.opened due
        rw [known] at still
        cases still
      · exact .inl later
      · exact .inr (.inl found)
      · exact .inr (.inr gone)

theorem OnCourse.delete {key : String} {rest : List String} (course : OnCourse now storage)
    (deleting : storage.phase = .deleting (key :: rest)) :
    OnCourse now (CleanupRaces.turn now storage) := by
  have collected := course.collected
  have owed := course.owed
  rw [deleting] at collected owed
  rw [CleanupRaces.turn, deleting]
  refine ⟨course.opened, fun other member record held => ?_,
    fun _ other record held due untouched => ?_⟩
  · dsimp only at held
    rw [OrderedMap.get_delete] at held
    split at held
    next => cases held
    next => exact collected other (List.mem_cons_of_mem _ member) record held
  · have left := owed (by simp) other record held due untouched
    simp only [Phase.toVisit, Phase.toDelete, List.not_mem_nil, false_or, List.mem_cons] at left ⊢
    rw [OrderedMap.get_delete]
    rcases left with (rfl | found) | gone
    · exact .inr (if_pos rfl)
    · exact .inl found
    · exact .inr (by rw [gone, ite_self])

theorem OnCourse.turn (course : OnCourse now storage)
    (undisturbed : Undisturbed P signer .turn now storage) :
    OnCourse now (step P signer .turn now storage) := by
  rw [step]
  cases phase : storage.phase with
  | idle =>
      rw [CleanupRaces.turn, phase]
      exact course
  | scanning toVisit toDelete =>
      cases toVisit with
      | nil =>
          have collected := course.collected
          have owed := course.owed
          rw [phase] at collected owed
          rw [CleanupRaces.turn, phase]
          refine ⟨course.opened, collected, fun _ key record held expired untouched => ?_⟩
          have left := owed (by simp) key record held expired untouched
          simpa [Phase.toVisit, Phase.toDelete] using left
      | cons entry rest =>
          obtain ⟨expired, known, outdated⟩ := undisturbed entry.1 entry.2 rest toDelete phase
          exact course.visit phase known outdated
  | deleting toDelete =>
      cases toDelete with
      | nil =>
          rw [CleanupRaces.turn, phase]
          exact ⟨course.opened, fun key member => (by cases member), fun busy => absurd rfl busy⟩
      | cons key rest => exact course.delete phase

theorem OnCourse.step (course : OnCourse now storage)
    (undisturbed : Undisturbed P signer event now storage) :
    OnCourse now (CleanupRaces.step P signer event now storage) := by
  cases event with
  | call call => exact course.call undisturbed
  | cleanupExpired => exact course.begin
  | turn => exact course.turn undisturbed

/-- A cleanup that is on course deletes what it should at its next turn. -/
theorem OnCourse.cleans (course : OnCourse now storage)
    (undisturbed : Undisturbed P signer event now storage) : Cleans P signer event now storage where
  expiredOnly := by
    intro _ key rest deleting record held fresh
    have expired := course.collected key (by rw [deleting]; exact List.mem_cons_self) record held
    rw [fresh] at expired
    cases expired
  complete := by
    intro busy ended key record held due untouched
    cases event with
    | call call => exact absurd ended busy
    | cleanupExpired =>
        rw [CleanupRaces.step] at ended
        split at ended
        next idle => exact absurd idle busy
        next => exact absurd ended busy
    | turn =>
        rw [CleanupRaces.step, CleanupRaces.turn] at ended ⊢
        split
        next idle => exact absurd idle busy
        next toDelete scanned => simp [scanned] at ended
        next other item rest toDelete scanning =>
          obtain ⟨expired, known, _⟩ := undisturbed other item rest toDelete scanning
          cases expired <;> simp [scanning, known] at ended
        next done =>
          have left := course.owed busy key record held due untouched
          simpa [done, Phase.toVisit, Phase.toDelete] using left
        next other rest deleting => simp [deleting] at ended

end Steps

section Alone
variable {now : Moment} {before middle after storage : Storage} {db : Database}

/-- Turns of the cleanup with nothing in between, at one time. -/
def Turns (now : Moment) (before after : Storage) : Prop := ∃ count, (turn now)^[count] before = after

theorem turns_refl : Turns now storage storage := ⟨0, rfl⟩

theorem turns_step (rest : Turns now (turn now before) after) : Turns now before after := by
  obtain ⟨count, rfl⟩ := rest
  exact ⟨count + 1, rfl⟩

theorem Turns.trans (first : Turns now before middle) (second : Turns now middle after) :
    Turns now before after := by
  obtain ⟨count, rfl⟩ := first
  obtain ⟨more, rfl⟩ := second
  exact ⟨more + count, Function.iterate_add_apply _ _ _ _⟩

theorem entries_delete (db : Database) (key : String) :
    (db.delete key).entries = db.entries.filter fun entry => entry.1 ≠ key := by
  have filtered (entries : List (String × MessageRecord)) :
      OrderedMap.deleteEntry entries key = entries.filter fun entry => entry.1 ≠ key := by
    induction entries with
    | nil => rfl
    | cons entry rest ih =>
        by_cases same : entry.1 = key
        · simp [OrderedMap.deleteEntry, same, ih]
        · simp [OrderedMap.deleteEntry, same, ih]
  exact filtered db.entries

theorem entries_deleteAll (keys : List String) (db : Database) :
    (keys.foldl OrderedMap.delete db).entries = db.entries.filter fun entry => entry.1 ∉ keys := by
  induction keys generalizing db with
  | nil => simp
  | cons key rest ih =>
      rw [List.foldl_cons, ih, entries_delete, List.filter_filter]
      apply List.filter_congr
      intro entry _
      simp [Bool.and_comm]

theorem turns_deleting (keys : List String) (deleting : storage.phase = .deleting keys) :
    Turns now storage
      { storage with db := keys.foldl OrderedMap.delete storage.db, phase := .idle } := by
  induction keys generalizing storage with
  | nil =>
      refine turns_step ?_
      rw [turn, deleting]
      exact turns_refl
  | cons key rest ih =>
      refine turns_step ?_
      have next : turn now storage =
          { storage with db := storage.db.delete key, phase := .deleting rest } := by
        rw [turn, deleting]
      rw [next]
      exact ih rfl

/-- The keys of the entries that have expired. -/
def expiredKeys (now : Moment) (entries : List (String × MessageRecord)) : List String :=
  (entries.filter fun entry => entry.2.isExpired now = .ok true).map Prod.fst

theorem turns_scanning {toVisit : List (String × MessageRecord)} {toDelete : List String}
    (readable : ∀ entry ∈ toVisit, ∃ expired, entry.2.isExpired now = .ok expired)
    (scanning : storage.phase = .scanning toVisit toDelete) :
    Turns now storage
      { storage with phase := .deleting (toDelete ++ expiredKeys now toVisit) } := by
  induction toVisit generalizing storage toDelete with
  | nil =>
      refine turns_step ?_
      have next : turn now storage = { storage with phase := .deleting toDelete } := by
        rw [turn, scanning]
      rw [next, expiredKeys, List.filter_nil, List.map_nil, List.append_nil]
      exact turns_refl
  | cons entry rest ih =>
      obtain ⟨key, record⟩ := entry
      obtain ⟨expired, known⟩ := readable _ List.mem_cons_self
      have others : ∀ entry ∈ rest, ∃ expired, entry.2.isExpired now = .ok expired :=
        fun entry member => readable entry (List.mem_cons_of_mem _ member)
      refine turns_step ?_
      -- An entry that has expired is remembered, and deleted only after the scan.
      cases expired with
      | true =>
          have next : turn now storage =
              { storage with phase := .scanning rest (toDelete ++ [key]) } := by
            rw [turn, scanning]
            simp only [known]
          have keys : expiredKeys now ((key, record) :: rest) = key :: expiredKeys now rest := by
            simp [expiredKeys, known]
          rw [next, keys, List.append_cons toDelete key (expiredKeys now rest)]
          exact ih others rfl
      | false =>
          have next : turn now storage = { storage with phase := .scanning rest toDelete } := by
            rw [turn, scanning]
            simp only [known]
          have keys : expiredKeys now ((key, record) :: rest) = expiredKeys now rest := by
            simp [expiredKeys, known]
          rw [next, keys]
          exact ih others rfl

/-- An expiry that is no number ends the scan, and nothing has been deleted. -/
theorem turns_aborted {toVisit : List (String × MessageRecord)} {toDelete : List String}
    (unreadable : ∃ entry ∈ toVisit, ∃ failure, entry.2.isExpired now = .error failure)
    (scanning : storage.phase = .scanning toVisit toDelete) :
    Turns now storage { storage with phase := .idle } := by
  induction toVisit generalizing storage toDelete with
  | nil =>
      obtain ⟨entry, member, _⟩ := unreadable
      cases member
  | cons entry rest ih =>
      obtain ⟨key, record⟩ := entry
      refine turns_step ?_
      cases known : record.isExpired now with
      | error failure =>
          rw [turn, scanning]
          simp only [known]
          exact turns_refl
      | ok expired =>
          have later : ∃ entry ∈ rest, ∃ failure, entry.2.isExpired now = .error failure := by
            obtain ⟨entry, member, failure, failed⟩ := unreadable
            rcases List.mem_cons.mp member with rfl | inside
            · rw [known] at failed
              cases failed
            · exact ⟨entry, inside, failure, failed⟩
          rw [turn, scanning]
          cases expired <;> simp only [known]
          · exact ih later rfl
          · exact ih later rfl

theorem cleanupExpired_readable
    (readable : ∀ entry ∈ db.entries, ∃ expired, entry.2.isExpired now = .ok expired) :
    (expiredKeys now (iterator db)).foldl OrderedMap.delete db =
      DhtStorage.cleanupExpired now db := by
  obtain ⟨flags, read⟩ := mapM_ok_exists readable
  rw [DhtStorage.cleanupExpired, read]
  refine OrderedMap.ext_entries ?_
  rw [entries_deleteAll, OrderedMap.keep]
  apply List.filter_congr
  intro entry member
  obtain ⟨expired, known⟩ := readable entry member
  have found : entry.1 ∈ expiredKeys now (iterator db) ↔ expired = true := by
    simp only [expiredKeys, List.mem_map, List.mem_filter, iterator, List.mem_mergeSort,
      decide_eq_true_eq]
    constructor
    · rintro ⟨other, ⟨inside, due⟩, same⟩
      have own : other = entry := List.inj_on_of_nodup_map db.unique inside member same
      rw [own, known] at due
      exact Except.ok.inj due
    · rintro rfl
      exact ⟨entry, ⟨member, known⟩, rfl⟩
  simp [found, known]

/-- Left alone, a cleanup does what it does in one go. -/
theorem cleanup_alone (now : Moment) (db : Database) :
    Turns now (begun now db)
      { begun now db with db := DhtStorage.cleanupExpired now db, phase := .idle } := by
  by_cases readable : ∀ entry ∈ db.entries, ∃ expired, entry.2.isExpired now = .ok expired
  · have visited : ∀ entry ∈ iterator db, ∃ expired, entry.2.isExpired now = .ok expired :=
      fun entry member => readable entry (List.mem_mergeSort.mp member)
    rw [← cleanupExpired_readable readable]
    exact (turns_scanning visited rfl).trans (turns_deleting _ rfl)
  · obtain ⟨entry, member, failure, failed⟩ : ∃ entry ∈ db.entries, ∃ failure,
        entry.2.isExpired now = .error failure := by
      by_contra none
      refine readable fun entry member => ?_
      cases known : entry.2.isExpired now with
      | ok expired => exact ⟨expired, rfl⟩
      | error failure => exact absurd ⟨entry, member, failure, known⟩ none
    have whole : DhtStorage.cleanupExpired now db = db := by
      rw [DhtStorage.cleanupExpired]
      cases read : db.entries.mapM fun entry => entry.2.isExpired now with
      | error thrown => rfl
      | ok flags =>
          obtain ⟨expired, known⟩ := mapM_ok_mem read member
          rw [failed] at known
          cases known
    rw [whole]
    exact turns_aborted ⟨entry, List.mem_mergeSort.mpr member, failure, failed⟩ rfl

end Alone

/-- In a run by a clock that does not go back, every cleanup deletes only what has expired, and all
    that had expired when it began and was not written since, if nothing disturbs it. -/
theorem cleanup_exact (P : Packages) (signer : Option Signer) (past : List (Event × Moment))
    (ordered : past.Pairwise fun later earlier => earlier.2.ms ≤ later.2.ms)
    (undisturbed : EachInput (fun input earlier =>
      Undisturbed P signer input.1 input.2 (replay P signer earlier)) past) :
    EachInput (fun input earlier =>
      Cleans P signer input.1 input.2 (replay P signer earlier)) past := by
  have course (past : List (Event × Moment)) (now : Moment)
      (ordered : past.Pairwise fun later earlier => earlier.2.ms ≤ later.2.ms)
      (undisturbed : EachInput (fun input earlier =>
        Undisturbed P signer input.1 input.2 (replay P signer earlier)) past)
      (after : ∀ input ∈ past, input.2.ms ≤ now.ms) : OnCourse now (replay P signer past) := by
    induction past generalizing now with
    | nil => exact onCourse_start
    | cons input earlier ih =>
        obtain ⟨before, sorted⟩ := List.pairwise_cons.mp ordered
        obtain ⟨free, each⟩ := eachInput_cons.mp undisturbed
        exact ((ih input.2 sorted each before).step free).wait (after input List.mem_cons_self)
  intro input earlier suffix
  obtain ⟨before, sorted⟩ := List.pairwise_cons.mp (ordered.sublist suffix.sublist)
  obtain ⟨free, each⟩ := eachInput_cons.mp (undisturbed.suffix suffix)
  exact (course earlier input.2 sorted each before).cleans free

/-! A record that has expired, and one that is put in its place. -/

def clock (ms : Nat) : Moment := ⟨ms + 1, Nat.succ_pos ms⟩

def mail (expires : Nat) : MessageRecord :=
  .construct (.object [("id", .string "mail"), ("recipient", .string "alice"),
    ("data", .string ""), ("expires", ofInt expires)]) [] ⟨List.replicate 16 1, List.length_replicate⟩
    (clock 0)

def holding (expires : Nat) : Database := OrderedMap.empty.set "alice:mail" (mail expires)

theorem begun_holding (expires : Nat) (now : Moment) : begun now (holding expires) =
    ⟨holding expires, .scanning [("alice:mail", mail expires)] [], holding expires, now, []⟩ := by
  have listed : iterator (holding expires) = [("alice:mail", mail expires)] :=
    List.mergeSort_singleton _
  rw [begun, listed]

theorem mail_expired : (mail 5).isExpired (clock 10) = .ok true := by decide +kernel

/-- The record is put, and a cleanup begins. -/
def opened : List (Event × Moment) :=
  [(.cleanupExpired, clock 10), (.call (.storeRecord (mail 5) (clock 1)), clock 2)]

theorem replay_opened : replay samplePackages none opened =
    ⟨holding 5, .scanning [("alice:mail", mail 5)] [], holding 5, clock 10, []⟩ := by
  have stored : replay samplePackages none [(.call (.storeRecord (mail 5) (clock 1)), clock 2)] =
      ⟨holding 5, .idle, .empty, ⟨1, Nat.one_pos⟩, ["alice:mail"]⟩ := rfl
  rw [opened, replay, stored, step]
  exact begun_holding 5 (clock 10)

/-- The record is found expired. -/
def scanned : List (Event × Moment) := (.turn, clock 10) :: opened

theorem replay_scanned : replay samplePackages none scanned =
    ⟨holding 5, .scanning [] ["alice:mail"], holding 5, clock 10, []⟩ := by
  rw [scanned, replay, replay_opened]
  simp only [step, turn, mail_expired, List.nil_append]

/-- The record is about to be deleted. -/
def collected : List (Event × Moment) := (.turn, clock 10) :: scanned

theorem replay_collected : replay samplePackages none collected =
    ⟨holding 5, .deleting ["alice:mail"], holding 5, clock 10, []⟩ := by
  rw [collected, replay, replay_scanned]
  rfl

theorem mail_cleaned :
    Cleans samplePackages none .turn (clock 10) (replay samplePackages none collected) := by
  have undisturbed : EachInput (fun input earlier => Undisturbed samplePackages none input.1 input.2
      (replay samplePackages none earlier)) ((.turn, clock 10) :: collected) := by
    refine eachInput_cons.mpr ⟨?_, eachInput_cons.mpr ⟨?_, eachInput_cons.mpr ⟨?_,
      eachInput_cons.mpr ⟨trivial, eachInput_cons.mpr ⟨?_, eachInput_nil⟩⟩⟩⟩⟩
    · rw [replay_collected]
      rintro key record rest toDelete ⟨⟩
    · rw [replay_scanned]
      rintro key record rest toDelete ⟨⟩
    · rw [replay_opened]
      rintro key record rest toDelete ⟨⟩
      refine ⟨true, mail_expired, fun _ held found => ?_⟩
      have own : held = mail 5 := (Option.some.inj found).symm
      rw [own, mail_expired]
    · rintro entry _ ⟨⟩
  exact cleanup_exact samplePackages none ((.turn, clock 10) :: collected) (by decide) undisturbed
    (.turn, clock 10) collected (List.suffix_refl _)

/-- The record is put again with a later expiry before its key is deleted. -/
theorem fresh_mail_deleted : ¬ ∀ (P : Packages) (signer : Option Signer)
    (past : List (Event × Moment)), (past.Pairwise fun later earlier => earlier.2.ms ≤ later.2.ms) →
    EachInput (fun input earlier => Cleans P signer input.1 input.2 (replay P signer earlier))
      past := by
  intro claimed
  have cleans := claimed samplePackages none ((.turn, clock 20) ::
    (.call (.storeRecord (mail 50) (clock 11)), clock 12) :: collected) (by decide)
    (.turn, clock 20) _ (List.suffix_refl _)
  refine cleans.expiredOnly rfl "alice:mail" [] ?_ (mail 50) ?_ (by decide +kernel)
  · rw [replay, replay_collected]
    rfl
  · rw [replay, replay_collected]
    rfl

end CleanupRaces
end Chainmail.DhtStorage
