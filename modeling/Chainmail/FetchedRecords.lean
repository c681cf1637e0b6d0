import Chainmail.Inbox

/-!
What of a peer's answer `fetchFromAllPeers` files in the inbox, when some of the
records cannot be read. The other two fetches skip such a record; this one gives up
the answer, and asks for it again by the protocol that deletes what it hands out.
-/

namespace Chainmail.DMailNode

open Json

variable (P : Packages)

/-- The records of one answer to a fetch. -/
def answered (answer : Option String) : Except Failure (List Json) := do
  let text ← accepted answer
  let response ← parseOrThrow text
  let messages ← member "messages" (some response)
  match present messages with
  | some value => iterate value
  | none => return []

/-- The records that a peer returns, and which of their fields is their id. A peer that has no
    answer on the first protocol is asked on the other, whose records have no ids. -/
def returned (answer : PeerAnswer) : (Json → Option Json) × List Json :=
  match answered answer.dht with
  | .ok records => (field "id", records)
  | .error _ => (fun _ => none, (answered answer.legacy).toOption.getD [])

/-- The envelope of a well-formed record, with the key that it belongs under. -/
def filing (idOf : Json → Option Json) (record : Json) : Option Delivery :=
  match decodeRecord P record with
  | .ok envelope => (messageDelivery P ⟨idOf record, envelope⟩).toOption
  | .error _ => none

def wellFormed (answer : PeerAnswer) : List Delivery :=
  (returned answer).2.filterMap (filing P (returned answer).1)

/-- The well-formed records up to the first that is not. -/
def leading (idOf : Json → Option Json) : List Json → List Delivery
  | [] => []
  | record :: rest =>
      match filing P idOf record with
      | some delivery => delivery :: leading idOf rest
      | none => []

def HoldsFiled (node : Node) (delivery : Delivery) : Prop :=
  ∃ entry, node.inbox.get delivery.key = some entry ∧ entry.envelope = delivery.envelope

/-- The legacy protocol is tried after the other one was. -/
def FallsBack (answer : PeerAnswer) : Prop :=
  (collectAnswer P (field "id") answer.dht).2 = false

/-- Every well-formed record that was returned is filed, and no peer that answers is asked
    a second time. -/
structure Unblocked (node : Node) (answers : List PeerAnswer) (now : Nat) : Prop where
  filed : ∀ answer ∈ answers, ∀ delivery ∈ wellFormed P answer,
    HoldsFiled (fetchFromAllPeers P node answers now) delivery
  once : ∀ answer ∈ answers, (answered answer.dht).isOk = true → ¬ FallsBack P answer

/-- All records can be decoded; what comes after a malformed one is held all the same, by
    another answer or since before; and no two records of one key differ. -/
structure Untroubled (node : Node) (answers : List PeerAnswer) : Prop where
  decoded : ∀ answer ∈ answers, ∀ records, answered answer.dht = .ok records →
    ∀ record ∈ records, (decodeRecord P record).isOk = true
  reached : ∀ answer ∈ answers, ∀ delivery ∈ wellFormed P answer,
    (∃ other ∈ answers, delivery ∈ leading P (returned other).1 (returned other).2) ∨
      HoldsFiled node delivery
  told : ∀ answer ∈ answers, ∀ other ∈ answers, ∀ first ∈ wellFormed P answer,
    ∀ second ∈ wellFormed P other, first.key = second.key → first.envelope = second.envelope

/-- The messages up to the first that has no key, which the loop stops at. -/
def fileable : List Collected → List Delivery
  | [] => []
  | message :: rest =>
      match messageDelivery P message with
      | .ok delivery => delivery :: fileable rest
      | .error _ => []

section Collecting
variable {P}

theorem collectAnswer_answered (idOf : Json → Option Json) (answer : Option String) :
    collectAnswer P idOf answer =
      match answered answer with
      | .ok records => collectRecords P idOf records
      | .error _ => ([], false) := rfl

theorem returned_answered {answer : PeerAnswer} {records : List Json}
    (lists : answered answer.dht = .ok records) : returned answer = (field "id", records) := by
  rw [returned, lists]

theorem collectRecords_refused {idOf : Json → Option Json} {record : Json} {rest : List Json}
    {failure : Failure} (refused : decodeRecord P record = .error failure) :
    collectRecords P idOf (record :: rest) = ([], false) := by
  rw [collectRecords, refused]

theorem collectRecords_all {idOf : Json → Option Json} {records : List Json} :
    (collectRecords P idOf records).2 = true ↔
      ∀ record ∈ records, (decodeRecord P record).isOk = true := by
  induction records with
  | nil => simp [collectRecords]
  | cons record rest ih =>
      rw [collectRecords, List.forall_mem_cons, ← ih]
      cases decodeRecord P record <;> simp [Except.isOk, Except.toBool]

theorem fallsBack_iff {answer : PeerAnswer} {records : List Json}
    (lists : answered answer.dht = .ok records) :
    ¬ FallsBack P answer ↔ ∀ record ∈ records, (decodeRecord P record).isOk = true := by
  rw [FallsBack, collectAnswer_answered, lists, Bool.not_eq_false]
  exact collectRecords_all

theorem fileable_collect (idOf : Json → Option Json) (records : List Json) :
    fileable P (collectRecords P idOf records).1 = leading P idOf records := by
  induction records with
  | nil => rfl
  | cons record rest ih =>
      rw [collectRecords, leading, filing]
      cases decodeRecord P record with
      | error failure => rfl
      | ok envelope =>
          dsimp only
          rw [fileable]
          cases messageDelivery P ⟨idOf record, envelope⟩ with
          | error failure => rfl
          | ok delivery => simp [Except.toOption, ih]

theorem filing_of_delivery {idOf : Json → Option Json} {record envelope : Json} {delivery : Delivery}
    (decoded : decodeRecord P record = .ok envelope)
    (delivered : messageDelivery P ⟨idOf record, envelope⟩ = .ok delivery) :
    filing P idOf record = some delivery := by
  simp only [filing, decoded, delivered]
  rfl

theorem leading_subset (idOf : Json → Option Json) (records : List Json) :
    leading P idOf records ⊆ records.filterMap (filing P idOf) := by
  induction records with
  | nil => exact List.nil_subset _
  | cons record rest ih =>
      rw [leading]
      cases found : filing P idOf record with
      | none => exact List.nil_subset _
      | some delivery =>
          rw [List.filterMap_cons, found]
          exact List.cons_subset_cons delivery ih

/-- Where all is decoded, the messages with a key are those of the leading records. -/
theorem fileable_fetched {answer : PeerAnswer}
    (decoded : ∀ records, answered answer.dht = .ok records →
      ∀ record ∈ records, (decodeRecord P record).isOk = true) :
    fileable P (fetchMessagesFromPeer P answer) =
      leading P (returned answer).1 (returned answer).2 := by
  rw [fetchMessagesFromPeer, returned, collectAnswer_answered, collectAnswer_answered]
  cases lists : answered answer.dht with
  | ok records =>
      dsimp only
      rw [if_pos (collectRecords_all.mpr (decoded records lists))]
      exact fileable_collect _ records
  | error failure =>
      cases answered answer.legacy with
      | ok records => exact fileable_collect _ records
      | error also => rfl

end Collecting

section Filing
variable {P} {before node : Node} {past : List Delivery} {now : Nat}

/-- Under the keys of the past deliveries the inbox holds some of them, and elsewhere what
    it held before. -/
structure Written (before after : Node) (past : List Delivery) : Prop where
  taken : ∀ delivery ∈ past, ∃ entry, after.inbox.get delivery.key = some entry ∧
    ⟨delivery.key, entry.envelope⟩ ∈ past
  kept : ∀ key, (∀ delivery ∈ past, delivery.key ≠ key) →
    after.inbox.get key = before.inbox.get key

/-- What counts as seen was filed, under the text of its id. -/
def Recalled (seenMessages : List Json) (past : List Delivery) : Prop :=
  ∀ old ∈ seenMessages, ∀ id, sameValue id old = true →
    ∃ delivery ∈ past, toText id = .ok delivery.key

theorem Written.nil (node : Node) : Written node node [] where
  taken _ member := absurd member List.not_mem_nil
  kept _ _ := rfl

theorem Written.store (written : Written before node past) (delivery : Delivery)
    (count : Option Json) (now : Nat) :
    Written before (storeMessage node delivery.key delivery.envelope count now)
      (past ++ [delivery]) where
  taken := by
    intro other member
    by_cases same : other.key = delivery.key
    · refine ⟨⟨delivery.envelope, count, now, false⟩, ?_, ?_⟩
      · rw [same]
        exact OrderedMap.get_set_self _ _ _
      · rw [same]
        exact List.mem_append_right _ List.mem_cons_self
    · rcases List.mem_append.mp member with old | new
      · obtain ⟨entry, found, known⟩ := written.taken other old
        refine ⟨entry, ?_, List.mem_append_left _ known⟩
        rw [storeMessage, OrderedMap.get_set_of_ne _ _ same]
        exact found
      · exact absurd (congrArg Delivery.key (List.mem_singleton.mp new)) same
  kept := by
    intro key unwritten
    have other : key ≠ delivery.key :=
      (unwritten delivery (List.mem_append_right _ List.mem_cons_self)).symm
    rw [storeMessage, OrderedMap.get_set_of_ne _ _ other]
    exact written.kept key fun old member => unwritten old (List.mem_append_left _ member)

theorem Written.skip (written : Written before node past) {earlier delivery : Delivery}
    (old : earlier ∈ past) (same : delivery.key = earlier.key) :
    Written before node (past ++ [delivery]) where
  taken := by
    intro other member
    rcases List.mem_append.mp member with known | new
    · obtain ⟨entry, found, listed⟩ := written.taken other known
      exact ⟨entry, found, List.mem_append_left _ listed⟩
    · rw [List.mem_singleton.mp new, same]
      obtain ⟨entry, found, listed⟩ := written.taken earlier old
      exact ⟨entry, found, List.mem_append_left _ listed⟩
  kept key unwritten :=
    written.kept key fun old member => unwritten old (List.mem_append_left _ member)

theorem toText_of_sameValue {id old : Json} (same : sameValue id old = true) :
    ∃ text, toText id = .ok text := by
  cases id with
  | bool value => cases value <;> exact ⟨_, rfl⟩
  | array items => cases old <;> cases same
  | object fields => cases old <;> cases same
  | _ => exact ⟨_, rfl⟩

theorem Recalled.wider {seenMessages : List Json} (recalled : Recalled seenMessages past)
    (more : List Delivery) : Recalled seenMessages (past ++ more) := by
  intro old member id same
  obtain ⟨delivery, listed, text⟩ := recalled old member id same
  exact ⟨delivery, List.mem_append_left _ listed, text⟩

theorem Written.takeMessages (messages : List Collected) {seenMessages : List Json}
    (written : Written before node past) (recalled : Recalled seenMessages past) :
    Written before (takeMessages P now messages (seenMessages, node)).2
        (past ++ fileable P messages) ∧
      Recalled (DMailNode.takeMessages P now messages (seenMessages, node)).1
        (past ++ fileable P messages) := by
  induction messages generalizing node past seenMessages with
  | nil => simpa [DMailNode.takeMessages, fileable] using ⟨written, recalled⟩
  | cons message rest ih =>
      rw [DMailNode.takeMessages, fileable, messageDelivery]
      cases drawn : idOf P message with
      | error failure => simpa using ⟨written, recalled⟩
      | ok id =>
          rw [ok_bind]
          -- A message that was seen is skipped, as the delivery that it repeats.
          by_cases known : seenMessages.any (sameValue id) = true
          · obtain ⟨old, member, same⟩ := List.any_eq_true.mp known
            obtain ⟨earlier, listed, text⟩ := recalled old member id same
            rw [text]
            have skipped : Written before node (past ++ [⟨earlier.key, message.envelope⟩]) :=
              written.skip listed rfl
            have later := ih skipped (recalled.wider _)
            simpa [known] using later
          · cases text : toText id with
            -- The id is marked as seen before its text is taken, which throws.
            | error failure =>
                have marked : Recalled (id :: seenMessages) past := by
                  intro old member other same
                  rcases List.mem_cons.mp member with rfl | before
                  · obtain ⟨found, shown⟩ := toText_of_sameValue same
                    rw [sameValue_eq same, text] at shown
                    cases shown
                  · exact recalled old before other same
                simpa [known, text] using ⟨written, marked⟩
            | ok key =>
                have stored := written.store ⟨key, message.envelope⟩ none now
                have marked : Recalled (id :: seenMessages) (past ++ [⟨key, message.envelope⟩]) := by
                  intro old member other same
                  rcases List.mem_cons.mp member with rfl | before
                  · rw [sameValue_eq same, text]
                    exact ⟨_, List.mem_append_right _ List.mem_cons_self, rfl⟩
                  · exact recalled.wider _ old before other same
                have later := ih stored marked
                simpa [known, text] using later

/-- The inbox after a fetch, whatever the peers answer. -/
theorem written_fetchFromAllPeers (node : Node) (answers : List PeerAnswer) :
    Written node (fetchFromAllPeers P node answers now)
      (answers.flatMap fun answer => fileable P (fetchMessagesFromPeer P answer)) := by
  suffices general : ∀ held past, Written node held.2 past → Recalled held.1 past →
      Written node (answers.foldl (fun held answer =>
        takeMessages P now (fetchMessagesFromPeer P answer) held) held).2
        (past ++ answers.flatMap fun answer => fileable P (fetchMessagesFromPeer P answer)) from
    general ([], node) [] (.nil node) fun _ member => absurd member List.not_mem_nil
  induction answers with
  | nil =>
      intro held past written _
      simpa using written
  | cons answer rest ih =>
      intro held past written recalled
      have next : Written node (takeMessages P now (fetchMessagesFromPeer P answer) held).2 _ ∧ _ :=
        written.takeMessages (fetchMessagesFromPeer P answer) recalled
      rw [List.flatMap_cons, ← List.append_assoc, List.foldl_cons]
      exact ih _ _ next.1 next.2

end Filing

section Fetch
variable {P} {node : Node} {answers : List PeerAnswer} {now : Nat}

theorem mem_leading {answer : PeerAnswer} {delivery : Delivery}
    (member : delivery ∈ leading P (returned answer).1 (returned answer).2) :
    delivery ∈ wellFormed P answer :=
  leading_subset _ _ member

theorem once_iff : (∀ answer ∈ answers, (answered answer.dht).isOk = true → ¬ FallsBack P answer) ↔
    ∀ answer ∈ answers, ∀ records, answered answer.dht = .ok records →
      ∀ record ∈ records, (decodeRecord P record).isOk = true := by
  refine forall₂_congr fun answer _ => ?_
  cases lists : answered answer.dht with
  | error failure => simp [Except.isOk, Except.toBool]
  | ok records =>
      rw [fallsBack_iff lists]
      simp [Except.isOk, Except.toBool]

/-- Where all is decoded, a fetch files the leading records of the answers. -/
theorem mem_filed (decoded : ∀ answer ∈ answers, ∀ records, answered answer.dht = .ok records →
      ∀ record ∈ records, (decodeRecord P record).isOk = true) (delivery : Delivery) :
    delivery ∈ answers.flatMap (fun answer => fileable P (fetchMessagesFromPeer P answer)) ↔
      ∃ other ∈ answers, delivery ∈ leading P (returned other).1 (returned other).2 := by
  rw [List.mem_flatMap]
  refine exists_congr fun other => and_congr_right fun member => ?_
  rw [fileable_fetched (decoded other member)]

/-- A record that is held was filed by this fetch, under its key and as it is, or was held
    before it. -/
theorem filed_or_held {delivery : Delivery}
    (holds : HoldsFiled (fetchFromAllPeers P node answers now) delivery) :
    delivery ∈ answers.flatMap (fun answer => fileable P (fetchMessagesFromPeer P answer)) ∨
      HoldsFiled node delivery := by
  have written : Written node (fetchFromAllPeers P node answers now) _ :=
    written_fetchFromAllPeers node answers
  obtain ⟨entry, found, same⟩ := holds
  by_cases taken : ∃ other ∈ answers.flatMap (fun answer =>
      fileable P (fetchMessagesFromPeer P answer)), other.key = delivery.key
  · obtain ⟨other, inside, sameKey⟩ := taken
    obtain ⟨held, there, past⟩ := written.taken other inside
    rw [sameKey, found] at there
    rw [sameKey, ← Option.some.inj there, same] at past
    exact .inl past
  · have kept := written.kept delivery.key fun other inside sameKey => taken ⟨other, inside, sameKey⟩
    exact .inr ⟨entry, kept ▸ found, same⟩

/-- Conversely it is held, if what the fetch files under its key is no other record. -/
theorem holds_of_filed_or_held {delivery : Delivery}
    (known : delivery ∈ answers.flatMap (fun answer => fileable P (fetchMessagesFromPeer P answer)) ∨
      HoldsFiled node delivery)
    (agrees : ∀ other ∈ answers.flatMap (fun answer => fileable P (fetchMessagesFromPeer P answer)),
      other.key = delivery.key → other.envelope = delivery.envelope) :
    HoldsFiled (fetchFromAllPeers P node answers now) delivery := by
  have written : Written node (fetchFromAllPeers P node answers now) _ :=
    written_fetchFromAllPeers node answers
  by_cases taken : ∃ other ∈ answers.flatMap (fun answer =>
      fileable P (fetchMessagesFromPeer P answer)), other.key = delivery.key
  · obtain ⟨other, inside, sameKey⟩ := taken
    obtain ⟨entry, found, past⟩ := written.taken other inside
    exact ⟨entry, sameKey ▸ found, agrees _ past sameKey⟩
  · rcases known with inside | ⟨entry, found, same⟩
    · exact absurd ⟨delivery, inside, rfl⟩ taken
    · refine ⟨entry, ?_, same⟩
      rw [written.kept delivery.key fun other inside sameKey => taken ⟨other, inside, sameKey⟩]
      exact found

/-- After a fetch from any peers into any inbox, every well-formed record that they returned
    is held under its key, and none was asked twice, exactly when no malformed record stands
    in the way: all can be decoded, those after one without a key are held all the same, and
    the records of one key agree. -/
theorem unblocked_iff (node : Node) (answers : List PeerAnswer) (now : Nat) :
    Unblocked P node answers now ↔ Untroubled P node answers := by
  constructor
  · intro unblocked
    have decoded := once_iff.mp unblocked.once
    refine ⟨decoded, ?_, ?_⟩
    · intro answer member delivery listed
      have known := filed_or_held (unblocked.filed answer member delivery listed)
      exact known.imp_left (mem_filed decoded delivery).mp
    · intro answer member other also first here second there sameKey
      obtain ⟨entry, found, same⟩ := unblocked.filed answer member first here
      obtain ⟨entryAlso, foundAlso, sameAlso⟩ := unblocked.filed other also second there
      rw [sameKey, foundAlso] at found
      rw [← same, ← sameAlso, Option.some.inj found]
  · intro untroubled
    refine ⟨?_, once_iff.mpr untroubled.decoded⟩
    intro answer member delivery listed
    have reached := untroubled.reached answer member delivery listed
    apply holds_of_filed_or_held (reached.imp_left (mem_filed untroubled.decoded delivery).mpr)
    intro filed inside sameKey
    obtain ⟨other, also, leads⟩ := (mem_filed untroubled.decoded filed).mp inside
    exact untroubled.told other also answer member filed (mem_leading leads) delivery listed sameKey

end Fetch

/-! A relay returns a record without data, and after it the note. -/

def emptyRecord : Json := .object [("id", .string "0")]

def noteRecord : Json :=
  .object [("id", .string "1"), ("data", .string (toBase64 (utf8Encode (stringify note))))]

def mixedAnswer : PeerAnswer :=
  ⟨some (stringify (.object [("messages", .array [emptyRecord, noteRecord])])), none⟩

theorem mixedAnswer_answered : answered mixedAnswer.dht = .ok [emptyRecord, noteRecord] := by
  have canonical : Canonical (.object [("messages", .array [emptyRecord, noteRecord])]) :=
    canonical_object ["messages"] rfl (by decide)
      ⟨⟨canonical_object ["id"] rfl (by decide) ⟨trivial, trivial⟩,
        canonical_object ["id", "data"] rfl (by decide) ⟨trivial, trivial, trivial⟩, trivial⟩, trivial⟩
  rw [answered, mixedAnswer, accepted_some, ok_bind, parseOrThrow_stringify canonical]
  rfl

theorem emptyRecord_decoded : decodeRecord samplePackages emptyRecord = .error .typeError := rfl

theorem noteRecord_decoded : decodeRecord samplePackages noteRecord = .ok note :=
  decodeRecord_stored samplePackages note_canonical (.string "1")

theorem emptyRecord_filing : filing samplePackages (field "id") emptyRecord = none := by
  rw [filing, emptyRecord_decoded]

theorem noteRecord_filing :
    filing samplePackages (field "id") noteRecord = some ⟨"1", note⟩ :=
  filing_of_delivery noteRecord_decoded (note_delivery (by decide))

theorem mixedAnswer_collected :
    collectAnswer samplePackages (field "id") mixedAnswer.dht = ([], false) := by
  rw [collectAnswer_answered, mixedAnswer_answered]
  exact collectRecords_refused emptyRecord_decoded

theorem mixedAnswer_fetched : fetchMessagesFromPeer samplePackages mixedAnswer = [] := by
  rw [fetchMessagesFromPeer, mixedAnswer_collected]
  rfl

theorem bad_record_blocks : wellFormed samplePackages mixedAnswer = [⟨"1", note⟩] ∧
    FallsBack samplePackages mixedAnswer ∧
    (fetchFromAllPeers samplePackages (create "alice") [mixedAnswer] 2).inbox = OrderedMap.empty := by
  refine ⟨?_, ?_, ?_⟩
  · rw [wellFormed, returned_answered mixedAnswer_answered]
    simp only [List.filterMap_cons, emptyRecord_filing, noteRecord_filing, List.filterMap_nil]
  · rw [FallsBack, mixedAnswer_collected]
  · rw [fetchFromAllPeers, List.foldl_cons, mixedAnswer_fetched]
    rfl

end Chainmail.DMailNode
