import Chainmail.UserActions

/-!
What one gossiped envelope does to another in the inbox. The key is a hash of
three things of an envelope, and `storeMessage` writes over what the key holds.
-/

namespace Chainmail.DMailNode

open Json

variable {P : Packages}

/-- The envelope can be read from the inbox, under some key. -/
def Retrievable (node : Node) (envelope : Json) : Prop :=
  ∃ key entry, getMessage node key = some entry ∧ entry.envelope = envelope

/-- The part of an envelope that `getMessageId` hashes for itself. -/
def hashedContent (envelope : Json) : Option Json :=
  match present (envelope.field "payload") with
  | some payload => some payload
  | none => present (envelope.field "encrypted")

/-- The envelopes agree in all that their ids are made of. -/
structure HashedAlike (envelope other : Json) : Prop where
  routingToken : envelope.field "routingToken" = other.field "routingToken"
  content : hashedContent envelope = hashedContent other
  timestamp : envelope.field "timestamp" = other.field "timestamp"

theorem payloadHash_content (envelope : Json) :
    payloadHash P envelope = match hashedContent envelope with
      | some content => bytesJson (P.sha256 (utf8Encode (stringify content)))
      | none => .null := by
  unfold payloadHash hashedContent
  cases present (envelope.field "payload") with
  | some payload => rfl
  | none => cases present (envelope.field "encrypted") <;> rfl

theorem member_ok {key : String} {value : Json} {read : Option Json}
    (ok : member key (some value) = .ok read) : read = value.field key := by
  cases value <;> cases ok <;> rfl

/-- Whatever else they say, such envelopes have one id. -/
theorem HashedAlike.same_id {envelope other : Json} {id otherId : String}
    (alike : HashedAlike envelope other) (first : getMessageId P envelope = .ok id)
    (second : getMessageId P other = .ok otherId) : id = otherId := by
  obtain ⟨token, read, made⟩ := bind_ok_iff.mp first
  obtain ⟨otherToken, otherRead, otherMade⟩ := bind_ok_iff.mp second
  cases made
  cases otherMade
  rw [member_ok read, member_ok otherRead, payloadHash_content, payloadHash_content,
    alike.routingToken, alike.content, alike.timestamp]

theorem incoming_some {address : String} {data : Bytes} {id : String} {envelope : Json}
    (received : incoming P address data = .ok (some (id, envelope))) :
    isForUs P address envelope = .ok true ∧ getMessageId P envelope = .ok id := by
  obtain ⟨parsed, _, rest⟩ := bind_ok_iff.mp received
  obtain ⟨forUs, judged, rest⟩ := bind_ok_iff.mp rest
  split at rest
  next own =>
    obtain ⟨messageId, named, made⟩ := bind_ok_iff.mp rest
    cases made
    exact ⟨own ▸ judged, named⟩
  next => cases rest

theorem getMessage_storeMessage (node : Node) (id key : String) (envelope : Json)
    (count : Option Json) (now : Nat) :
    getMessage (storeMessage node id envelope count now) key =
      if key = id then some ⟨envelope, count, now, false⟩ else getMessage node key :=
  OrderedMap.get_set _ _ _ _

/-- An envelope that comes after another leaves it in the inbox exactly when their
    ids differ, or the other is there under a further key; and envelopes that agree
    in what is hashed have one id. -/
theorem survives_iff (node : Node) {data otherData : Bytes} {id otherId : String}
    {envelope other : Json}
    (first : incoming P node.address data = .ok (some (id, envelope)))
    (second : incoming P node.address otherData = .ok (some (otherId, other)))
    (different : envelope ≠ other) (now later : Nat) :
    (Retrievable
        (handleIncomingMessage P (handleIncomingMessage P node data now) otherData later) envelope ↔
      id ≠ otherId ∨ ∃ key entry, key ≠ otherId ∧ getMessage node key = some entry ∧
        entry.envelope = envelope) ∧
      (HashedAlike envelope other → id = otherId) := by
  have stored := handleIncomingMessage_stores first now
  have again : incoming P (handleIncomingMessage P node data now).address otherData =
      .ok (some (otherId, other)) := by rwa [handleIncomingMessage_address]
  rw [handleIncomingMessage_stores again, stored]
  refine ⟨⟨?_, ?_⟩, fun alike => alike.same_id (incoming_some first).2 (incoming_some second).2⟩
  · rintro ⟨key, entry, held, same⟩
    rw [getMessage_storeMessage] at held
    -- Under the second id there is only the second envelope.
    split at held
    next =>
      cases held
      exact absurd same.symm different
    next apart =>
      rw [getMessage_storeMessage] at held
      split at held
      next own => exact .inl (own ▸ apart)
      next => exact .inr ⟨key, entry, apart, held, same⟩
  · rintro (apart | ⟨key, entry, apart, held, same⟩)
    · refine ⟨id, ⟨envelope, none, now, false⟩, ?_, rfl⟩
      rw [getMessage_storeMessage, if_neg apart, getMessage_storeMessage, if_pos rfl]
    · by_cases own : key = id
      · refine ⟨id, ⟨envelope, none, now, false⟩, ?_, rfl⟩
        rw [getMessage_storeMessage, if_neg (own ▸ apart), getMessage_storeMessage, if_pos rfl]
      · refine ⟨key, entry, ?_, same⟩
        rw [getMessage_storeMessage, if_neg apart, getMessage_storeMessage, if_neg own, held]

/-- The note as anybody can send it again, under another sender's name. -/
def forgedNote : Json :=
  .object [("to", .string "alice"), ("payload", .string "hello"), ("from", .string "mallory")]

theorem forgedNote_incoming : incoming samplePackages "alice" (utf8Encode (stringify forgedNote)) =
    .ok (some (noteId, forgedNote)) :=
  incoming_transmitted
    (canonical_object ["to", "payload", "from"] rfl (by decide) ⟨trivial, trivial, trivial, trivial⟩)
    (by simp [isForUs, field, lookup, isText]) rfl

theorem note_differs : note ≠ forgedNote := by
  intro same
  have sender := congrArg (Json.field "from") same
  simp [note, forgedNote, field, lookup] at sender

theorem note_destroyed :
    Addressed samplePackages "alice" note ∧ Addressed samplePackages "alice" forgedNote ∧
      note ≠ forgedNote ∧ HashedAlike note forgedNote ∧
      ¬ Retrievable (handleIncomingMessage samplePackages
        (handleIncomingMessage samplePackages (create "alice") (utf8Encode (stringify note)) 1)
        (utf8Encode (stringify forgedNote)) 2) note := by
  refine ⟨note_addressed, (incoming_some forgedNote_incoming).1, note_differs, ⟨rfl, rfl, rfl⟩, ?_⟩
  have again (node : Node) (alice : node.address = "alice") :
      handleIncomingMessage samplePackages node (utf8Encode (stringify forgedNote)) 2 =
        storeMessage node noteId forgedNote none 2 :=
    handleIncomingMessage_stores (by rw [alice, forgedNote_incoming]) 2
  rw [note_stored _ _ rfl, again _ rfl]
  rintro ⟨key, entry, held, same⟩
  rw [getMessage_storeMessage] at held
  split at held
  next =>
    cases held
    exact note_differs same.symm
  next apart =>
    rw [getMessage_storeMessage, if_neg apart] at held
    cases held

/-- The same words with a routing token, which the id is made of as well. -/
def routedNote : Json :=
  .object [("to", .string "alice"), ("payload", .string "hello"), ("routingToken", .string "token")]

def routedNoteId : String :=
  String.ofList ((toHex (samplePackages.sha256 (utf8Encode (stringify (ofFields
    [("routingToken", some (.string "token")),
      ("payloadHash", some (payloadHash samplePackages routedNote)),
      ("timestamp", none)]))))).toList.take 32)

theorem routedNote_incoming : incoming samplePackages "alice" (utf8Encode (stringify routedNote)) =
    .ok (some (routedNoteId, routedNote)) :=
  incoming_transmitted
    (canonical_object ["to", "payload", "routingToken"] rfl (by decide)
      ⟨trivial, trivial, trivial, trivial⟩)
    (by simp [isForUs, field, lookup, isText]) rfl

/-- The note is lost to the forged one, and not to the one with a token. -/
theorem note_survives_by_id :
    ¬ Retrievable (handleIncomingMessage samplePackages
        (handleIncomingMessage samplePackages (create "alice") (utf8Encode (stringify note)) 1)
        (utf8Encode (stringify forgedNote)) 2) note ∧
      Retrievable (handleIncomingMessage samplePackages
        (handleIncomingMessage samplePackages (create "alice") (utf8Encode (stringify note)) 1)
        (utf8Encode (stringify routedNote)) 2) note := by
  have routed : note ≠ routedNote := by
    intro same
    have token := congrArg (Json.field "routingToken") same
    simp [note, routedNote, field, lookup] at token
  have apart : noteId ≠ routedNoteId := by decide +kernel
  constructor
  · intro kept
    rcases (survives_iff (create "alice") note_incoming forgedNote_incoming note_differs 1 2).1.mp
      kept with other | ⟨key, entry, _, held, _⟩
    · exact other rfl
    · cases held
  · exact (survives_iff (create "alice") note_incoming routedNote_incoming routed 1 2).1.mpr
      (.inl apart)

end Chainmail.DMailNode
