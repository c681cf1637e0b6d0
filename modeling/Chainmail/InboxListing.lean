import Chainmail.JsonRoundTrip
import Chainmail.MessagesService

/-!
The inbox as a parser sees it. An envelope goes into the database as JSON, ahead of the
fields that are stored with it, and comes out of a listing behind its id.
-/

namespace Chainmail.DMailNode

open Json MessagesService

namespace InboxEntry

/-- The value that `storeMessage` puts into the database. -/
def value (entry : InboxEntry) : Json :=
  let envelope := match entry.dhtReplicationCount with
    | some count => setField "dhtReplicationCount" count (spread [] entry.envelope)
    | none => spread [] entry.envelope
  .object (setField "read" (.bool entry.read)
    (setField "receivedAt" (ofInt entry.receivedAt) envelope))

/-- The entry as `getMessage` returns it, or as `getInbox` lists it under an id. -/
def shown (messageId : Option String) (entry : InboxEntry) : Except Failure Json := do
  let value ← parseOrThrow (stringify entry.value)
  match messageId with
  | none => return value
  | some messageId => return .object (spread [("id", .string messageId)] value)

/-- What is stored with an envelope. -/
def extras (entry : InboxEntry) : List (String × Json) :=
  entry.dhtReplicationCount.toList.map (fun count => ("dhtReplicationCount", count)) ++
    [("receivedAt", ofInt entry.receivedAt), ("read", .bool entry.read)]

end InboxEntry

/-- An object that shares no field with what the inbox adds. -/
structure Storable (fields : List (String × Json)) : Prop where
  names : PlainNames
    ("id" :: (fields.map Prod.fst ++ ["dhtReplicationCount", "receivedAt", "read"]))
  values : CanonicalFields fields

theorem plainNames_sublist {names more : List String} (plain : PlainNames more)
    (part : names.Sublist more) : PlainNames names :=
  ⟨plain.1.sublist part, fun name member => plain.2 name (part.subset member)⟩

theorem Storable.canonical {fields : List (String × Json)} (storable : Storable fields) :
    Canonical (.object fields) :=
  canonical_object _ rfl (plainNames_sublist storable.names (.cons _ (List.sublist_append_left _ _)))
    storable.values

theorem canonicalFields_append {fields more : List (String × Json)}
    (first : CanonicalFields fields) (second : CanonicalFields more) :
    CanonicalFields (fields ++ more) := by
  induction fields with
  | nil => exact second
  | cons entry rest ih => exact ⟨first.1, ih first.2⟩

variable {entry : InboxEntry} {fields : List (String × Json)}

theorem extras_names (entry : InboxEntry) : (entry.extras.map Prod.fst).Sublist
    ["dhtReplicationCount", "receivedAt", "read"] := by
  obtain ⟨_, count, _, _⟩ := entry
  cases count with
  | none => exact .cons _ (.refl _)
  | some count => exact .refl _

theorem extras_canonical (counted : ∀ count ∈ entry.dhtReplicationCount, Canonical count) :
    CanonicalFields entry.extras := by
  obtain ⟨_, count, _, _⟩ := entry
  cases count with
  | none => exact ⟨trivial, trivial, trivial⟩
  | some count => exact ⟨counted count rfl, trivial, trivial, trivial⟩

/-- Stored, the envelope's fields stand first and the extra ones behind them. -/
theorem value_storable (storable : Storable fields) (stored : entry.envelope = .object fields) :
    entry.value = .object (fields ++ entry.extras) := by
  have plain : PlainNames ((fields ++ entry.extras).map Prod.fst) := by
    refine plainNames_sublist storable.names (.cons _ ?_)
    rw [List.map_append]
    exact (List.Sublist.refl _).append (extras_names entry)
  have assigned : entry.value = .object (assign (fields ++ entry.extras)) := by
    obtain ⟨envelope, count, receivedAt, read⟩ := entry
    obtain rfl : envelope = .object fields := stored
    cases count <;>
      simp [InboxEntry.value, InboxEntry.extras, assign, List.foldl_append, spread, entriesOf]
  rw [assigned, assign_plain rfl plain]

theorem value_canonical (storable : Storable fields)
    (counted : ∀ count ∈ entry.dhtReplicationCount, Canonical count) :
    Canonical (.object (fields ++ entry.extras)) := by
  refine canonical_object _ rfl (plainNames_sublist storable.names (.cons _ ?_))
    (canonicalFields_append storable.values (extras_canonical counted))
  rw [List.map_append]
  exact (List.Sublist.refl _).append (extras_names entry)

theorem lookup_append_of_named {key : String} (more : List (String × Json))
    (named : key ∈ fields.map Prod.fst) : lookup key (fields ++ more) = lookup key fields := by
  induction fields with
  | nil => cases named
  | cons entry rest ih =>
      by_cases own : entry.1 = key
      · simp [lookup, own]
      · have later : key ∈ rest.map Prod.fst := by simpa [Ne.symm own] using named
        simpa [lookup, own] using ih later

theorem listed_storable (storable : Storable fields) (entry : InboxEntry) (messageId : Json) :
    spread [("id", messageId)] (.object (fields ++ entry.extras)) =
      ("id", messageId) :: (fields ++ entry.extras) := by
  have assigned : spread [("id", messageId)] (.object (fields ++ entry.extras)) =
      assign (("id", messageId) :: (fields ++ entry.extras)) := by
    simp [spread, entriesOf, assign, setField]
  rw [assigned]
  refine assign_plain rfl (plainNames_sublist storable.names (.cons_cons _ ?_))
  rw [List.map_append]
  exact (List.Sublist.refl _).append (extras_names entry)

/-- What the inbox shows of an entry has every field of the envelope. -/
theorem shown_fields (entry : InboxEntry) (storable : Storable fields)
    (stored : entry.envelope = .object fields)
    (counted : ∀ count ∈ entry.dhtReplicationCount, Canonical count) (messageId : Option String) :
    ∃ listed, entry.shown messageId = .ok (.object listed) ∧
      ∀ key ∈ fields.map Prod.fst, lookup key listed = lookup key fields := by
  have read : parseOrThrow (stringify entry.value) = .ok (.object (fields ++ entry.extras)) := by
    rw [value_storable storable stored, parseOrThrow,
      parse_stringify _ (value_canonical storable counted)]
  cases messageId with
  | none =>
      refine ⟨fields ++ entry.extras, ?_, fun key named => lookup_append_of_named _ named⟩
      rw [InboxEntry.shown, read]
      rfl
  | some messageId =>
      refine ⟨("id", .string messageId) :: (fields ++ entry.extras), ?_, fun key named => ?_⟩
      · rw [InboxEntry.shown, read, ok_bind]
        simp only [listed_storable storable]
        rfl
      · have apart : "id" ≠ key := by
          rintro rfl
          have fresh := (List.nodup_cons.mp storable.names.1).1
          exact fresh (List.mem_append_left _ named)
        simpa [lookup, apart] using lookup_append_of_named entry.extras named

end Chainmail.DMailNode
