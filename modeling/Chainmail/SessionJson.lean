import Chainmail.JsonRoundTrip
import Chainmail.SessionRestarts

/-!
The stored form of a session as JSON text, and what comes back from it. A key of
`MKSKIPPED` is one text there, the encoded key and the number around a colon.
-/

namespace Chainmail.SessionManager

open DoubleRatchet (SkipKey KeyPair State skipKey)
open Json

section Texts

def natural : JsNumber → Option Nat
  | .finite value => if value = value.num.toNat then some value.num.toNat else none
  | _ => none

/-- The counter that a number parsed from JSON is. -/
def readNatural (value : Decimal) : Option Nat :=
  if 0 ≤ value.mantissa ∧ 0 ≤ value.exponent then
    some (value.mantissa.toNat * 10 ^ value.exponent.toNat)
  else none

/-- The text of a key of `MKSKIPPED`. Sessions store keys under counters only. -/
def keyText (key : SkipKey) : Option String := do
  let number ← natural key.number
  some (String.ofList (key.dhPublicKey.toList ++ ':' :: (Decimal.make false number 0).text))

/-- The key that has this text; no other text is looked up. -/
def readKey (text : String) : Option SkipKey := do
  let encoded := text.toList.takeWhile (· ≠ ':')
  let (printed, _) ← Decimal.read (text.toList.drop (encoded.length + 1))
  let number ← readNatural printed
  let key := SkipKey.mk (String.ofList encoded) (.ofNat number)
  if keyText key = some text then some key else none

@[simp] theorem natural_ofNat (number : Nat) : natural (.ofNat number) = some number := by
  simp [natural, JsNumber.ofNat]

@[simp] theorem readNatural_make (number : Nat) :
    readNatural (Decimal.make false number 0) = some number := by
  obtain ⟨whole, value⟩ := Decimal.make_natural number
  have positive : 0 ≤ (Decimal.make false number 0).mantissa := by
    by_contra negative
    have below : (Decimal.make false number 0).mantissa *
        10 ^ (Decimal.make false number 0).exponent.toNat < 0 :=
      Int.mul_neg_of_neg_of_pos (by omega) (Int.pow_pos (by omega))
    omega
  rw [readNatural, if_pos ⟨positive, whole⟩, Option.some.injEq]
  zify
  rw [Int.toNat_of_nonneg positive]
  exact value

theorem encoded_free (bytes : Bytes) : ':' ∉ (toBase64 bytes).toList := by
  intro written
  rw [toBase64, String.toList_ofList] at written
  rcases Base64.mem_encode written with letter | padding
  · exact absurd letter (by decide)
  · exact absurd padding (by decide)

theorem keyText_skipKey (remote : Bytes) (number : Nat) :
    keyText (skipKey remote (.ofNat number)) = some (String.ofList
      ((toBase64 remote).toList ++ ':' :: (Decimal.make false number 0).text)) := by
  simp [keyText, skipKey]

/-- A key of a session is read back from its text. -/
theorem readKey_keyText {remote : Bytes} {number : Nat} {text : String}
    (printed : keyText (skipKey remote (.ofNat number)) = some text) :
    readKey text = some (skipKey remote (.ofNat number)) := by
  have free : ∀ char ∈ (toBase64 remote).toList, decide (char ≠ ':') = true := by
    intro char member
    have other : char ≠ ':' := fun same => encoded_free remote (same ▸ member)
    simpa using other
  have shown := keyText_skipKey remote number
  rw [printed, Option.some.injEq] at shown
  have encoded : text.toList.takeWhile (· ≠ ':') = (toBase64 remote).toList := by
    rw [shown, String.toList_ofList, List.takeWhile_append_of_pos free]
    simp
  have rest : text.toList.drop ((toBase64 remote).toList.length + 1) =
      (Decimal.make false number 0).text ++ [] := by
    rw [shown, String.toList_ofList, List.drop_append]
    simp
  have ends : Decimal.Ends [] := by simp [Decimal.Ends]
  simp only [readKey, encoded, rest, Decimal.read_text _ ends, Option.bind_eq_bind,
    Option.bind_some, readNatural_make, String.ofList_toList]
  exact if_pos printed

end Texts

section Written

def bufferJson : Option String → Json
  | none => .null
  | some text => .string text

def pairJson : Option SerializedKeyPair → Json
  | none => .null
  | some pair =>
      .object [("privateKey", .string pair.privateKey), ("publicKey", .string pair.publicKey)]

def entryJson (entry : SkipKey × String) : Option Json :=
  (keyText entry.1).map fun text => .array [.string text, .string entry.2]

/-- The object that `serialize` returns, where every stored key has a text. -/
def toJson (data : SerializedState) : Option Json := do
  let entries ← data.MKSKIPPED.mapM entryJson
  some (.object [("DHs", pairJson data.DHs), ("DHr", bufferJson data.DHr),
    ("RK", bufferJson data.RK), ("CKs", bufferJson data.CKs), ("CKr", bufferJson data.CKr),
    ("Ns", ofInt data.Ns), ("Nr", ofInt data.Nr), ("PN", ofInt data.PN),
    ("MKSKIPPED", .array entries)])

def readBuffer : Option Json → Option (Option String)
  | some .null => some none
  | some (.string text) => some (some text)
  | _ => none

def readPair : Option Json → Option (Option SerializedKeyPair)
  | some .null => some none
  | some (.object fields) =>
      match lookup "privateKey" fields, lookup "publicKey" fields with
      | some (.string privateKey), some (.string publicKey) => some (some ⟨privateKey, publicKey⟩)
      | _, _ => none
  | _ => none

def readCounter : Option Json → Option Nat
  | some (.number value) => readNatural value
  | _ => none

def readEntry : Json → Option (SkipKey × String)
  | .array [.string text, .string value] => (readKey text).map fun key => (key, value)
  | _ => none

def readEntries : Option Json → Option (List (SkipKey × String))
  | some (.array items) => items.mapM readEntry
  | _ => none

/-- What `deserialize` takes from a parsed object that has the fields of a session. -/
def fromJson (data : Json) : Option SerializedState := do
  let DHs ← readPair (data.field "DHs")
  let DHr ← readBuffer (data.field "DHr")
  let RK ← readBuffer (data.field "RK")
  let CKs ← readBuffer (data.field "CKs")
  let CKr ← readBuffer (data.field "CKr")
  let Ns ← readCounter (data.field "Ns")
  let Nr ← readCounter (data.field "Nr")
  let PN ← readCounter (data.field "PN")
  let MKSKIPPED ← readEntries (data.field "MKSKIPPED")
  some ⟨DHs, DHr, RK, CKs, CKr, Ns, Nr, PN, MKSKIPPED⟩

/-- `deserialize(JSON.parse(JSON.stringify(serialize(state))))` -/
def restore (state : State Bytes) : Option (State Bytes) := do
  let printed ← toJson (serialize state)
  let parsed ← parse (stringify printed)
  let data ← fromJson parsed
  some (deserialize data)

end Written

section RoundTrip

/-- Every stored key is the encoding of a key and a counter. -/
def Keyed (store : OrderedMap SkipKey Bytes) : Prop :=
  ∀ slot, store.get slot ≠ none → ∃ remote number, slot = skipKey remote (.ofNat number)

theorem readBuffer_bufferJson (text : Option String) :
    readBuffer (some (bufferJson text)) = some text := by
  cases text <;> rfl

theorem readPair_pairJson (pair : Option SerializedKeyPair) :
    readPair (some (pairJson pair)) = some pair := by
  cases pair <;> rfl

theorem readCounter_ofInt (number : Nat) : readCounter (some (ofInt number)) = some number := by
  rw [ofInt_natCast, readCounter, readNatural_make]

theorem bufferJson_canonical (text : Option String) : Canonical (bufferJson text) := by
  cases text <;> trivial

theorem pairJson_canonical (pair : Option SerializedKeyPair) : Canonical (pairJson pair) := by
  cases pair with
  | none => trivial
  | some pair =>
      exact canonical_object ["privateKey", "publicKey"] rfl (by decide) ⟨trivial, trivial, trivial⟩

theorem entries_canonical {entries : List (SkipKey × String)} {items : List Json}
    (printed : entries.mapM entryJson = some items) : CanonicalItems items := by
  induction entries generalizing items with
  | nil =>
      cases printed
      trivial
  | cons entry rest ih =>
      simp only [List.mapM_cons, Option.bind_eq_bind, Option.bind_eq_some_iff, entryJson,
        Option.map_eq_some_iff, Option.pure_def, Option.some.injEq] at printed
      obtain ⟨_, ⟨text, _, rfl⟩, later, others, rfl⟩ := printed
      exact ⟨⟨trivial, trivial, trivial⟩, ih others⟩

theorem entries_roundTrip {entries : List (SkipKey × String)}
    (keyed : ∀ entry ∈ entries, ∃ remote number, entry.1 = skipKey remote (.ofNat number)) :
    ∃ items, entries.mapM entryJson = some items ∧ items.mapM readEntry = some entries := by
  induction entries with
  | nil => exact ⟨[], rfl, rfl⟩
  | cons entry rest ih =>
      obtain ⟨remote, number, named⟩ := keyed entry List.mem_cons_self
      obtain ⟨items, printed, read⟩ :=
        ih fun other member => keyed other (List.mem_cons_of_mem _ member)
      obtain ⟨text, shown⟩ : ∃ text, keyText entry.1 = some text := by
        rw [named, keyText_skipKey]
        exact ⟨_, rfl⟩
      have back : readKey text = some entry.1 := by
        rw [named] at shown ⊢
        exact readKey_keyText shown
      refine ⟨.array [.string text, .string entry.2] :: items, ?_, ?_⟩
      · simp [List.mapM_cons, entryJson, shown, printed]
      · simp [List.mapM_cons, readEntry, back, read]

theorem toJson_canonical {data : SerializedState} {printed : Json}
    (shown : toJson data = some printed) : Canonical printed := by
  obtain ⟨items, entries, same⟩ := Option.bind_eq_some_iff.mp shown
  cases same
  refine canonical_object ["DHs", "DHr", "RK", "CKs", "CKr", "Ns", "Nr", "PN", "MKSKIPPED"] rfl
    (by decide) ?_
  exact ⟨pairJson_canonical _, bufferJson_canonical _, bufferJson_canonical _,
    bufferJson_canonical _, bufferJson_canonical _, canonical_natural _, canonical_natural _,
    canonical_natural _, entries_canonical entries, trivial⟩

/-- Reading takes every field but the entries as it was printed. -/
theorem fromJson_toJson {data : SerializedState} {printed : Json}
    (shown : toJson data = some printed) : ∃ items, data.MKSKIPPED.mapM entryJson = some items ∧
      fromJson printed = (items.mapM readEntry).map fun entries =>
        { data with MKSKIPPED := entries } := by
  obtain ⟨items, entries, same⟩ := Option.bind_eq_some_iff.mp shown
  cases same
  refine ⟨items, entries, ?_⟩
  simp [fromJson, field, lookup, readPair_pairJson, readBuffer_bufferJson, readCounter_ofInt,
    readEntries, Option.map_eq_bind]

theorem restore_printed {state : State Bytes} {printed : Json}
    (shown : toJson (serialize state) = some printed) :
    restore state = (fromJson printed).map deserialize := by
  simp [restore, shown, parse_stringify printed (toJson_canonical shown), Option.map_eq_bind]

/-- Printing and parsing lose nothing of what was serialized. -/
theorem restore_eq {state : State Bytes} (keyed : Keyed state.MKSKIPPED) :
    restore state = some (deserialize (serialize state)) := by
  have named : ∀ entry ∈ (serialize state).MKSKIPPED,
      ∃ remote number, entry.1 = skipKey remote (.ofNat number) := by
    intro entry member
    obtain ⟨own, held, rfl⟩ := List.mem_map.mp member
    have found := (state.MKSKIPPED.get_iff_mem own.1 own.2).mpr held
    exact keyed own.1 (by simp [found])
  obtain ⟨items, entries, back⟩ := entries_roundTrip named
  obtain ⟨printed, shown⟩ : ∃ printed, toJson (serialize state) = some printed := by
    rw [toJson, entries]
    exact ⟨_, rfl⟩
  obtain ⟨others, same, read⟩ := fromJson_toJson shown
  rw [entries, Option.some.injEq] at same
  rw [restore_printed shown, read, ← same, back]
  rfl

/-- None of the buffers that are tested for `null` is empty. -/
structure Filled (state : State Bytes) : Prop where
  remote : state.DHr ≠ some []
  root : state.RK ≠ some []
  sending : state.CKs ≠ some []
  receiving : state.CKr ≠ some []

theorem restoreField_iff (field : Option Bytes) :
    restoreField (field.map toBase64) = field ↔ field ≠ some [] := by
  constructor
  · rintro kept rfl
    cases kept
  · exact restoreField_encoded

/-- Whatever comes back has no empty buffer among these, so a state that has one does not. -/
theorem filled_of_restore {state : State Bytes} (kept : restore state = some state) :
    Filled state := by
  obtain ⟨printed, shown, _⟩ := Option.bind_eq_some_iff.mp kept
  obtain ⟨items, _, read⟩ := fromJson_toJson shown
  rw [restore_printed shown, read] at kept
  obtain ⟨data, found, same⟩ := Option.map_eq_some_iff.mp kept
  obtain ⟨entries, _, rfl⟩ := Option.map_eq_some_iff.mp found
  exact ⟨(restoreField_iff _).mp (congrArg State.DHr same),
    (restoreField_iff _).mp (congrArg State.RK same),
    (restoreField_iff _).mp (congrArg State.CKs same),
    (restoreField_iff _).mp (congrArg State.CKr same)⟩

theorem restore_of_filled {state : State Bytes} (keyed : Keyed state.MKSKIPPED)
    (filled : Filled state) : restore state = some state := by
  rw [restore_eq keyed,
    deserialize_serialize filled.remote filled.root filled.sending filled.receiving]

end RoundTrip

section Headers
open DoubleRatchet (MessageHeader)

structure SerializedHeader where
  dh : String
  pn : JsNumber
  n : JsNumber

def serializeHeader (header : MessageHeader) : SerializedHeader :=
  ⟨toBase64 header.dhPublicKey, header.previousCounter, header.messageNumber⟩

def deserializeHeader (data : SerializedHeader) : MessageHeader :=
  ⟨fromBase64 data.dh, data.pn, data.n⟩

/-- The serialized header of counters, as JSON. -/
def headerJson (data : SerializedHeader) : Option Json := do
  let pn ← natural data.pn
  let n ← natural data.n
  some (.object [("dh", .string data.dh), ("pn", ofInt pn), ("n", ofInt n)])

def readHeader (data : Json) : Option SerializedHeader := do
  let dh ← readBuffer (data.field "dh")
  let pn ← readCounter (data.field "pn")
  let n ← readCounter (data.field "n")
  dh.map fun dh => ⟨dh, .ofNat pn, .ofNat n⟩

/-- A header that is serialized, printed, parsed and deserialized. -/
def restoreHeader (header : MessageHeader) : Option MessageHeader := do
  let printed ← headerJson (serializeHeader header)
  let parsed ← parse (stringify printed)
  let data ← readHeader parsed
  some (deserializeHeader data)

theorem deserializeHeader_serialize (header : MessageHeader) :
    deserializeHeader (serializeHeader header) = header := by
  simp [deserializeHeader, serializeHeader]

theorem restoreHeader_eq (dhPublicKey : Bytes) (previousCounter messageNumber : Nat) :
    restoreHeader ⟨dhPublicKey, .ofNat previousCounter, .ofNat messageNumber⟩ =
      some ⟨dhPublicKey, .ofNat previousCounter, .ofNat messageNumber⟩ := by
  have canonical : Canonical (.object [("dh", .string (toBase64 dhPublicKey)),
      ("pn", ofInt previousCounter), ("n", ofInt messageNumber)]) :=
    canonical_object ["dh", "pn", "n"] rfl (by decide)
      ⟨trivial, canonical_natural _, canonical_natural _, trivial⟩
  simp [restoreHeader, headerJson, serializeHeader, parse_stringify _ canonical, readHeader, field,
    lookup, readBuffer, readCounter_ofInt, deserializeHeader]

end Headers
end Chainmail.SessionManager
