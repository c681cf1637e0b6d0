import Chainmail.Addressee
import Chainmail.DMailNode
import Chainmail.RelayNode

/-!
Under which key mail waits for a node that is offline. Relays and senders read
the key off the envelope; the node asks for its address and for its token, but
takes a live envelope only where the one of the two that fits is named.
-/

namespace Chainmail.DMailNode

open Json SealedEnvelope

variable {P : Packages}

section Routes

/-- The envelope travels by its routing token. -/
def ByToken (envelope : Json) : Prop :=
  isText "sealed" (envelope.field "type") = true ∧ truthy (envelope.field "routingToken") = true

instance (envelope : Json) : Decidable (ByToken envelope) := inferInstanceAs (Decidable (_ ∧ _))

def routeOf (envelope : Json) : Option Json :=
  if ByToken envelope then envelope.field "routingToken" else envelope.field "to"

/-- The route that a node takes for its own. -/
def ownRoute (P : Packages) (address : String) (envelope : Json) : String :=
  if ByToken envelope then generateRoutingToken P address else address

/-- The other of the node's two keys. -/
def crossedRoute (P : Packages) (address : String) (envelope : Json) : String :=
  if ByToken envelope then address else generateRoutingToken P address

theorem present_eq_some {value : Option Json} {found : Json} :
    present value = some found ↔ value = some found ∧ truthy (some found) = true := by
  cases value <;> simp [present, Option.filter_eq_some_iff]

theorem truthy_string (text : String) : truthy (some (.string text)) = true ↔ text ≠ "" := by
  simp [truthy]

theorem isForUs_object (address : String) (fields : List (String × Json)) :
    isForUs P address (.object fields) =
      .ok (if ByToken (.object fields) then
          isText (generateRoutingToken P address) (lookup "routingToken" fields)
        else isText address (lookup "to" fields)) := by
  simp only [isForUs, member_object, ok_bind, ByToken, field, Bool.and_eq_true]
  rfl

theorem isForUs_iff {address : String} {envelope : Json} : isForUs P address envelope = .ok true ↔
    routeOf envelope = some (.string (ownRoute P address envelope)) := by
  cases envelope with
  | object fields =>
      rw [isForUs_object, Except.ok.injEq, ← isText_iff, routeOf, ownRoute]
      by_cases byToken : ByToken (.object fields)
      · simp only [if_pos byToken, field]
      · simp only [if_neg byToken, field]
  | _ => simp [isForUs, member, routeOf, ByToken, field, isText]

theorem storageKey_object (fields : List (String × Json)) :
    storageKey (.object fields) = .ok (present (routeOf (.object fields))) := by
  simp only [storageKey, member_object, ok_bind, routeOf, ByToken, field, Bool.and_eq_true]
  rfl

theorem relay_storageKey (envelope : Json) : RelayNode.storageKey envelope =
    match present (routeOf envelope) with
    | some key => if DhtStorage.canSlice (some key) then .ok (some key) else .error .typeError
    | none => .ok none := by
  by_cases byToken : ByToken envelope
  · cases read : envelope.field "routingToken" with
    | none => cases read ▸ byToken.2
    | some token =>
        have kept : present (some token) = some token := present_eq_some.mpr ⟨rfl, read ▸ byToken.2⟩
        simp only [RelayNode.storageKey, routeOf, if_pos byToken, if_pos byToken.1, read, kept]
  · have dropped : (if isText "sealed" (envelope.field "type") then
        present (envelope.field "routingToken") else none) = none := by
      by_cases marked : isText "sealed" (envelope.field "type") = true
      · have falsy : ¬ truthy (envelope.field "routingToken") = true := fun kept => byToken ⟨marked, kept⟩
        cases read : envelope.field "routingToken" with
        | none => simp [present]
        | some token => simpa [marked, present, read] using falsy
      · exact if_neg marked
    simp only [RelayNode.storageKey, routeOf, if_neg byToken, dropped]
    cases present (envelope.field "to") <;> rfl

theorem truthy_ownRoute {identity : Identity P} {envelope : Json}
    (own : routeOf envelope = some (.string (ownRoute P identity.address envelope))) :
    truthy (routeOf envelope) = true := by
  by_cases byToken : ByToken envelope
  · rw [routeOf, if_pos byToken]
    exact byToken.2
  · rw [own, truthy_string, ownRoute, if_neg byToken]
    exact Senders.address_nonempty identity

end Routes

section Keys

/-- The keys of the mail that a node asks a peer for. -/
def askedKeys (P : Packages) (address : String) : List Json :=
  (present (some (.string address))).toList ++
    (present (some (.string (generateRoutingToken P address)))).toList

theorem fetchRequest_asks (address : String) :
    RelayNode.askedFor (utf8Encode (fetchRequest P address)) = .ok (askedKeys P address) := by
  have request : Canonical (.object [("action", .string "fetch"), ("recipient", .string address),
      ("routingToken", .string (generateRoutingToken P address))]) :=
    canonical_object ["action", "recipient", "routingToken"] rfl (by decide)
      ⟨trivial, trivial, trivial, trivial⟩
  rw [RelayNode.askedFor, fetchRequest, parse_transmitted request]
  rfl

theorem mem_askedKeys {address : String} {key : Json} :
    key ∈ askedKeys P address ↔ truthy (some key) = true ∧
      (key = .string address ∨ key = .string (generateRoutingToken P address)) := by
  simp only [askedKeys, List.mem_append, Option.mem_toList, present_eq_some, Option.some.injEq]
  constructor
  · rintro (⟨rfl, nonempty⟩ | ⟨rfl, nonempty⟩)
    · exact ⟨nonempty, .inl rfl⟩
    · exact ⟨nonempty, .inr rfl⟩
  · rintro ⟨nonempty, rfl | rfl⟩
    · exact .inl ⟨rfl, nonempty⟩
    · exact .inr ⟨rfl, nonempty⟩

theorem acceptedKey_of_parsed {data : Bytes} {envelope : Json}
    (parsed : parseOrThrow (textDecode data) = .ok envelope) (object : envelope ≠ .null) :
    RelayNode.acceptedKey data true = RelayNode.storageKey envelope := by
  rw [RelayNode.acceptedKey, parsed, ok_bind]
  cases envelope with
  | null => exact absurd rfl object
  | _ => rfl

theorem acceptedKey_null {data : Bytes} (parsed : parseOrThrow (textDecode data) = .ok .null) :
    RelayNode.acceptedKey data true = .error .typeError := by
  rw [RelayNode.acceptedKey, parsed]
  rfl

theorem acceptedKey_text_iff {data : Bytes} {envelope : Json} {key : String}
    (parsed : parseOrThrow (textDecode data) = .ok envelope) :
    RelayNode.acceptedKey data true = .ok (some (.string key)) ↔
      present (routeOf envelope) = some (.string key) := by
  by_cases isNull : envelope = .null
  · subst isNull
    rw [acceptedKey_null parsed]
    simp [routeOf, field, present]
  · rw [acceptedKey_of_parsed parsed isNull, relay_storageKey]
    cases present (routeOf envelope) with
    | none => simp
    | some found =>
        constructor
        · intro chosen
          dsimp only at chosen
          split at chosen
          · exact Except.ok.inj chosen
          · cases chosen
        · intro same
          cases same
          rfl

/-- A relay that lets the message in keeps it under a key that the node asks for. -/
def Fetchable (P : Packages) (address : String) (data : Bytes) : Prop :=
  ∃ key asked, RelayNode.acceptedKey data true = .ok (some key) ∧
    RelayNode.askedFor (utf8Encode (fetchRequest P address)) = .ok asked ∧ key ∈ asked

/-- The envelope names the node by the key that is not the one for its kind. -/
def Crossed (P : Packages) (address : String) (envelope : Json) : Prop :=
  present (routeOf envelope) = some (.string (crossedRoute P address envelope))

theorem keys_split (address key : String) (envelope : Json) :
    key = address ∨ key = generateRoutingToken P address ↔
      key = ownRoute P address envelope ∨ key = crossedRoute P address envelope := by
  by_cases byToken : ByToken envelope
  · rw [ownRoute, crossedRoute, if_pos byToken, if_pos byToken]
    exact or_comm
  · rw [ownRoute, crossedRoute, if_neg byToken, if_neg byToken]

theorem fetchable_iff {data : Bytes} {envelope : Json} (identity : Identity P)
    (parsed : parseOrThrow (textDecode data) = .ok envelope) :
    Fetchable P identity.address data ↔
      isForUs P identity.address envelope = .ok true ∨ Crossed P identity.address envelope := by
  constructor
  · rintro ⟨key, asked, kept, asks, covered⟩
    rw [fetchRequest_asks] at asks
    cases asks
    obtain ⟨_, named⟩ := mem_askedKeys.mp covered
    obtain ⟨text, rfl⟩ : ∃ text, key = .string text := by
      rcases named with rfl | rfl <;> exact ⟨_, rfl⟩
    have route := (acceptedKey_text_iff parsed).mp kept
    simp only [Json.string.injEq] at named
    rcases (keys_split _ text envelope).mp named with rfl | rfl
    · exact .inl (isForUs_iff.mpr (present_eq_some.mp route).1)
    · exact .inr route
  · intro routed
    have route : ∃ key, present (routeOf envelope) = some (.string key) ∧
        (key = ownRoute P identity.address envelope ∨
          key = crossedRoute P identity.address envelope) := by
      rcases routed with own | crossed
      · have own := isForUs_iff.mp own
        exact ⟨_, present_eq_some.mpr ⟨own, own ▸ truthy_ownRoute own⟩, .inl rfl⟩
      · exact ⟨_, crossed, .inr rfl⟩
    obtain ⟨key, found, named⟩ := route
    refine ⟨.string key, _, (acceptedKey_text_iff parsed).mpr found, fetchRequest_asks _, ?_⟩
    have named := (keys_split (P := P) _ key envelope).mpr named
    exact mem_askedKeys.mpr ⟨(present_eq_some.mp found).2, named.imp (congrArg _) (congrArg _)⟩

-- Every relay that is dialled gets the envelope under that one key.
theorem storeOnRelays_key {envelope key : Json} {connections : List (String × Option Nat)}
    {sent : List (String × String)} (named : storageKey envelope = .ok (some key))
    (made : storeOnRelays envelope connections = .ok sent) :
    ∀ request ∈ sent, ∃ connection ∈ connections, ∃ now, connection.2 = some now ∧
      request.2 = storeRequest key envelope now := by
  intro request member
  rw [storeOnRelays] at made
  split at made
  · cases made
    cases member
  · rw [named] at made
    cases made
    obtain ⟨connection, inside, asked⟩ := List.mem_filterMap.mp member
    obtain ⟨now, dialled, rfl⟩ := Option.map_eq_some_iff.mp asked
    exact ⟨connection, inside, now, dialled, rfl⟩

/-- What a node takes live waits for it under one and the same key of its two with every
    relay and every sender; its fetch covers this, and beyond it what names it by the other key. -/
theorem routing_agrees (identity : Identity P) (data : Bytes) (envelope : Json)
    (parsed : parseOrThrow (textDecode data) = .ok envelope) :
    (isForUs P identity.address envelope = .ok true →
      ∃ key ∈ [identity.address, generateRoutingToken P identity.address],
        RelayNode.acceptedKey data true = .ok (some (.string key)) ∧
          storageKey envelope = .ok (some (.string key)) ∧
          ∃ asked, RelayNode.askedFor (utf8Encode (fetchRequest P identity.address)) = .ok asked ∧
            .string key ∈ asked) ∧
      (Fetchable P identity.address data ↔
        isForUs P identity.address envelope = .ok true ∨ Crossed P identity.address envelope) := by
  refine ⟨fun forUs => ?_, fetchable_iff identity parsed⟩
  have own := isForUs_iff.mp forUs
  have nonempty := truthy_ownRoute own
  have found := present_eq_some.mpr ⟨own, own ▸ nonempty⟩
  have named := (keys_split (P := P) identity.address _ envelope).mpr (.inl rfl)
  refine ⟨ownRoute P identity.address envelope, by simpa using named,
    (acceptedKey_text_iff parsed).mpr found, ?_, _, fetchRequest_asks _, ?_⟩
  · cases envelope with
    | object fields => rw [storageKey_object, found]
    | _ => simp [routeOf, field] at own
  · exact mem_askedKeys.mpr ⟨own ▸ nonempty, named.imp (congrArg _) (congrArg _)⟩

end Keys

/-! A plain envelope for Alice, and a sealed one whose routing token is her address. -/

section Sample

def alice : Identity samplePackages := sampleIdentity 1

def plainForAlice : Json := .object [("to", .string alice.address)]

def crossedForAlice : Json :=
  .object [("type", .string "sealed"), ("routingToken", .string alice.address)]

theorem plain_parsed : parseOrThrow (textDecode (utf8Encode (stringify plainForAlice))) =
    .ok plainForAlice :=
  parse_transmitted (canonical_object ["to"] rfl (by decide) ⟨trivial, trivial⟩)

theorem crossed_parsed : parseOrThrow (textDecode (utf8Encode (stringify crossedForAlice))) =
    .ok crossedForAlice :=
  parse_transmitted
    (canonical_object ["type", "routingToken"] rfl (by decide) ⟨trivial, trivial, trivial⟩)

theorem plain_routing_agrees :
    (isForUs samplePackages alice.address plainForAlice = .ok true →
      ∃ key ∈ [alice.address, generateRoutingToken samplePackages alice.address],
        RelayNode.acceptedKey (utf8Encode (stringify plainForAlice)) true =
            .ok (some (.string key)) ∧
          storageKey plainForAlice = .ok (some (.string key)) ∧
          ∃ asked, RelayNode.askedFor (utf8Encode (fetchRequest samplePackages alice.address)) =
              .ok asked ∧ .string key ∈ asked) ∧
      (Fetchable samplePackages alice.address (utf8Encode (stringify plainForAlice)) ↔
        isForUs samplePackages alice.address plainForAlice = .ok true ∨
          Crossed samplePackages alice.address plainForAlice) :=
  routing_agrees alice _ _ plain_parsed

theorem token_differs : generateRoutingToken samplePackages alice.address ≠ alice.address := by
  decide +kernel

/-- The address in place of the token is fetched, but was not taken live. -/
theorem crossed_fetchable :
    Fetchable samplePackages alice.address (utf8Encode (stringify crossedForAlice)) ∧
      ¬ isForUs samplePackages alice.address crossedForAlice = .ok true := by
  have byToken : ByToken crossedForAlice := by
    refine ⟨rfl, ?_⟩
    exact (truthy_string _).mpr (Senders.address_nonempty alice)
  have route : routeOf crossedForAlice = some (.string alice.address) := if_pos byToken
  constructor
  · apply (fetchable_iff alice crossed_parsed).mpr
    refine .inr (present_eq_some.mpr ⟨?_, (truthy_string _).mpr (Senders.address_nonempty alice)⟩)
    rw [route, crossedRoute, if_pos byToken]
  · rw [isForUs_iff, route, ownRoute, if_pos byToken]
    intro same
    exact token_differs (Json.string.inj (Option.some.inj same)).symm

end Sample

end Chainmail.DMailNode
