import Chainmail.JsonRoundTrip
import Chainmail.OnionRouting

/-!
A packet that `buildRoute` makes goes from relay to relay and opens at the
destination. The builder wraps from the exit inwards to the entry, so what holds
of a payload is said about the relays ahead of it.
-/

namespace Chainmail.OnionRouting

open Json DhtStorage

variable {P : Packages}

/-- What is sent, to whom, and the private key it has to open with. -/
structure Parcel where
  message : Bytes
  address : String
  privateKey : Bytes

/-- The routers and the destination hold the keys that the sender encrypts for. -/
structure KeysMatch (P : Packages) (builder : OnionRouteBuilder) (privateKey : String → Bytes)
    (parcel : Parcel) : Prop where
  relays : ∀ relay ∈ builder.knownRelays.values, (privateKey relay.peerId).length = 32 ∧
    relay.publicKey = P.x25519PublicKey (privateKey relay.peerId)
  destination : parcel.privateKey.length = 32

/-- One router after the other hands the packet on to the next hop, and the
    destination gets the message. -/
def Travels (P : Packages) (privateKey : String → Bytes) (parcel : Parcel) :
    List Relay → OnionPacket → Prop
  | [], packet => ∀ draw now, processPacket P parcel.privateKey draw now packet =
      .exit (some (.string parcel.address)) parcel.message
  | [relay], packet => ∀ draw now, ∃ next,
      processPacket P (privateKey relay.peerId) draw now packet =
        .forward (some (.string parcel.address)) (some .null) next (some (.bool true)) ∧
      next.circuitId = packet.circuitId ∧ next.timestamp = packet.timestamp ∧
      Travels P privateKey parcel [] next
  | relay :: following :: ahead, packet => ∀ draw now, ∃ next,
      processPacket P (privateKey relay.peerId) draw now packet =
        .forward (some (.string following.multiaddr)) (some (.string following.peerId)) next
          (some (.bool false)) ∧
      next.circuitId = packet.circuitId ∧ next.timestamp = packet.timestamp ∧
      Travels P privateKey parcel (following :: ahead) next

/-- A route that is built has as many known relays as hops, and its packet travels over them. -/
def RoundTrips (P : Packages) (builder : OnionRouteBuilder) (privateKey : String → Bytes)
    (parcel : Parcel) (excludePeers : List String) (draws : RouteDraws builder.hopCount) : Prop :=
  ∀ built, buildRoute P JsNumber.rounded builder parcel.message parcel.address
      (P.x25519PublicKey parcel.privateKey) excludePeers draws = .ok built →
    ∃ relays : List Relay, relays.length = builder.hopCount ∧
      (∀ relay ∈ relays, relay ∈ builder.knownRelays.values ∧ relay.peerId ∉ excludePeers) ∧
      built.route = relays.map Relay.peerId ∧ built.entryNode = relays.head? ∧
      Travels P privateKey parcel relays built.packet

section Layers
variable {draws : CipherDraws} {fields : List (String × Json)} {privateKey : Bytes}
  {encrypted : Json} {packet : OnionPacket}

theorem encryptLayer_ok (commutes : AgreementCommutes P) (draws : CipherDraws) (plaintext : Bytes)
    (length : privateKey.length = 32) :
    ∃ encrypted, encryptLayer P draws plaintext (P.x25519PublicKey privateKey) = .ok encrypted := by
  obtain ⟨shared, agreed, _⟩ :=
    commutes draws.ephemeralPrivate privateKey draws.ephemeralPrivate_length length
  obtain ⟨parts, sealing⟩ : ∃ parts, encryptFor P INFO_ONION draws plaintext
      (P.x25519PublicKey privateKey) = .ok parts :=
    ⟨_, encryptFor_ok_iff.mpr ⟨shared, agreed, rfl⟩⟩
  exact ⟨_, bind_ok_iff.mpr ⟨parts, sealing, rfl⟩⟩

theorem encryptLayer_canonical {plaintext publicKey : Bytes}
    (wrapped : encryptLayer P draws plaintext publicKey = .ok encrypted) : Canonical encrypted := by
  obtain ⟨parts, _, made⟩ := bind_ok_iff.mp wrapped
  cases made
  exact canonical_object ["ephemeralPublicKey", "nonce", "ciphertext"] rfl (by decide)
    ⟨trivial, trivial, trivial, trivial⟩

/-- The holder of the private key acts on the layer as it was wrapped. -/
theorem processPacket_own (commutes : AgreementCommutes P) (roundTrips : ChachaRoundTrips P)
    (length : privateKey.length = 32) (canonical : Canonical (.object fields))
    (wrapped : encryptLayer P draws (utf8Encode (stringify (.object fields)))
      (P.x25519PublicKey privateKey) = .ok encrypted)
    (carried : packet.encryptedPayload = some encrypted) (draw : RandomId) (now : Moment)
    {result : Processed}
    (processed : processLayer P packet draw now (.object fields) = .ok result) :
    processPacket P privateKey draw now packet = result := by
  obtain ⟨parts, sealing, made⟩ := bind_ok_iff.mp wrapped
  cases made
  have decrypted : decryptLayer P packet.encryptedPayload privateKey =
      .ok (utf8Encode (stringify (.object fields))) := by
    have opened := decryptWith_own commutes roundTrips length sealing
    simp [carried, decryptLayer, member, field, lookup, opened]
  rw [processPacket, decrypted, ok_bind, parse_transmitted canonical, ok_bind, processed]

end Layers

section Travel
variable {privateKey : String → Bytes} {parcel : Parcel} {encrypted wrapped : Json}
  {draws : CipherDraws}

/-- A payload that travels over the relays ahead, in whatever packet it comes. -/
def Carries (P : Packages) (privateKey : String → Bytes) (parcel : Parcel) (ahead : List Relay)
    (encrypted : Json) : Prop :=
  Canonical encrypted ∧ ∀ packet : OnionPacket, packet.encryptedPayload = some encrypted →
    truthy (some packet.circuitId) = true → truthy (some packet.timestamp) = true →
      Travels P privateKey parcel ahead packet

theorem final_carries (commutes : AgreementCommutes P) (roundTrips : ChachaRoundTrips P)
    (length : parcel.privateKey.length = 32)
    (sealing : encryptLayer P draws
      (utf8Encode (stringify (.object (finalLayer parcel.address parcel.message))))
      (P.x25519PublicKey parcel.privateKey) = .ok encrypted) :
    Carries P privateKey parcel [] encrypted := by
  have canonical : Canonical (.object (finalLayer parcel.address parcel.message)) :=
    canonical_object ["type", "destination", "message"] rfl (by decide)
      ⟨trivial, trivial, trivial, trivial⟩
  refine ⟨encryptLayer_canonical sealing, fun packet carried _ _ draw now => ?_⟩
  apply processPacket_own commutes roundTrips length canonical sealing carried draw now
  simp [processLayer, finalLayer, member, field, lookup, isText]

theorem relayLayer_canonical (address : String) (following : Option Relay)
    (canonical : Canonical encrypted) : Canonical (.object (relayLayer address following encrypted)) := by
  refine canonical_object ["type", "nextHop", "nextHopPeerId", "isExit", "payload"] rfl (by decide)
    ⟨trivial, trivial, ?_, trivial, canonical, trivial⟩
  cases following <;> trivial

/-- One more layer on the outside: one more relay in front. -/
theorem relay_carries (commutes : AgreementCommutes P) (roundTrips : ChachaRoundTrips P)
    {relay : Relay} {ahead : List Relay} (length : (privateKey relay.peerId).length = 32)
    (own : relay.publicKey = P.x25519PublicKey (privateKey relay.peerId))
    (carries : Carries P privateKey parcel ahead encrypted)
    (wrapping : encryptLayer P draws
      (utf8Encode (stringify (.object (relayLayer parcel.address ahead.head? encrypted))))
      relay.publicKey = .ok wrapped) :
    Carries P privateKey parcel (relay :: ahead) wrapped := by
  rw [own] at wrapping
  have canonical := relayLayer_canonical parcel.address ahead.head? carries.1
  refine ⟨encryptLayer_canonical wrapping, fun packet carried circuit timestamp => ?_⟩
  have onward (draw : RandomId) (now : Moment) : Travels P privateKey parcel ahead
      (newPacket none (some encrypted) (some packet.circuitId) (some packet.timestamp) draw now) := by
    apply carries.2 _ rfl
    · simpa only [newPacket, orElse_of_truthy _ circuit] using circuit
    · simpa only [newPacket, orElse_of_truthy _ timestamp] using timestamp
  have forwarded (draw : RandomId) (now : Moment) :=
    processPacket_own commutes roundTrips length canonical wrapping carried draw now rfl
  cases ahead with
  -- The last relay is told the destination and that it is the exit.
  | nil =>
      intro draw now
      exact ⟨_, forwarded draw now, orElse_of_truthy _ circuit, orElse_of_truthy _ timestamp,
        onward draw now⟩
  | cons following ahead =>
      intro draw now
      exact ⟨_, forwarded draw now, orElse_of_truthy _ circuit, orElse_of_truthy _ timestamp,
        onward draw now⟩

/-- The private keys of these relays fit the keys they are known by. -/
def Held (P : Packages) (privateKey : String → Bytes) (relays : List Relay) : Prop :=
  ∀ relay ∈ relays, (privateKey relay.peerId).length = 32 ∧
    relay.publicKey = P.x25519PublicKey (privateKey relay.peerId)

variable {layers : Nat → CipherDraws}

theorem wrapLayers_ok (commutes : AgreementCommutes P) (layers : Nat → CipherDraws)
    {earlier : List Relay} (held : Held P privateKey earlier) (address : String) (following : Option Relay)
    (encrypted : Json) :
    ∃ wrapped, wrapLayers P layers address earlier following encrypted = .ok wrapped := by
  induction earlier generalizing following encrypted with
  | nil => exact ⟨encrypted, rfl⟩
  | cons relay earlier ih =>
      obtain ⟨length, own⟩ := held relay List.mem_cons_self
      obtain ⟨inner, wrapping⟩ := encryptLayer_ok commutes (layers earlier.length)
        (utf8Encode (stringify (.object (relayLayer address following encrypted)))) length
      obtain ⟨wrapped, done⟩ := ih (fun other member => held other (List.mem_cons_of_mem _ member))
        (some relay) inner
      rw [← own] at wrapping
      exact ⟨wrapped, bind_ok_iff.mpr ⟨inner, wrapping, done⟩⟩

/-- The invariant of the loop: what is wrapped so far travels over the relays it is
    wrapped for. -/
theorem wrapLayers_carries (commutes : AgreementCommutes P) (roundTrips : ChachaRoundTrips P)
    {earlier : List Relay} (ahead : List Relay) (held : Held P privateKey earlier)
    (carries : Carries P privateKey parcel ahead encrypted)
    (wrapping : wrapLayers P layers parcel.address earlier ahead.head? encrypted = .ok wrapped) :
    Carries P privateKey parcel (earlier.reverse ++ ahead) wrapped := by
  -- The loop goes through the route from its end, so each layer is for the relay before.
  induction earlier generalizing ahead encrypted with
  | nil =>
      cases wrapping
      exact carries
  | cons relay earlier ih =>
      obtain ⟨length, own⟩ := held relay List.mem_cons_self
      obtain ⟨inner, first, later⟩ := bind_ok_iff.mp wrapping
      rw [List.reverse_cons, List.append_assoc, List.singleton_append]
      exact ih _ (fun other member => held other (List.mem_cons_of_mem _ member))
        (relay_carries commutes roundTrips length own carries first) later

end Travel

section Routes
variable {builder : OnionRouteBuilder} {privateKey : String → Bytes} {parcel : Parcel}
  {excludePeers : List String}

theorem selected_held (keys : KeysMatch P builder privateKey parcel) (excludePeers : List String)
    (draws : List MathRandom) :
    Held P privateKey (select JsNumber.rounded draws (available builder excludePeers)).reverse :=
  fun _ member => keys.relays _ (mem_available (mem_select (List.mem_reverse.mp member))).1

theorem selectRelays_ok {count : Nat} {draws : List MathRandom}
    (enough : count ≤ (available builder excludePeers).length) :
    selectRelays JsNumber.rounded builder count excludePeers draws =
      .ok (select JsNumber.rounded draws (available builder excludePeers)) :=
  if_neg (Nat.not_lt.mpr enough)

theorem buildRoute_ok (commutes : AgreementCommutes P) (keys : KeysMatch P builder privateKey parcel)
    (enough : builder.hopCount ≤ (available builder excludePeers).length)
    (draws : RouteDraws builder.hopCount) :
    ∃ built, buildRoute P JsNumber.rounded builder parcel.message parcel.address
        (P.x25519PublicKey parcel.privateKey) excludePeers draws = .ok built ∧
      built.route =
        (select JsNumber.rounded draws.randoms (available builder excludePeers)).map Relay.peerId := by
  obtain ⟨innermost, sealing⟩ := encryptLayer_ok commutes draws.innermost
    (utf8Encode (stringify (.object (finalLayer parcel.address parcel.message)))) keys.destination
  obtain ⟨wrapped, wrapping⟩ := wrapLayers_ok commutes draws.layers
    (selected_held keys excludePeers draws.randoms) parcel.address none innermost
  exact ⟨_, bind_ok_iff.mpr ⟨_, selectRelays_ok enough, bind_ok_iff.mpr ⟨_, sealing,
    bind_ok_iff.mpr ⟨_, wrapping, rfl⟩⟩⟩, rfl⟩

theorem buildRoute_travels (commutes : AgreementCommutes P) (roundTrips : ChachaRoundTrips P)
    (keys : KeysMatch P builder privateKey parcel) {draws : RouteDraws builder.hopCount}
    {built : Route} (returned : buildRoute P JsNumber.rounded builder parcel.message parcel.address
      (P.x25519PublicKey parcel.privateKey) excludePeers draws = .ok built) :
    builder.hopCount ≤ (available builder excludePeers).length ∧
      ∃ relays, relays = select JsNumber.rounded draws.randoms (available builder excludePeers) ∧
        built.route = relays.map Relay.peerId ∧ built.entryNode = relays.head? ∧
        Travels P privateKey parcel relays built.packet := by
  obtain ⟨relays, selected, rest⟩ := bind_ok_iff.mp returned
  obtain ⟨innermost, sealing, rest⟩ := bind_ok_iff.mp rest
  obtain ⟨wrapped, wrapping, made⟩ := bind_ok_iff.mp rest
  cases made
  rw [selectRelays] at selected
  split at selected
  next => cases selected
  next enough =>
    cases selected
    have carries := wrapLayers_carries commutes roundTrips []
      (selected_held keys excludePeers draws.randoms)
      (final_carries commutes roundTrips keys.destination sealing) wrapping
    rw [List.reverse_reverse, List.append_nil] at carries
    exact ⟨Nat.not_lt.mp enough, _, rfl, rfl, rfl,
      carries.2 _ rfl draws.circuit.truthy_text (truthy_ofInt draws.now.positive)⟩

/-- The lowest numbers that can be drawn, for as many rounds as the route has hops. -/
def lowestDraws (hopCount : Nat) : RouteDraws hopCount where
  randoms := List.replicate hopCount lowest
  innermost := sampleCipherDraws
  layers _ := sampleCipherDraws
  circuit := ⟨List.replicate 16 0, List.length_replicate⟩
  now := ⟨1, Nat.one_pos⟩
  sized := List.length_replicate

/-- A route that falls short passes fewer relays than it has hops. -/
theorem picks_of_trips (commutes : AgreementCommutes P)
    (keys : KeysMatch P builder privateKey parcel) {draws : RouteDraws builder.hopCount}
    (trips : RoundTrips P builder privateKey parcel excludePeers draws)
    (enough : builder.hopCount ≤ (available builder excludePeers).length) :
    EachPicks JsNumber.rounded draws.randoms (available builder excludePeers) := by
  obtain ⟨built, returned, route⟩ := buildRoute_ok commutes keys enough draws
  obtain ⟨relays, length, _, routed, _⟩ := trips built returned
  have same := congrArg List.length (routed.symm.trans route)
  rw [List.length_map, List.length_map, length] at same
  exact select_length_iff.mp (same.symm.trans draws.sized.symm)

theorem trips_of_picks (commutes : AgreementCommutes P) (roundTrips : ChachaRoundTrips P)
    (keys : KeysMatch P builder privateKey parcel) {draws : RouteDraws builder.hopCount}
    (picks : builder.hopCount ≤ (available builder excludePeers).length →
      EachPicks JsNumber.rounded draws.randoms (available builder excludePeers)) :
    RoundTrips P builder privateKey parcel excludePeers draws := by
  intro built returned
  obtain ⟨enough, _, rfl, route, entry, travels⟩ :=
    buildRoute_travels commutes roundTrips keys returned
  refine ⟨_, ?_, fun relay member => mem_available (mem_select member), route, entry, travels⟩
  rw [select_length_iff.mpr (picks enough), draws.sized]

/-- A packet round trips exactly when every round of the draw picks a relay, if there are enough to
    pick from; as every round does where the scores are whole numbers that are not negative. -/
theorem round_trips_iff (commutes : AgreementCommutes P) (roundTrips : ChachaRoundTrips P)
    (keys : KeysMatch P builder privateKey parcel) (excludePeers : List String)
    (draws : RouteDraws builder.hopCount) :
    (RoundTrips P builder privateKey parcel excludePeers draws ↔
      (builder.hopCount ≤ (available builder excludePeers).length →
        EachPicks JsNumber.rounded draws.randoms (available builder excludePeers))) ∧
    (WholeScores (available builder excludePeers) →
      RoundTrips P builder privateKey parcel excludePeers draws) := by
  refine ⟨⟨picks_of_trips commutes keys, trips_of_picks commutes roundTrips keys⟩, fun whole => ?_⟩
  refine trips_of_picks commutes roundTrips keys fun enough => ?_
  exact eachPicks_of_sums (sums_rounded whole) (draws.sized.le.trans enough)

/-- The sum of two scores may be infinite, and then every number that is drawn is too. -/
example : ¬ EachPicks JsNumber.rounded [⟨1 / 2, by norm_num, by norm_num⟩]
    [⟨"first", [], "", .finite (2 ^ 1023)⟩, ⟨"second", [], "", .finite (2 ^ 1023)⟩] := by
  decide +kernel

end Routes

def key (byte : UInt8) : Bytes := List.replicate 32 byte

def note : Parcel := ⟨utf8Encode "hello", "dm1bob", key 9⟩

/-- One hop, and one relay with this score to take it. -/
def lone (score : ℚ) : OnionRouteBuilder :=
  registerRelay (construct (some 1)) "relay" (.raw (key 1)) "/ip4/10.0.0.1/tcp/4001" (some (.finite score))

theorem available_lone (score : ℚ) : available (lone score) [] =
    [⟨"relay", key 1, "/ip4/10.0.0.1/tcp/4001", .finite score⟩] := by
  have one : (lone score).knownRelays.values =
      [⟨"relay", key 1, "/ip4/10.0.0.1/tcp/4001", .finite score⟩] := rfl
  simp [available, one, ordered]

theorem keys_lone (score : ℚ) : KeysMatch samplePackages (lone score) (fun _ => key 1) note where
  relays relay member := by
    obtain rfl := List.mem_singleton.mp member
    exact ⟨List.length_replicate, rfl⟩
  destination := List.length_replicate

theorem note_round_trips :
    RoundTrips samplePackages (lone 100) (fun _ => key 1) note [] (lowestDraws 1) := by
  refine (round_trips_iff sample_commutes sample_roundtrips (keys_lone 100) []
    (lowestDraws 1)).1.mpr fun _ => ?_
  rw [available_lone]
  decide +kernel

theorem note_skips_relay :
    (∃ built, buildRoute samplePackages JsNumber.rounded (lone (-5)) note.message note.address
        (samplePackages.x25519PublicKey note.privateKey) [] (lowestDraws 1) = .ok built ∧
      built.route = []) ∧
      ¬ RoundTrips samplePackages (lone (-5)) (fun _ => key 1) note [] (lowestDraws 1) := by
  have enough : (lone (-5)).hopCount ≤ (available (lone (-5)) []).length := by
    rw [available_lone]
    exact Nat.le_refl 1
  constructor
  · obtain ⟨built, returned, route⟩ :=
      buildRoute_ok sample_commutes (keys_lone (-5)) enough (lowestDraws 1)
    refine ⟨built, returned, ?_⟩
    rw [route, available_lone]
    decide +kernel
  · intro trips
    have picks := picks_of_trips sample_commutes (keys_lone (-5)) trips enough
    rw [available_lone] at picks
    revert picks
    decide +kernel

end Chainmail.OnionRouting
