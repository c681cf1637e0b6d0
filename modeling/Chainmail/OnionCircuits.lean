import Chainmail.OnionRoundTrip

/-!
The circuits that an onion router remembers. A circuit is entered as soon as the
layer has been read as JSON, before the router has seen whether there is anything
it can do with it.
-/

namespace Chainmail.OnionRouting

open Json DhtStorage

structure Circuit where
  prevHop : String
  timestamp : Moment

/-- A circuit is known by whatever a `Map` tells the ids of packets apart by. -/
structure OnionRouter (Id : Type) [DecidableEq Id] where
  privateKey : Bytes
  circuits : OrderedMap Id Circuit

variable (P : Packages) {Id : Type} [DecidableEq Id]

/-- The layer that a packet has for the holder of the key. -/
def openPacket (privateKey : Bytes) (packet : OnionPacket) : Except Failure Json := do
  let decrypted ← decryptLayer P packet.encryptedPayload privateKey
  parseOrThrow (textDecode decrypted)

/-- `this.circuits.set(packet.circuitId, { prevHop: fromPeer, timestamp: Date.now() })` -/
def trackCircuit (circuitId : Id) (circuit : Circuit) (router : OnionRouter Id) : OnionRouter Id :=
  { router with circuits := router.circuits.set circuitId circuit }

/-- `OnionRouter.processPacket`, with the circuit that it would enter and the clock after that. -/
def receivePacket (draw : RandomId) (now : Moment) (circuitId : Id) (circuit : Circuit)
    (packet : OnionPacket) (router : OnionRouter Id) : Processed × OnionRouter Id :=
  match openPacket P router.privateKey packet with
  | .error failure => (.error failure, router)
  | .ok layer =>
      let router := trackCircuit circuitId circuit router
      match processLayer P packet draw now layer with
      | .ok result => (result, router)
      | .error failure => (.error failure, router)

/-- An error leaves the circuits as they were. Otherwise the circuit of the packet is the one that
    the sending peer opens, and the others stay. -/
def TracksCircuit (circuitId : Id) (circuit : Circuit) (before after : OrderedMap Id Circuit) :
    Processed → Prop
  | .error _ => after = before
  | _ => after.get circuitId = some circuit ∧
      ∀ other, other ≠ circuitId → after.get other = before.get other

/-- A router can act on the layer: it is one to pass on, or the last, with a message to read. -/
def Deliverable (layer : Json) : Prop :=
  ∃ type, member "type" (some layer) = .ok type ∧
    (isText "relay" type = true ∨
      isText "final" type = true ∧ ∃ message, bufferFrom P (layer.field "message") = .ok message)

section Packets
variable {P} {draw : RandomId} {now : Moment} {circuitId : Id} {circuit : Circuit}
  {packet : OnionPacket} {router : OnionRouter Id} {layer : Json}

/-- What is returned does not depend on the circuits. -/
theorem receivePacket_result : (receivePacket P draw now circuitId circuit packet router).1 =
    processPacket P router.privateKey draw now packet := by
  rw [receivePacket, processPacket]
  cases decrypted : decryptLayer P packet.encryptedPayload router.privateKey with
  | error failure => simp [openPacket, decrypted, error_bind]
  | ok bytes =>
      rw [openPacket, decrypted, ok_bind, ok_bind]
      cases parsed : parseOrThrow (textDecode bytes) with
      | error failure => rfl
      | ok layer =>
          rw [ok_bind]
          dsimp only
          cases processLayer P packet draw now layer <;> rfl

theorem processLayer_ok_iff :
    (∃ result, processLayer P packet draw now layer = .ok result) ↔ Deliverable P layer := by
  rw [Deliverable, processLayer]
  cases known : member "type" (some layer) with
  | error failure => simp [error_bind]
  | ok type =>
      rw [ok_bind]
      simp only [Except.ok.injEq, exists_eq_left']
      by_cases final : isText "final" type = true
      · have other : isText "relay" type = false := by
          cases type with
          | none => cases final
          | some value =>
              cases value with
              | string text =>
                  simp only [isText, beq_iff_eq] at final ⊢
                  rw [final]
                  rfl
              | _ => cases final
        rw [if_pos final]
        cases bufferFrom P (layer.field "message") with
        | error failure => simp [other]
        | ok message => simp [final, ok_bind, pure, Except.pure]
      · rw [if_neg final]
        by_cases relay : isText "relay" type = true
        · simp [relay, pure, Except.pure]
        · simp [relay, final]

/-- No layer is processed to an error: what fails is thrown. -/
theorem processLayer_no_error {result : Processed}
    (processed : processLayer P packet draw now layer = .ok result) :
    ∀ failure, result ≠ .error failure := by
  rintro failure rfl
  obtain ⟨type, _, rest⟩ := bind_ok_iff.mp processed
  split at rest
  · obtain ⟨message, _, made⟩ := bind_ok_iff.mp rest
    cases made
  · split at rest
    · cases rest
    · cases rest

theorem tracks_set (circuits : OrderedMap Id Circuit) {result : Processed}
    (acted : ∀ failure, result ≠ .error failure) :
    TracksCircuit circuitId circuit circuits (circuits.set circuitId circuit) result := by
  have entered : (circuits.set circuitId circuit).get circuitId = some circuit ∧
      ∀ other, other ≠ circuitId → (circuits.set circuitId circuit).get other = circuits.get other :=
    ⟨OrderedMap.get_set_self _ _ _, fun other apart => OrderedMap.get_set_of_ne _ _ apart⟩
  cases result with
  | error failure => exact absurd rfl (acted failure)
  | exit destination message => exact entered
  | forward nextHop nextHopPeerId packet isExit => exact entered

end Packets

/-- A packet is tracked as it should be exactly when the layer it has, if any, is one that the router
    can act on, or its circuit was there already. -/
theorem tracks_circuit_iff (draw : RandomId) (now : Moment) (circuitId : Id) (circuit : Circuit)
    (packet : OnionPacket) (router : OnionRouter Id) :
    TracksCircuit circuitId circuit router.circuits
        (receivePacket P draw now circuitId circuit packet router).2.circuits
        (receivePacket P draw now circuitId circuit packet router).1 ↔
      ∀ layer, openPacket P router.privateKey packet = .ok layer →
        Deliverable P layer ∨ router.circuits.get circuitId = some circuit := by
  rw [receivePacket]
  cases opened : openPacket P router.privateKey packet with
  | error failure =>
      refine iff_of_true rfl fun layer found => ?_
      cases found
  | ok layer =>
      simp only [Except.ok.injEq, forall_eq']
      have acts : (∃ result, processLayer P packet draw now layer = .ok result) ↔ Deliverable P layer :=
        processLayer_ok_iff
      rw [← acts]
      cases processed : processLayer P packet draw now layer with
      | ok result =>
          exact iff_of_true (tracks_set _ (processLayer_no_error processed)) (.inl ⟨result, rfl⟩)
      | error failure =>
          have unprocessed : ¬ ∃ result, (Except.error failure : Except Failure Processed) =
              .ok result := by
            rintro ⟨result, done⟩
            cases done
          rw [or_iff_right unprocessed]
          exact OrderedMap.set_eq_self_iff

def hello : List (String × Json) := [("type", .string "hello")]

/-- A router that no packet has come to yet. -/
def fresh : OnionRouter String := ⟨key 1, .empty⟩

/-- Anyone can seal a layer of no known type to a router, and have a circuit remembered for it. -/
theorem unknown_layer_tracked : ¬ ∀ (P : Packages) (draw : RandomId) (now : Moment)
    (circuitId : String) (circuit : Circuit) (packet : OnionPacket) (router : OnionRouter String),
    TracksCircuit circuitId circuit router.circuits
      (receivePacket P draw now circuitId circuit packet router).2.circuits
      (receivePacket P draw now circuitId circuit packet router).1 := by
  intro claimed
  have length : (key 1).length = 32 := List.length_replicate
  obtain ⟨encrypted, wrapped⟩ := encryptLayer_ok sample_commutes sampleCipherDraws
    (utf8Encode (stringify (.object hello))) length
  let packet : OnionPacket := ⟨ofInt 1, some encrypted, .string "circuit", ofInt 1⟩
  have opened : openPacket samplePackages (key 1) packet = .ok (.object hello) := by
    obtain ⟨parts, sealing, made⟩ := bind_ok_iff.mp wrapped
    cases made
    have decrypted := decryptWith_own sample_commutes sample_roundtrips length sealing
    have read : decryptLayer samplePackages packet.encryptedPayload (key 1) =
        .ok (utf8Encode (stringify (.object hello))) := by
      simp [packet, decryptLayer, member, field, lookup, decrypted]
    have canonical : Canonical (.object hello) :=
      canonical_object ["type"] rfl (by decide) ⟨trivial, trivial⟩
    rw [openPacket, read, ok_bind, parse_transmitted canonical]
  have tracked := claimed samplePackages ⟨List.replicate 16 0, List.length_replicate⟩
    ⟨1, Nat.one_pos⟩ "circuit" ⟨"mallory", ⟨1, Nat.one_pos⟩⟩ packet fresh
  rw [receivePacket, fresh, opened] at tracked
  have entered : 1 = 0 := congrArg OrderedMap.size tracked
  exact absurd entered (by decide)

end Chainmail.OnionRouting
