import Chainmail.DhtStorage
import Chainmail.HybridCipher
import Chainmail.RelaySelection

/-!
`src/network/onion-routing.js`, which `onion-routing.service.ts` repeats: the
packets that `buildRoute` wraps in one layer for each relay, and what a router
makes of a packet. The circuits a router remembers, which nothing reads, are left
out.
-/

namespace Chainmail.OnionRouting

open Json DhtStorage

variable (P : Packages)

def INFO_ONION : Bytes := utf8Encode "dmail-onion-v1"

def encryptLayer (draws : CipherDraws) (plaintext recipientPublicKey : Bytes) :
    Except Failure Json := do
  let encrypted ← encryptFor P INFO_ONION draws plaintext recipientPublicKey
  return .object
    [("ephemeralPublicKey", .string (toBase64 encrypted.ephemeralKey)),
      ("nonce", .string (toBase64 encrypted.nonce)),
      ("ciphertext", .string (toBase64 encrypted.ciphertext))]

def decryptLayer (encrypted : Option Json) (recipientPrivateKey : Bytes) :
    Except Failure Bytes := do
  let ephemeralPublic ← bufferFrom P (← member "ephemeralPublicKey" encrypted)
  let nonce ← bufferFrom P (← member "nonce" encrypted)
  let ciphertext ← bufferFrom P (← member "ciphertext" encrypted)
  decryptWith P INFO_ONION recipientPrivateKey ⟨ephemeralPublic, nonce, ciphertext⟩

structure OnionPacket where
  version : Json
  encryptedPayload : Option Json
  circuitId : Json
  timestamp : Json

/-- `new OnionPacket(options)`; the id and the time are drawn where none is given. -/
def newPacket (version encryptedPayload circuitId timestamp : Option Json) (draw : RandomId)
    (now : Moment) : OnionPacket where
  version := orElse version (ofInt 1)
  encryptedPayload := encryptedPayload
  circuitId := orElse circuitId (.string draw.text)
  timestamp := orElse timestamp (ofInt now.ms)

section Build

/-- What one call of `buildRoute` draws and reads off the clock. The layers draw by
    the index of their relay. -/
structure RouteDraws (hopCount : Nat) where
  randoms : List MathRandom
  innermost : CipherDraws
  layers : Nat → CipherDraws
  circuit : RandomId
  now : Moment
  sized : randoms.length = hopCount

def finalLayer (destinationAddress : String) (message : Bytes) : List (String × Json) :=
  [("type", .string "final"), ("destination", .string destinationAddress),
    ("message", .string (toBase64 message))]

/-- The layer of a relay; the exit is the one that no relay follows. -/
def relayLayer (destinationAddress : String) (following : Option Relay) (payload : Json) :
    List (String × Json) :=
  [("type", .string "relay"),
    ("nextHop", .string ((following.map Relay.multiaddr).getD destinationAddress)),
    ("nextHopPeerId", (following.map fun relay => Json.string relay.peerId).getD .null),
    ("isExit", .bool following.isNone),
    ("payload", payload)]

/-- The loop from the exit to the entry, over the relays still to come, the last of
    them first, and the one wrapped before. -/
def wrapLayers (layers : Nat → CipherDraws) (destinationAddress : String) :
    List Relay → Option Relay → Json → Except Failure Json
  | [], _, encrypted => .ok encrypted
  | relay :: earlier, following, encrypted => do
      let layer := relayLayer destinationAddress following encrypted
      let wrapped ← encryptLayer P (layers earlier.length)
        (utf8Encode (stringify (.object layer))) relay.publicKey
      wrapLayers layers destinationAddress earlier (some relay) wrapped

structure Route where
  packet : OnionPacket
  entryNode : Option Relay
  route : List String

/-- `round` is how the arithmetic of the selection is rounded. -/
def buildRoute (round : JsNumber → JsNumber) (builder : OnionRouteBuilder) (message : Bytes)
    (destinationAddress : String) (destinationPublicKey : Bytes) (excludePeers : List String)
    (draws : RouteDraws builder.hopCount) : Except Failure Route := do
  let relays ← selectRelays round builder builder.hopCount excludePeers draws.randoms
  let innermost ← encryptLayer P draws.innermost
    (utf8Encode (stringify (.object (finalLayer destinationAddress message)))) destinationPublicKey
  let encrypted ← wrapLayers P draws.layers destinationAddress relays.reverse none innermost
  return ⟨newPacket none (some encrypted) none none draws.circuit draws.now, relays.head?,
    relays.map Relay.peerId⟩

end Build

section Route

/-- What `processPacket` returns. -/
inductive Processed where
  | exit (destination : Option Json) (message : Bytes)
  | forward (nextHop nextHopPeerId : Option Json) (packet : OnionPacket) (isExit : Option Json)
  | error (failure : Failure)

def processLayer (packet : OnionPacket) (draw : RandomId) (now : Moment) (layer : Json) :
    Except Failure Processed := do
  let type ← member "type" (some layer)
  if isText "final" type then
    let message ← bufferFrom P (layer.field "message")
    return .exit (layer.field "destination") message
  else if isText "relay" type then
    let nextPacket := newPacket none (layer.field "payload") (some packet.circuitId)
      (some packet.timestamp) draw now
    return .forward (layer.field "nextHop") (layer.field "nextHopPeerId") nextPacket
      (layer.field "isExit")
  else .error (.error "Unknown layer type")

/-- `OnionRouter.processPacket` of the node with this private key. -/
def processPacket (privateKey : Bytes) (draw : RandomId) (now : Moment) (packet : OnionPacket) :
    Processed :=
  let processed := do
    let decrypted ← decryptLayer P packet.encryptedPayload privateKey
    let layer ← parseOrThrow (textDecode decrypted)
    processLayer P packet draw now layer
  match processed with
  | .ok result => result
  | .error failure => .error failure

end Route
end Chainmail.OnionRouting
