import Chainmail.HybridCipher

/-!
`src/storage/ipfs.js`: attachments are sealed for their recipient, uploaded to whichever service
is configured, and fetched through the first gateway that answers. `post` and `fetch` stand for
the network, and `createCID` for `CID.create`, with `none` where it throws. Nothing checks that
what a gateway answers is what the CID stands for. The form data, and the availability check, are
left out.
-/

namespace Chainmail.Attachments

variable {P : Packages}

def IPFS_GATEWAYS : List String :=
  ["https://ipfs.io/ipfs/", "https://dweb.link/ipfs/", "https://cloudflare-ipfs.com/ipfs/",
    "https://gateway.pinata.cloud/ipfs/"]

/-- What comes of a `fetch`: an error or a timeout, an answer that is not `ok`, or its body. -/
inductive Response (Body : Type) where
  | unreachable
  | refused (statusText : String)
  | ok (body : Body)

/-- The CID and the size that an upload service answers with. -/
structure Receipt where
  cid : String
  size : Nat

structure Network where
  post : String → Bytes → Response Receipt
  fetch : String → Response Bytes

structure IPFSStorage where
  localNode : Option String
  pinataApiKey : Option String
  web3StorageToken : Option String

structure UploadResult where
  cid : String
  size : Option Nat
  uploaded : Bool
  pinned : Bool

/-- An option that is missing or empty counts as not set. -/
def given (option : Option String) : Option String := option.filter fun text => text ≠ ""

/-- The three uploads differ in their endpoint and in the text of their error, and one of them
    returns no size. -/
def uploadTo (network : Network) (endpoint service : String) (size : Receipt → Option Nat)
    (data : Bytes) : Except Failure UploadResult :=
  match network.post endpoint data with
  | .unreachable => .error .typeError
  | .refused statusText => .error (.error (service ++ " upload failed: " ++ statusText))
  | .ok receipt => .ok ⟨receipt.cid, size receipt, true, true⟩

def uploadToLocalNode (network : Network) (localNode : String) (data : Bytes) :
    Except Failure UploadResult :=
  uploadTo network (localNode ++ "/api/v0/add?pin=true") "IPFS" (fun receipt => receipt.size) data

def uploadToPinata (network : Network) (data : Bytes) : Except Failure UploadResult :=
  uploadTo network "https://api.pinata.cloud/pinning/pinFileToIPFS" "Pinata"
    (fun receipt => receipt.size) data

def uploadToWeb3Storage (network : Network) (data : Bytes) : Except Failure UploadResult :=
  uploadTo network "https://api.web3.storage/upload" "Web3.Storage" (fun _ => none) data

section Manager
variable (P) (createCID : Bytes → Option String) (network : Network) (ipfs : IPFSStorage)

def computeCID (data : Bytes) : Except Failure String := accepted (createCID (P.sha256 data))

def upload (data : Bytes) : Except Failure UploadResult :=
  match given ipfs.localNode, given ipfs.pinataApiKey, given ipfs.web3StorageToken with
  | some localNode, _, _ => uploadToLocalNode network localNode data
  | none, some _, _ => uploadToPinata network data
  | none, none, some _ => uploadToWeb3Storage network data
  | none, none, none => do
      let cid ← computeCID P createCID data
      return ⟨cid, none, false, false⟩

/-- The first gateway that answers `ok`; an error leads on to the next like a refusal. -/
def fromGateways (cid : String) : List String → Option Bytes
  | [] => none
  | gateway :: rest =>
      match network.fetch (gateway ++ cid) with
      | .ok body => some body
      | .refused _ => fromGateways cid rest
      | .unreachable => fromGateways cid rest

/-- The local node comes last, and its errors are not caught. -/
def download (cid : String) : Except Failure Bytes :=
  let failed : Except Failure Bytes := .error (.error ("Failed to download from IPFS: " ++ cid))
  match fromGateways network cid IPFS_GATEWAYS with
  | some body => .ok body
  | none =>
      match given ipfs.localNode with
      | none => failed
      | some localNode =>
          match network.fetch (localNode ++ "/api/v0/cat?arg=" ++ cid) with
          | .ok body => .ok body
          | .refused _ => failed
          | .unreachable => .error .typeError

structure Attachment where
  cid : String
  filename : String
  mimeType : String
  size : Nat
  encryptedSize : Nat
  uploaded : Bool
  encrypted : Bool

structure Download where
  data : Bytes
  filename : String
  mimeType : String

def attachmentInfo : Bytes := utf8Encode "dmail-attachment-v1"

/-- `[ephemeralPublic (32) | nonce (12) | ciphertext]` -/
def packageOf (encrypted : Encrypted) : Bytes :=
  encrypted.ephemeralKey ++ encrypted.nonce ++ encrypted.ciphertext

def sliced (encryptedPackage : Bytes) : Encrypted :=
  ⟨encryptedPackage.take 32, (encryptedPackage.take 44).drop 32, encryptedPackage.drop 44⟩

/-- The package goes up under the name of the file with `.encrypted` after it. -/
def uploadAttachment (data : Bytes) (filename : String) (recipientPublicKey : Bytes)
    (mimeType : Option String) (draws : CipherDraws) : Except Failure Attachment := do
  let encrypted ← encryptFor P attachmentInfo draws data recipientPublicKey
  let encryptedPackage := packageOf encrypted
  let result ← upload P createCID network ipfs encryptedPackage
  return ⟨result.cid, filename, mimeType.getD "application/octet-stream", data.length,
    encryptedPackage.length, result.uploaded, true⟩

def downloadAttachment (attachment : Attachment) (recipientPrivateKey : Bytes) :
    Except Failure Download := do
  let encryptedPackage ← download network ipfs attachment.cid
  let data ← decryptWith P attachmentInfo recipientPrivateKey (sliced encryptedPackage)
  return ⟨data, attachment.filename, attachment.mimeType⟩

end Manager

/-- A public key is as long as a private one. -/
def PublicKeysSized (P : Packages) : Prop :=
  ∀ privateKey : Bytes, privateKey.length = 32 → (P.x25519PublicKey privateKey).length = 32

/-- What a client may hear of a CID, in the order in which it asks. -/
def answers (network : Network) (ipfs : IPFSStorage) (cid : String) : List (Response Bytes) :=
  IPFS_GATEWAYS.map (fun gateway => network.fetch (gateway ++ cid)) ++
    ((given ipfs.localNode).map fun localNode =>
      network.fetch (localNode ++ "/api/v0/cat?arg=" ++ cid)).toList

/-- Whoever answers `ok` answers with these bytes. -/
def Serves (network : Network) (ipfs : IPFSStorage) (cid : String) (package : Bytes) : Prop :=
  ∀ body, .ok body ∈ answers network ipfs cid → body = package

/-- Somebody answers `ok`. -/
def Available (network : Network) (ipfs : IPFSStorage) (cid : String) : Prop :=
  ∃ body, .ok body ∈ answers network ipfs cid

section Downloads
variable {network : Network} {ipfs : IPFSStorage} {cid : String} {package : Bytes}

theorem fromGateways_some {gateways : List String} {body : Bytes}
    (found : fromGateways network cid gateways = some body) :
    .ok body ∈ gateways.map fun gateway => network.fetch (gateway ++ cid) := by
  induction gateways with
  | nil => cases found
  | cons gateway rest ih =>
      rw [fromGateways] at found
      rw [List.map_cons, List.mem_cons]
      split at found
      · rename_i answered
        cases found
        exact .inl answered.symm
      · exact .inr (ih found)
      · exact .inr (ih found)

theorem fromGateways_none {gateways : List String} {body : Bytes}
    (missed : fromGateways network cid gateways = none) :
    .ok body ∉ gateways.map fun gateway => network.fetch (gateway ++ cid) := by
  induction gateways with
  | nil => simp
  | cons gateway rest ih =>
      rw [fromGateways] at missed
      rw [List.map_cons, List.mem_cons, not_or]
      split at missed
      · cases missed
      · rename_i answered
        exact ⟨by simp [answered], ih missed⟩
      · rename_i answered
        exact ⟨by simp [answered], ih missed⟩

/-- However many gateways fail before, a download comes back as soon as anybody has the
    package, and with nothing else. -/
theorem download_ok_iff (serves : Serves network ipfs cid package) {body : Bytes} :
    download network ipfs cid = .ok body ↔ Available network ipfs cid ∧ body = package := by
  have answered {body : Bytes} (got : download network ipfs cid = .ok body) :
      .ok body ∈ answers network ipfs cid := by
    unfold download at got
    dsimp only at got
    split at got
    · rename_i found
      cases got
      exact List.mem_append_left _ (fromGateways_some found)
    · split at got
      · cases got
      · rename_i localNode node
        split at got
        · rename_i fetched
          cases got
          refine List.mem_append_right _ ?_
          rw [node, Option.map_some, fetched]
          exact List.mem_singleton_self _
        · cases got
        · cases got
  constructor
  · intro got
    exact ⟨⟨body, answered got⟩, serves body (answered got)⟩
  · rintro ⟨⟨other, member⟩, rfl⟩
    have own := serves other member
    subst own
    cases found : fromGateways network cid IPFS_GATEWAYS with
    | some first =>
        have same := serves first (List.mem_append_left _ (fromGateways_some found))
        simp only [download, found, same]
    | none =>
        -- No gateway has it, so it is the local node that answers.
        rcases List.mem_append.mp member with gateway | local_
        · exact absurd gateway (fromGateways_none found)
        · obtain ⟨localNode, node, fetched⟩ := Option.map_eq_some_iff.mp (Option.mem_toList.mp local_)
          simp only [download, found, node, fetched]

theorem sliced_packageOf {encrypted : Encrypted} (key : encrypted.ephemeralKey.length = 32)
    (nonce : encrypted.nonce.length = 12) : sliced (packageOf encrypted) = encrypted := by
  have front : (encrypted.ephemeralKey ++ encrypted.nonce).length = 44 := by
    rw [List.length_append, key, nonce]
  rw [sliced, packageOf, List.take_left' front, List.drop_left' front, List.drop_left' key,
    List.append_assoc, List.take_left' key]

end Downloads

/-- An attachment comes back from wherever it is served, through any gateways that fail, to the
    holder of the key that it was uploaded for, as it was; to any other key it does not open. -/
theorem attachment_opens_iff (commutes : AgreementCommutes P) (roundTrips : ChachaRoundTrips P)
    (commits : ChachaCommits P) (separate : KeysSeparate P) (sized : PublicKeysSized P)
    (createCID : Bytes → Option String) (network : Network) (ipfs : IPFSStorage)
    {data privateKey : Bytes} (length : privateKey.length = 32) {filename : String}
    {mimeType : Option String} {draws : CipherDraws} {attachment : Attachment}
    (uploaded : uploadAttachment P createCID network ipfs data filename
      (P.x25519PublicKey privateKey) mimeType draws = .ok attachment) :
    ∃ package result, upload P createCID network ipfs package = .ok result ∧
      result.cid = attachment.cid ∧ package.length = attachment.encryptedSize ∧
      ∀ (later : Network) (client : IPFSStorage), Serves later client attachment.cid package →
        ∀ holder : Bytes, holder.length = 32 → ∀ opened,
          (downloadAttachment P later client attachment holder = .ok opened ↔
            Available later client attachment.cid ∧
              P.x25519PublicKey holder = P.x25519PublicKey privateKey ∧
              opened = ⟨data, filename, mimeType.getD "application/octet-stream"⟩) := by
  obtain ⟨encrypted, encryption, uploading⟩ := bind_ok_iff.mp uploaded
  obtain ⟨result, stored, made⟩ := bind_ok_iff.mp uploading
  cases made
  obtain ⟨shared, agreed, shape⟩ := encryptFor_ok_iff.mp encryption
  have own : sliced (packageOf encrypted) = encrypted := by
    subst shape
    exact sliced_packageOf (sized _ draws.ephemeralPrivate_length) draws.nonce_length
  refine ⟨packageOf encrypted, result, stored, rfl, rfl, ?_⟩
  intro later client serves holder holderLength opened
  have decrypts (text : Bytes) :
      decryptWith P attachmentInfo holder encrypted = .ok text ↔
        text = data ∧ P.x25519PublicKey holder = P.x25519PublicKey privateKey := by
    rw [decryptWith_ok_iff commutes roundTrips commits holderLength encryption]
    refine and_congr_right fun _ => ?_
    constructor
    · intro agree
      exact (keysAgree_unique separate length holderLength agree).symm
    · intro same
      exact ⟨shared, shared, agreed, same ▸ agreed, rfl⟩
  rw [downloadAttachment, bind_ok_iff]
  constructor
  · rintro ⟨body, got, rest⟩
    obtain ⟨available, rfl⟩ := (download_ok_iff serves).mp got
    obtain ⟨text, opens, made⟩ := bind_ok_iff.mp rest
    rw [own, decrypts] at opens
    obtain ⟨rfl, same⟩ := opens
    cases made
    exact ⟨available, same, rfl⟩
  · rintro ⟨available, same, rfl⟩
    refine ⟨_, (download_ok_iff serves).mpr ⟨available, rfl⟩, bind_ok_iff.mpr ⟨data, ?_, rfl⟩⟩
    rw [own, decrypts]
    exact ⟨rfl, same⟩

section Sample

def sampleNetwork : Network := ⟨fun _ _ => .ok ⟨"bafy", 3⟩, fun _ => .unreachable⟩

def sampleKey : Bytes := List.replicate 32 9

theorem sample_attachment_opens : ∃ package, ∀ (later : Network) (client : IPFSStorage),
    Serves later client "bafy" package → ∀ opened,
      (downloadAttachment samplePackages later client
          ⟨"bafy", "a.txt", "application/octet-stream", 3, package.length, true, true⟩ sampleKey =
            .ok opened ↔
        Available later client "bafy" ∧ opened = ⟨[1, 2, 3], "a.txt", "application/octet-stream"⟩) := by
  have length : sampleKey.length = 32 := List.length_replicate
  have uploaded : uploadAttachment samplePackages (fun _ => none) sampleNetwork
      ⟨some "http://localhost", none, none⟩ [1, 2, 3] "a.txt"
      (samplePackages.x25519PublicKey sampleKey) none sampleCipherDraws = .ok _ := rfl
  obtain ⟨package, result, _, _, size, opens⟩ :=
    attachment_opens_iff sample_commutes sample_roundtrips sample_commits sample_separate
      (fun _ length => length) _ _ _ length uploaded
  refine ⟨package, fun later client serves opened => ?_⟩
  rw [size]
  simpa using opens later client serves sampleKey length opened

end Sample

end Chainmail.Attachments
