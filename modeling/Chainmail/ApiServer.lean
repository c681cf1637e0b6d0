import Chainmail.HexBuffers
import Chainmail.IdentityFiles
import Chainmail.MailDisclosure
import Chainmail.RecipientLookup

/-!
The API as one system: the identities of `identity-store.service.ts` in memory and on the disk,
the service's own registry, the shared storage, and the endpoints of `identity.controller.ts` and
`messages.controller.ts` over them. A restart keeps the disk and the storage, and nothing else.
-/

namespace Chainmail

section Maps
variable {Key Value Other : Type} [DecidableEq Key]

theorem lookupEntry_map (change : Value → Other) (entries : List (Key × Value)) (key : Key) :
    OrderedMap.lookupEntry (entries.map fun entry => (entry.1, change entry.2)) key =
      (OrderedMap.lookupEntry entries key).map change := by
  induction entries with
  | nil => rfl
  | cons entry rest ih =>
      simp only [List.map_cons, OrderedMap.lookupEntry, ih]
      split <;> rfl

def OrderedMap.mapValues (change : Value → Other) (map : OrderedMap Key Value) :
    OrderedMap Key Other where
  entries := map.entries.map fun entry => (entry.1, change entry.2)
  unique := by
    rw [List.map_map]
    exact map.unique

@[simp] theorem OrderedMap.get_mapValues (change : Value → Other) (map : OrderedMap Key Value)
    (key : Key) : (map.mapValues change).get key = (map.get key).map change :=
  lookupEntry_map change map.entries key

end Maps

namespace ApiLogin

open AuthService (given)

/-- How an identity is registered when it is created or loaded. -/
def registrationOf (stored : Stored) (now : Nat) : RegistryService.Registration where
  name := (given stored.name).getD stored.identity.address
  dmailAddress := stored.identity.address
  signingKey := toHex stored.identity.publicKey
  encryptionKey := toHex stored.identity.encryptionPublicKey
  now

namespace IdentityController

open MessagesController (Thrown)

/-- The answer is the address. -/
def loadIdentity (now : Nat) (server : Server) : Outcome Server Thrown String :=
  match server.identityFile with
  | .absent => .throws server (.http 404 "No identity found")
  | .torn => .throws server (.internal .syntaxError)
  | .holds stored =>
      .returns
        { server with
          registry := RegistryService.registerLocal (registrationOf stored now) server.registry
          currentIdentity := some stored.identity }
        stored.identity.address

end IdentityController

end ApiLogin

namespace ApiServer

open ApiLogin (IdentityService.Draws IdentityService.generate Disk File Stored Write registrationOf
  newServer)
open ApiLogin.IdentityController (createIdentity loadIdentity)
open ApiLogin.IdentityStoreService (IDENTITIES_DIR PlainAddresses fileAt fileAt_plain getIdentity
  loadAllIdentities loadFile pathOf remember stem_json)
open DhtStorage (Moment RandomId)
open MessagesController (Answer Call Thrown decryptAll respond)
open MessagesService (IdentityStore P2PNodeService.Node Service)
open RegistryService (Registration Registry lookupByAddress fromHex)

variable (P : Packages) (bech32 : String → Bytes → String) (DMAIL_DIR : List String)

structure Server where
  accounts : ApiLogin.Server
  p2pNode : P2PNodeService.Node
  dhtStorage : SharedStorage.Database

/-- What decrypts a message. -/
def reader (identity : ApiLogin.Identity) : MessagesService.Identity :=
  ⟨identity.address, identity.encryptionPrivateKey⟩

def heldBy : File Stored → Option ApiLogin.Identity
  | .holds stored => some stored.identity
  | _ => none

/-- The part of the server that `messages.service.ts` uses. -/
def service (server : Server) : Service where
  currentIdentity := server.accounts.currentIdentity.map reader
  p2pNode := server.p2pNode
  identityStore :=
    { identities := server.accounts.identities.mapValues reader
      files := fun address =>
        (heldBy (fileAt DMAIL_DIR (pathOf DMAIL_DIR address) server.accounts)).map reader }
  dhtStorage := server.dhtStorage

/-- The identities that a request has read from the disk are in memory from then on. -/
def recalled (store : IdentityStore) (accounts : ApiLogin.Server) : ApiLogin.Server :=
  (store.identities.entries.map Prod.fst).foldl
    (fun known address => (getIdentity DMAIL_DIR address true known).state) accounts

/-- A message is encrypted with the key that the registry gives for its recipient. -/
def keyed (contract : Option DMailRegistry.State) (registry : Registry) : Call → Call
  | .sendMessage recipient subject body senderAddress _ draws ids passage =>
      .sendMessage recipient subject body senderAddress
        ((lookupByAddress contract recipient registry).map fun recipientInfo =>
          fromHex recipientInfo.encryptionKey.toList) draws ids passage
  | call => call

def request (call : Call) (contract : Option DMailRegistry.State) (now : Moment)
    (server : Server) : Outcome Server Thrown Answer :=
  let outcome := respond P (keyed contract server.accounts.registry call) now
    (service DMAIL_DIR server)
  ⟨outcome.result,
    { accounts := recalled DMAIL_DIR outcome.state.identityStore server.accounts
      p2pNode := outcome.state.p2pNode
      dhtStorage := outcome.state.dhtStorage }⟩

/-- The memory of a server that starts again. -/
def restarted (accounts : ApiLogin.Server) : ApiLogin.Server :=
  { accounts with
    auth := AuthService.start
    identities := OrderedMap.empty
    registry := RegistryService.start
    currentIdentity := none }

/-- Requests for identities and messages, a node that starts, stops or fails meanwhile, clean-ups
    of the storage, and restarts: the directory lists its files, and the identity in
    `identity.json` is copied to its own file where it has none. -/
inductive Event where
  | createIdentity (name : Option String) (draws : IdentityService.Draws) (disk : Disk)
  | loadIdentity
  | request (call : Call) (contract : Option DMailRegistry.State)
  | nodeChanges (node : P2PNodeService.Node)
  | cleanupExpired (draws : String → RandomId)
  | restarts (listing : List String) (copy : Write)

abbrev Input := Event × Moment

def step (server : Server) (event : Event) (now : Moment) : Server :=
  match event with
  | .createIdentity name draws disk =>
      { server with
        accounts := (createIdentity P bech32 name draws disk now.ms server.accounts).state }
  | .loadIdentity => { server with accounts := (loadIdentity now.ms server.accounts).state }
  | .request call contract => (request P DMAIL_DIR call contract now server).state
  | .nodeChanges node => { server with p2pNode := node }
  | .cleanupExpired draws =>
      { server with dhtStorage := SharedStorage.cleanupExpired draws now server.dhtStorage }
  | .restarts listing copy =>
      { server with
        accounts := (loadAllIdentities DMAIL_DIR true (some listing) copy
          (restarted server.accounts)).state
        p2pNode := Mailboxes.start.p2pNode }

/-- The last input comes first, and the server starts on an empty disk. -/
def replay : List Input → Server
  | [] => ⟨newServer, Mailboxes.start.p2pNode, OrderedMap.empty⟩
  | (event, now) :: earlier => step P bech32 DMAIL_DIR (replay earlier) event now

/-- The identity that an input generates, whether or not it is stored. -/
def generated (input : Input) : List ApiLogin.Identity :=
  match input.1 with
  | .createIdentity _ draws _ => [IdentityService.generate P bech32 draws input.2.ms]
  | _ => []

/-- The ids that an input draws for records. -/
def drawn : Call → List String
  | .sendMessage _ _ _ _ _ _ ids _ => [ids.2.text, ids.1.text]
  | .sendEncryptedMessage _ _ _ id _ => [id.text]
  | _ => []

def idsOf (input : Input) : List String :=
  match input.1 with
  | .request call _ => drawn call
  | _ => []

/-- The directory lists the file of every identity that the disk has. -/
def Lists (event : Event) (server : Server) : Prop :=
  ∀ listing copy, event = .restarts listing copy → ∀ address stored,
    server.accounts.files address = .holds stored → address ++ ".json" ∈ listing

/-- No address is generated twice, and directories list their files. -/
structure Orderly (past : List Input) : Prop where
  addresses : ((past.flatMap (generated P bech32)).map ApiLogin.Identity.address).Nodup
  listed : EachInput (fun input earlier => Lists input.1 (replay P bech32 DMAIL_DIR earlier)) past

/-- All inputs so far, the last one first. No id and no encryption key is drawn twice. -/
structure History where
  past : List Input
  orderly : Orderly P bech32 DMAIL_DIR past
  ids : (past.flatMap idsOf).Nodup
  publicKeys : ((past.flatMap (generated P bech32)).map ApiLogin.Identity.encryptionPublicKey).Nodup
  sized : ∀ identity ∈ past.flatMap (generated P bech32), identity.encryptionPrivateKey.length = 32

/-- What an event registers comes before what was registered since the last start. -/
def registered (server : Server) (event : Event) (now : Moment) (calls : List Registration) :
    List Registration :=
  match event with
  | .createIdentity name draws disk =>
      match (createIdentity P bech32 name draws disk now.ms server.accounts).result with
      | .ok _ =>
          registrationOf ⟨IdentityService.generate P bech32 draws now.ms, name⟩ now.ms :: calls
      | .error _ => calls
  | .loadIdentity =>
      match server.accounts.identityFile with
      | .holds stored => registrationOf stored now.ms :: calls
      | _ => calls
  | .restarts _ _ => []
  | _ => calls

def registrations : List Input → List Registration
  | [] => []
  | (event, now) :: earlier =>
      registered P bech32 (replay P bech32 DMAIL_DIR earlier) event now (registrations earlier)

section Memory
variable {P DMAIL_DIR} {base store : IdentityStore} {before : Service} {now : Moment}

/-- Some of what the files hold has been read, and stays in memory. -/
structure Loaded (base store : IdentityStore) : Prop where
  files : store.files = base.files
  memory : ∀ key, store.identities.get key = base.identities.get key ∨
    base.identities.get key = none ∧ store.identities.get key = base.files key

theorem Loaded.refl (base : IdentityStore) : Loaded base base := ⟨rfl, fun _ => .inl rfl⟩

theorem Loaded.load (loaded : Loaded base store) (address : String) :
    Loaded base (store.load address) := by
  rw [MessagesService.IdentityStore.load]
  split
  next identity absent found =>
    refine ⟨loaded.files, fun key => ?_⟩
    rw [OrderedMap.get_set]
    by_cases same : key = address
    · subst same
      rw [if_pos rfl, ← loaded.files, found]
      rcases loaded.memory key with before | ⟨before, _⟩
      · exact .inr ⟨before ▸ absent, rfl⟩
      · exact .inr ⟨before, rfl⟩
    · rw [if_neg same]
      exact loaded.memory key
  next => exact loaded

theorem Loaded.decryptAll (loaded : Loaded base store) (address : String) (ids : List String)
    (messages : List Json) : Loaded base (decryptAll P address ids messages store).2 := by
  induction messages generalizing store with
  | nil => exact loaded
  | cons message rest ih => exact ih (loaded.load _)

variable (P before now) in
/-- Only the list of an address reads identities, and no request changes the one in use. -/
theorem respond_loaded (call : Call) :
    Loaded before.identityStore (respond P call now before).state.identityStore ∧
      (respond P call now before).state.currentIdentity = before.currentIdentity := by
  cases call with
  | getInbox queryAddress type headerAddress fetched draws =>
      have inbox : (MessagesService.getInbox P fetched draws now before).state.identityStore =
            before.identityStore ∧
          (MessagesService.getInbox P fetched draws now before).state.currentIdentity =
            before.currentIdentity := by
        rw [MessagesService.getInbox]
        split
        · exact ⟨rfl, rfl⟩
        · split <;> exact ⟨rfl, rfl⟩
      rw [respond, MessagesController.getInbox]
      split
      · dsimp only
        split
        · exact ⟨inbox.1 ▸ .refl _, inbox.2⟩
        · exact ⟨inbox.1 ▸ .refl _, inbox.2⟩
      · split
        · split <;> exact ⟨.refl _, rfl⟩
        · split
          · exact ⟨.refl _, rfl⟩
          · exact ⟨(Loaded.refl _).decryptAll .., rfl⟩
  | getMessage wanted draw =>
      rw [respond, MessagesController.getMessage]
      split
      · exact ⟨.refl _, rfl⟩
      · split <;> exact ⟨.refl _, rfl⟩
  | sendMessage recipient subject body senderAddress encryptionKey draws ids passage =>
      rw [respond, MessagesController.sendMessage]
      split
      · exact ⟨.refl _, rfl⟩
      · split
        · exact ⟨.refl _, rfl⟩
        · rw [MailDisclosure.answered_state, MessagesService.sendMessageWithSender]
          split
          · exact ⟨.refl _, rfl⟩
          · split <;> exact ⟨.refl _, rfl⟩
  | sendEncryptedMessage recipient encrypted routingToken id passage =>
      rw [respond, MailDisclosure.answered_state, MessagesService.sendEncryptedMessage]
      split
      · exact ⟨.refl _, rfl⟩
      · dsimp only
        split <;> exact ⟨.refl _, rfl⟩
  | markAsRead wanted address =>
      rw [respond]
      split
      · exact ⟨.refl _, rfl⟩
      · rw [MessagesService.markAsRead, Outcome.returns_state]
        split
        · exact ⟨.refl _, rfl⟩
        · split <;> exact ⟨.refl _, rfl⟩
  | deleteMessage wanted =>
      rw [respond, MessagesService.deleteMessage, Outcome.returns_state]
      split
      · exact ⟨.refl _, rfl⟩
      · split <;> exact ⟨.refl _, rfl⟩

theorem getIdentity_get (accounts : ApiLogin.Server) (address key : String) :
    (getIdentity DMAIL_DIR address true accounts).state.identities.get key =
      if key = address then
        accounts.identities.get key <|> heldBy (fileAt DMAIL_DIR (pathOf DMAIL_DIR key) accounts)
      else accounts.identities.get key := by
  rw [getIdentity]
  cases known : accounts.identities.get address with
  | some identity =>
      by_cases same : key = address
      · simp [same, known]
      · simp [same]
  | none =>
      simp only [Bool.true_eq_false, ↓reduceIte]
      cases found : fileAt DMAIL_DIR (pathOf DMAIL_DIR address) accounts with
      | holds stored =>
          rw [Outcome.returns_state, remember, OrderedMap.get_set]
          by_cases same : key = address
          · simp [same, known, found, heldBy]
          · simp [same]
      | _ =>
          by_cases same : key = address
          · simp [same, known, found, heldBy]
          · simp [same]

theorem getIdentity_files (accounts : ApiLogin.Server) (address : String) :
    (getIdentity DMAIL_DIR address true accounts).state =
      { accounts with
        identities := (getIdentity DMAIL_DIR address true accounts).state.identities } := by
  rw [getIdentity]
  split
  · rfl
  · simp only [Bool.true_eq_false, ↓reduceIte]
    split <;> rfl

variable (DMAIL_DIR) in
theorem recalled_eq (store : IdentityStore) (accounts : ApiLogin.Server) :
    recalled DMAIL_DIR store accounts =
        { accounts with identities := (recalled DMAIL_DIR store accounts).identities } ∧
      ∀ key, (recalled DMAIL_DIR store accounts).identities.get key =
        if key ∈ store.identities.entries.map Prod.fst then
          accounts.identities.get key <|> heldBy (fileAt DMAIL_DIR (pathOf DMAIL_DIR key) accounts)
        else accounts.identities.get key := by
  rw [recalled]
  generalize store.identities.entries.map Prod.fst = addresses
  induction addresses generalizing accounts with
  | nil => simp
  | cons address rest ih =>
      obtain ⟨kept, read⟩ := ih (getIdentity DMAIL_DIR address true accounts).state
      rw [List.foldl_cons]
      refine ⟨?_, fun key => ?_⟩
      · rw [kept, getIdentity_files]
      · have same : fileAt DMAIL_DIR (pathOf DMAIL_DIR key)
            (getIdentity DMAIL_DIR address true accounts).state =
              fileAt DMAIL_DIR (pathOf DMAIL_DIR key) accounts := by
          rw [getIdentity_files]
          rfl
        rw [read, same, getIdentity_get]
        by_cases own : key = address
        · subst own
          simp [Option.or_assoc]
        · simp [own]

theorem recalled_files (store : IdentityStore) (accounts : ApiLogin.Server) :
    (recalled DMAIL_DIR store accounts).files = accounts.files := by
  rw [(recalled_eq DMAIL_DIR store accounts).1]

/-- What has been read from the disk is in the server's memory as it is in the service's. -/
theorem service_recalled {server : Server} (loaded : Loaded (service DMAIL_DIR server).identityStore
    store) (node : P2PNodeService.Node) (db : SharedStorage.Database) :
    let after := service DMAIL_DIR ⟨recalled DMAIL_DIR store server.accounts, node, db⟩
    after.currentIdentity = (service DMAIL_DIR server).currentIdentity ∧
      after.identityStore.files = store.files ∧
      ∀ key, after.identityStore.identities.get key = store.identities.get key := by
  obtain ⟨kept, read⟩ := recalled_eq DMAIL_DIR store server.accounts
  refine ⟨?_, ?_, fun key => ?_⟩
  · rw [service, kept]
    rfl
  · rw [loaded.files, service, kept]
    rfl
  · have memory : (service DMAIL_DIR ⟨recalled DMAIL_DIR store server.accounts, node,
          db⟩).identityStore.identities.get key =
        if store.identities.get key = none then
          (service DMAIL_DIR server).identityStore.identities.get key
        else (service DMAIL_DIR server).identityStore.getIdentity key := by
      simp only [service, OrderedMap.get_mapValues, read, MessagesService.IdentityStore.getIdentity,
        OrderedMap.get_none_iff, ite_not]
      split
      · simp only [Option.orElse_eq_orElse, Option.orElse_eq_or, Option.map_or]
      · rfl
    rw [memory, MessagesService.IdentityStore.getIdentity]
    rcases loaded.memory key with same | ⟨absent, same⟩
    · rw [same]
      cases (service DMAIL_DIR server).identityStore.identities.get key with
      | none => rfl
      | some identity => rfl
    · rw [same, absent]
      cases (service DMAIL_DIR server).identityStore.files key with
      | none => rfl
      | some identity => rfl

/-- A request does to the server what the service does to its own part of it. -/
theorem service_request (call : Call) (contract : Option DMailRegistry.State) (now : Moment)
    (server : Server) :
    let after := service DMAIL_DIR (request P DMAIL_DIR call contract now server).state
    let own := (respond P (keyed contract server.accounts.registry call) now
      (service DMAIL_DIR server)).state
    after.currentIdentity = own.currentIdentity ∧ after.p2pNode = own.p2pNode ∧
      after.dhtStorage = own.dhtStorage ∧ after.identityStore.files = own.identityStore.files ∧
      ∀ key, after.identityStore.identities.get key = own.identityStore.identities.get key := by
  obtain ⟨loaded, current⟩ := respond_loaded P (service DMAIL_DIR server) now
    (keyed contract server.accounts.registry call)
  obtain ⟨kept, files, memory⟩ := service_recalled loaded
    (request P DMAIL_DIR call contract now server).state.p2pNode
    (request P DMAIL_DIR call contract now server).state.dhtStorage
  exact ⟨kept.trans current.symm, rfl, rfl, files, memory⟩

end Memory

section Accounts
variable {P bech32 DMAIL_DIR} {accounts : ApiLogin.Server} {identities : List ApiLogin.Identity}
  {calls : List Registration}

/-- Every file has a generated identity under its own address, and what is registered, in
    memory or in `identity.json` has such a file. -/
structure Backed (accounts : ApiLogin.Server) (identities : List ApiLogin.Identity)
    (calls : List Registration) : Prop where
  files : ∀ address identity, heldBy (accounts.files address) = some identity →
    identity ∈ identities ∧ identity.address = address
  legacy : ∀ identity, heldBy accounts.identityFile = some identity →
    heldBy (accounts.files identity.address) = some identity
  memory : ∀ key identity, '/' ∉ key.toList → accounts.identities.get key = some identity →
    heldBy (accounts.files key) = some identity
  registered : ∀ call ∈ calls, ∃ identity,
    heldBy (accounts.files call.dmailAddress) = some identity ∧
      call.encryptionKey = toHex identity.encryptionPublicKey
  registry : accounts.registry = RegistryService.replay calls

theorem heldBy_iff {file : File Stored} {identity : ApiLogin.Identity} :
    heldBy file = some identity ↔ ∃ stored, file = .holds stored ∧ stored.identity = identity := by
  cases file with
  | absent => simp [heldBy]
  | torn => simp [heldBy]
  | holds stored => simp [heldBy]

variable (P bech32) in
/-- Either a write fails, and whatever was written before it stays, or the identity is on the
    disk, in memory, registered and in use. -/
theorem createIdentity_cases (name : Option String) (draws : IdentityService.Draws) (disk : Disk)
    (now : Nat) (accounts : ApiLogin.Server) :
    let stored : Stored := ⟨IdentityService.generate P bech32 draws now, name⟩
    (∃ own legacy : Write, (legacy ≠ .untouched → own = .done) ∧
        createIdentity P bech32 name draws disk now accounts =
          .throws { accounts with
            files := Function.update accounts.files stored.identity.address
              (own.apply stored (accounts.files stored.identity.address))
            identityFile := legacy.apply stored accounts.identityFile } .rejected) ∨
      createIdentity P bech32 name draws disk now accounts =
        .returns { accounts with
          files := Function.update accounts.files stored.identity.address (.holds stored)
          identityFile := .holds stored
          identities := accounts.identities.set stored.identity.address stored.identity
          registry := RegistryService.registerLocal (registrationOf stored now) accounts.registry
          currentIdentity := some stored.identity } (ApiLogin.responseOf stored.identity name) := by
  obtain ⟨directory, own, legacy⟩ := disk
  cases directory with
  | false =>
      refine .inl ⟨.untouched, .untouched, fun touched => absurd rfl touched, ?_⟩
      simp only [Write.apply, Function.update_eq_self]
      rfl
  | true =>
      cases own with
      | done =>
          cases legacy with
          | done => exact .inr rfl
          | untouched => exact .inl ⟨.done, .untouched, fun _ => rfl, rfl⟩
          | torn => exact .inl ⟨.done, .torn, fun _ => rfl, rfl⟩
      | untouched => exact .inl ⟨.untouched, .untouched, fun touched => absurd rfl touched, rfl⟩
      | torn => exact .inl ⟨.torn, .untouched, fun touched => absurd rfl touched, rfl⟩

/-- A write to the file of a new address leaves every identity where it is. -/
theorem Backed.update_kept (backed : Backed accounts identities calls) {address : String}
    (fresh : ∀ identity ∈ identities, identity.address ≠ address) (file : File Stored)
    {key : String} {identity : ApiLogin.Identity}
    (held : heldBy (accounts.files key) = some identity) :
    heldBy (Function.update accounts.files address file key) = some identity := by
  obtain ⟨member, own⟩ := backed.files key identity held
  rw [Function.update_of_ne fun same => fresh identity member (own.trans same)]
  exact held

theorem Backed.update_files (backed : Backed accounts identities calls) (stored : Stored)
    {file : File Stored} (content : ∀ identity, heldBy file = some identity →
      heldBy (accounts.files stored.identity.address) = some identity ∨ identity = stored.identity)
    (address : String) (identity : ApiLogin.Identity)
    (held : heldBy (Function.update accounts.files stored.identity.address file address) =
      some identity) :
    identity ∈ stored.identity :: identities ∧ identity.address = address := by
  by_cases own : address = stored.identity.address
  · subst own
    rw [Function.update_self] at held
    rcases content identity held with before | rfl
    · obtain ⟨member, same⟩ := backed.files _ identity before
      exact ⟨List.mem_cons_of_mem _ member, same⟩
    · exact ⟨List.mem_cons_self, rfl⟩
  · rw [Function.update_of_ne own] at held
    obtain ⟨member, same⟩ := backed.files address identity held
    exact ⟨List.mem_cons_of_mem _ member, same⟩

theorem written_content (write : Write) (stored : Stored) (file : File Stored)
    (identity : ApiLogin.Identity) (held : heldBy (write.apply stored file) = some identity) :
    heldBy file = some identity ∨ identity = stored.identity := by
  cases write with
  | done => exact .inr (Option.some.inj held).symm
  | untouched => exact .inl held
  | torn => cases held

/-- A creation that fails leaves what was there, and a part of a new identity at most. -/
theorem Backed.fail (backed : Backed accounts identities calls) (stored : Stored)
    (fresh : ∀ identity ∈ identities, identity.address ≠ stored.identity.address)
    {own legacy : Write} (order : legacy ≠ .untouched → own = .done) :
    Backed { accounts with
      files := Function.update accounts.files stored.identity.address
        (own.apply stored (accounts.files stored.identity.address))
      identityFile := legacy.apply stored accounts.identityFile }
      (stored.identity :: identities) calls where
  files := backed.update_files stored (written_content own stored _)
  legacy := by
    intro identity held
    have before (old : heldBy accounts.identityFile = some identity) :=
      backed.update_kept fresh (own.apply stored (accounts.files stored.identity.address))
        (backed.legacy identity old)
    cases legacy with
    | untouched => exact before held
    | torn => cases held
    | done =>
        obtain rfl := order (by decide)
        cases held
        simp [Write.apply, heldBy]
  memory key identity plain known :=
    backed.update_kept fresh _ (backed.memory key identity plain known)
  registered call member := by
    obtain ⟨identity, held, key⟩ := backed.registered call member
    exact ⟨identity, backed.update_kept fresh _ held, key⟩
  registry := backed.registry

theorem Backed.create (backed : Backed accounts identities calls) (stored : Stored)
    (fresh : ∀ identity ∈ identities, identity.address ≠ stored.identity.address) (now : Nat) :
    Backed { accounts with
      files := Function.update accounts.files stored.identity.address (.holds stored)
      identityFile := .holds stored
      identities := accounts.identities.set stored.identity.address stored.identity
      registry := RegistryService.registerLocal (registrationOf stored now) accounts.registry
      currentIdentity := some stored.identity }
      (stored.identity :: identities) (registrationOf stored now :: calls) where
  files := backed.update_files stored (written_content .done stored _)
  legacy := by
    intro identity held
    cases held
    simp [heldBy]
  memory := by
    intro key identity plain known
    dsimp only at known ⊢
    rw [OrderedMap.get_set] at known
    split at known
    next same =>
      subst same
      cases known
      simp [heldBy]
    next => exact backed.update_kept fresh _ (backed.memory key identity plain known)
  registered call member := by
    rcases List.mem_cons.mp member with rfl | before
    · exact ⟨stored.identity, by simp [registrationOf, heldBy], rfl⟩
    · obtain ⟨identity, held, key⟩ := backed.registered call before
      exact ⟨identity, backed.update_kept fresh _ held, key⟩
  registry := by rw [RegistryService.replay, backed.registry]

theorem loadIdentity_holds {stored : Stored} (held : accounts.identityFile = .holds stored)
    (now : Nat) :
    loadIdentity now accounts = .returns
      { accounts with
        registry := RegistryService.registerLocal (registrationOf stored now) accounts.registry
        currentIdentity := some stored.identity } stored.identity.address := by
  rw [loadIdentity, held]

theorem Backed.load (backed : Backed accounts identities calls) {stored : Stored}
    (held : accounts.identityFile = .holds stored) (now : Nat) :
    Backed { accounts with
      registry := RegistryService.registerLocal (registrationOf stored now) accounts.registry
      currentIdentity := some stored.identity }
      identities (registrationOf stored now :: calls) where
  files := backed.files
  legacy := backed.legacy
  memory := backed.memory
  registered call member := by
    rcases List.mem_cons.mp member with rfl | before
    · exact ⟨stored.identity, backed.legacy _ (by rw [held]; rfl), rfl⟩
    · exact backed.registered call before
  registry := by rw [RegistryService.replay, backed.registry]

theorem Backed.remember (backed : Backed accounts identities calls) {address : String}
    {identity : ApiLogin.Identity}
    (held : '/' ∉ address.toList → heldBy (accounts.files address) = some identity) :
    Backed (remember address identity accounts) identities calls where
  files := backed.files
  legacy := backed.legacy
  memory := by
    intro key other plain known
    rw [ApiLogin.IdentityStoreService.remember, OrderedMap.get_set] at known
    split at known
    next same =>
      subst same
      cases known
      exact held plain
    next => exact backed.memory key other plain known
  registered := backed.registered
  registry := backed.registry

theorem Backed.getIdentity (backed : Backed accounts identities calls) (address : String) :
    Backed (getIdentity DMAIL_DIR address true accounts).state identities calls := by
  rw [ApiLogin.IdentityStoreService.getIdentity]
  split
  · exact backed
  · simp only [Bool.true_eq_false, ↓reduceIte]
    split
    next stored found =>
      refine backed.remember fun plain => ?_
      rw [fileAt_plain plain] at found
      rw [found]
      rfl
    next => exact backed

theorem Backed.recalled (backed : Backed accounts identities calls) (store : IdentityStore) :
    Backed (recalled DMAIL_DIR store accounts) identities calls := by
  rw [ApiServer.recalled]
  generalize store.identities.entries.map Prod.fst = addresses
  induction addresses generalizing accounts with
  | nil => exact backed
  | cons address rest ih => exact ih (backed.getIdentity address)

/-- Whatever is read as an identity is in the file of its own address. -/
theorem Backed.fileAt (backed : Backed accounts identities calls) {path : List String}
    {stored : Stored} (found : fileAt DMAIL_DIR path accounts = .holds stored) :
    heldBy (accounts.files stored.identity.address) = some stored.identity := by
  rw [ApiLogin.IdentityStoreService.fileAt] at found
  split at found
  · exact backed.legacy stored.identity (by rw [found]; rfl)
  · split at found
    · split at found
      · have held := heldBy_iff.mpr ⟨stored, found, rfl⟩
        rw [(backed.files _ _ held).2]
        exact held
      · cases found
    · cases found

variable (DMAIL_DIR) in
theorem loadFile_keeps (accounts : ApiLogin.Server) (file : String) :
    (loadFile DMAIL_DIR accounts file).files = accounts.files ∧
      (loadFile DMAIL_DIR accounts file).identityFile = accounts.identityFile ∧
      ∀ key, accounts.identities.has key = true →
        (loadFile DMAIL_DIR accounts file).identities.has key = true := by
  rw [loadFile]
  split
  · exact ⟨rfl, rfl, fun _ => id⟩
  · split
    · refine ⟨rfl, rfl, fun key known => ?_⟩
      rw [remember, OrderedMap.has, OrderedMap.get_set]
      split
      · rfl
      · exact known
    · exact ⟨rfl, rfl, fun _ => id⟩

theorem Backed.loadFile (backed : Backed accounts identities calls) (file : String) :
    Backed (loadFile DMAIL_DIR accounts file) identities calls := by
  rw [ApiLogin.IdentityStoreService.loadFile]
  split
  · exact backed
  · split
    next stored found => exact backed.remember fun _ => backed.fileAt found
    next => exact backed

variable (DMAIL_DIR) in
/-- A file that is listed is in memory after the loop. -/
theorem loadFiles_known (files : List String) {accounts : ApiLogin.Server} {address : String}
    (backed : Backed accounts identities calls) (plain : '/' ∉ address.toList)
    {identity : ApiLogin.Identity} (held : heldBy (accounts.files address) = some identity)
    (known : address ++ ".json" ∈ files ∨ accounts.identities.has address = true) :
    (files.foldl (loadFile DMAIL_DIR) accounts).identities.has address = true := by
  induction files generalizing accounts with
  | nil => exact known.resolve_left List.not_mem_nil
  | cons file rest ih =>
      obtain ⟨files, _, kept⟩ := loadFile_keeps DMAIL_DIR accounts file
      refine ih (backed.loadFile file) (by rw [files]; exact held) ?_
      rcases known with listed | before
      · rcases List.mem_cons.mp listed with rfl | later
        · obtain ⟨stored, found, rfl⟩ := heldBy_iff.mp held
          have read : fileAt DMAIL_DIR (pathOf DMAIL_DIR address) accounts = .holds stored :=
            (fileAt_plain plain).trans found
          rw [pathOf] at read
          right
          rw [loadFile, stem_json]
          simp only [Option.isNone_some, Bool.false_eq_true, ↓reduceIte, read]
          rw [remember, OrderedMap.has, (backed.files _ _ held).2, OrderedMap.get_set_self]
          rfl
        · exact .inl later
      · exact .inr (kept address before)

variable (DMAIL_DIR) in
theorem Backed.loadFiles (files : List String) {accounts : ApiLogin.Server}
    (backed : Backed accounts identities calls) :
    Backed (files.foldl (ApiLogin.IdentityStoreService.loadFile DMAIL_DIR) accounts) identities
        calls ∧
      (files.foldl (ApiLogin.IdentityStoreService.loadFile DMAIL_DIR) accounts).identityFile =
        accounts.identityFile ∧
      (files.foldl (ApiLogin.IdentityStoreService.loadFile DMAIL_DIR) accounts).files =
        accounts.files := by
  induction files generalizing accounts with
  | nil => exact ⟨backed, rfl, rfl⟩
  | cons file rest ih =>
      obtain ⟨files, legacy, _⟩ := loadFile_keeps DMAIL_DIR accounts file
      obtain ⟨after, same, others⟩ := ih (backed.loadFile file)
      exact ⟨after, same.trans legacy, others.trans files⟩

theorem Backed.restarted (backed : Backed accounts identities calls) :
    Backed (restarted accounts) identities [] where
  files := backed.files
  legacy := backed.legacy
  memory := by
    intro key identity plain known
    cases known
  registered call member := absurd member List.not_mem_nil
  registry := rfl

variable (DMAIL_DIR) in
/-- The identity in `identity.json` has its own file, so nothing is copied. -/
theorem Backed.restart (backed : Backed accounts identities calls)
    (plain : ∀ identity ∈ identities, '/' ∉ identity.address.toList) {listing : List String}
    (listed : ∀ address stored, accounts.files address = .holds stored →
      address ++ ".json" ∈ listing) (copy : Write) :
    Backed (loadAllIdentities DMAIL_DIR true (some listing) copy (ApiServer.restarted
        accounts)).state identities [] ∧
      (loadAllIdentities DMAIL_DIR true (some listing) copy (ApiServer.restarted
        accounts)).state.files = accounts.files := by
  obtain ⟨loaded, legacy, files⟩ := backed.restarted.loadFiles DMAIL_DIR listing
  rw [loadAllIdentities]
  simp only [Bool.true_eq_false, ↓reduceIte, Option.getD_some]
  split
  next stored found =>
    rw [legacy] at found
    have held := backed.legacy stored.identity (heldBy_iff.mpr ⟨stored, found, rfl⟩)
    obtain ⟨own, holds, _⟩ := heldBy_iff.mp held
    have known := loadFiles_known DMAIL_DIR listing backed.restarted
      (plain _ (backed.files _ _ held).1) held (.inl (listed _ own holds))
    rw [if_pos known]
    exact ⟨loaded, files⟩
  next => exact ⟨loaded, files⟩

/-- One event keeps the identities where they are, and registers what is on the disk. -/
theorem Backed.step {server : Server} (backed : Backed server.accounts identities calls)
    (plain : ∀ identity ∈ identities, '/' ∉ identity.address.toList) (input : Input)
    (fresh : ∀ made ∈ generated P bech32 input, ∀ identity ∈ identities,
      identity.address ≠ made.address) (lists : Lists input.1 server) :
    Backed (step P bech32 DMAIL_DIR server input.1 input.2).accounts
        (generated P bech32 input ++ identities)
        (ApiServer.registered P bech32 server input.1 input.2 calls) ∧
      ∀ key identity, heldBy (server.accounts.files key) = some identity →
        heldBy ((ApiServer.step P bech32 DMAIL_DIR server input.1 input.2).accounts.files key) =
          some identity := by
  obtain ⟨event, now⟩ := input
  cases event with
  | createIdentity name draws disk =>
      have own := fresh _ List.mem_cons_self
      simp only [ApiServer.step, ApiServer.registered]
      rcases createIdentity_cases P bech32 name draws disk now.ms server.accounts
          with ⟨written, legacy, order, failed⟩ | done
      · rw [failed]
        exact ⟨backed.fail ⟨_, name⟩ own order,
          fun key identity held => backed.update_kept own _ held⟩
      · rw [done]
        exact ⟨backed.create ⟨_, name⟩ own now.ms,
          fun key identity held => backed.update_kept own _ held⟩
  | loadIdentity =>
      simp only [ApiServer.step, ApiServer.registered]
      cases held : server.accounts.identityFile with
      | holds stored =>
          rw [loadIdentity_holds held]
          exact ⟨backed.load held now.ms, fun key identity held => held⟩
      | _ =>
          rw [loadIdentity, held]
          exact ⟨backed, fun key identity held => held⟩
  | request call contract =>
      refine ⟨backed.recalled _, fun key identity held => ?_⟩
      simp only [ApiServer.step, request, recalled_files]
      exact held
  | nodeChanges node => exact ⟨backed, fun key identity held => held⟩
  | cleanupExpired draws => exact ⟨backed, fun key identity held => held⟩
  | restarts listing copy =>
      obtain ⟨after, files⟩ := backed.restart DMAIL_DIR plain
        (lists listing copy rfl) copy
      refine ⟨after, fun key identity held => ?_⟩
      simp only [ApiServer.step, files]
      exact held

end Accounts

section Runs
variable {P bech32 DMAIL_DIR} {past : List Input}

theorem generated_plain (plain : PlainAddresses bech32) {past : List Input}
    {identity : ApiLogin.Identity} (member : identity ∈ past.flatMap (generated P bech32)) :
    '/' ∉ identity.address.toList := by
  obtain ⟨⟨event, now⟩, _, made⟩ := List.mem_flatMap.mp member
  cases event with
  | createIdentity name draws disk =>
      obtain rfl := List.mem_singleton.mp made
      exact plain _
  | _ => cases made

theorem Orderly.tail {input : Input} {earlier : List Input}
    (orderly : Orderly P bech32 DMAIL_DIR (input :: earlier)) :
    Orderly P bech32 DMAIL_DIR earlier ∧
      (∀ made ∈ generated P bech32 input, ∀ identity ∈ earlier.flatMap (generated P bech32),
        identity.address ≠ made.address) ∧ Lists input.1 (replay P bech32 DMAIL_DIR earlier) := by
  obtain ⟨addresses, listed⟩ := orderly
  obtain ⟨lists, others⟩ := eachInput_cons.mp listed
  rw [List.flatMap_cons, List.map_append] at addresses
  obtain ⟨_, distinct, apart⟩ := List.nodup_append.mp addresses
  exact ⟨⟨distinct, others⟩, fun made own identity member same =>
    apart _ (List.mem_map_of_mem own) _ (List.mem_map_of_mem member) same.symm, lists⟩

theorem Orderly.earlier {earlier : List Input} (later : List Input)
    (orderly : Orderly P bech32 DMAIL_DIR (later ++ earlier)) :
    Orderly P bech32 DMAIL_DIR earlier := by
  induction later with
  | nil => exact orderly
  | cons input rest ih => exact ih orderly.tail.1

/-- In every run, what is registered or in memory is on the disk. -/
theorem backed_replay (plain : PlainAddresses bech32) (orderly : Orderly P bech32 DMAIL_DIR past) :
    Backed (replay P bech32 DMAIL_DIR past).accounts (past.flatMap (generated P bech32))
      (registrations P bech32 DMAIL_DIR past) := by
  induction past with
  | nil =>
      refine ⟨?_, ?_, ?_, ?_, rfl⟩
      · intro address identity held
        cases held
      · intro identity held
        cases held
      · intro key identity _ known
        cases known
      · exact fun call member => absurd member List.not_mem_nil
  | cons input earlier ih =>
      obtain ⟨before, fresh, lists⟩ := orderly.tail
      exact ((ih before).step (fun _ => generated_plain plain) input fresh lists).1

/-- An identity on the disk stays there. -/
theorem held_kept (plain : PlainAddresses bech32) (later : List Input) {earlier : List Input}
    (orderly : Orderly P bech32 DMAIL_DIR (later ++ earlier)) {key : String}
    {identity : ApiLogin.Identity}
    (held : heldBy ((replay P bech32 DMAIL_DIR earlier).accounts.files key) = some identity) :
    heldBy ((replay P bech32 DMAIL_DIR (later ++ earlier)).accounts.files key) = some identity := by
  induction later with
  | nil => exact held
  | cons input rest ih =>
      obtain ⟨before, fresh, lists⟩ := orderly.tail
      exact ((backed_replay plain before).step (fun _ => generated_plain plain) input fresh lists).2
        key identity (ih before)

end Runs

end ApiServer

end Chainmail
