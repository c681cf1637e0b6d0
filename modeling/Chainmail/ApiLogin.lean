import Chainmail.AuthService
import Chainmail.LocalRegistry
import Chainmail.PackageAssumptions

/-!
Logging in to the API: `login` of `web/src/lib/api.ts`, with what the server does for it in
`identity.controller.ts`, `identity-store.service.ts` and `identity.service.ts`. A login is
three requests, and any others come in between. What a request meets on its way and on the
disk is an argument. The P2P node is left out, and so are the messages of the server.
-/

namespace Chainmail.ApiLogin

variable (P : Packages) (bech32 : String → Bytes → String) (E : Ethers)

structure Identity where
  address : String
  publicKey : Bytes
  privateKey : Bytes
  encryptionPublicKey : Bytes
  encryptionPrivateKey : Bytes
  routingToken : String
  createdAt : Nat

namespace IdentityService

def ADDRESS_PREFIX : String := "dm"

/-- What one call of `generate` draws. -/
structure Draws where
  privateKey : Bytes
  encryptionPrivateKey : Bytes
  routingToken : Bytes

/-- `bech32` stands for `encode` of a prefix and of the words of some bytes. -/
def deriveAddress (publicKey : Bytes) : String :=
  bech32 ADDRESS_PREFIX ((P.sha256 publicKey).take 20)

def generate (draws : Draws) (now : Nat) : Identity where
  address := deriveAddress P bech32 (P.ed25519PublicKey draws.privateKey)
  publicKey := P.ed25519PublicKey draws.privateKey
  privateKey := draws.privateKey
  encryptionPublicKey := P.x25519PublicKey draws.encryptionPrivateKey
  encryptionPrivateKey := draws.encryptionPrivateKey
  routingToken := toHex draws.routingToken
  createdAt := now

end IdentityService

section Files

inductive File (Content : Type) where
  | absent
  | torn
  | holds (content : Content)

/-- What comes of one `writeFile`. -/
inductive Write where
  | done
  | untouched
  | torn
deriving DecidableEq

def Write.apply {Content : Type} (content : Content) (file : File Content) : Write → File Content
  | done => .holds content
  | untouched => file
  | torn => .torn

/-- What one `createIdentity` meets on the disk. -/
structure Disk where
  directory : Bool
  ownFile : Write
  legacyFile : Write

end Files

section Server

/-- An identity as a file holds it. -/
structure Stored where
  identity : Identity
  name : Option String

/-- The files of the identities by address, and `identity.json`, are on the disk. -/
structure Server where
  auth : AuthService.Service
  identities : OrderedMap String Identity
  files : String → File Stored
  identityFile : File Stored
  registry : RegistryService.Registry
  currentIdentity : Option Identity

structure IdentityResponse where
  address : String
  publicKey : String
  encryptionPublicKey : String
  name : Option String
  createdAt : Nat

def responseOf (identity : Identity) (name : Option String) : IdentityResponse where
  address := identity.address
  publicKey := toBase64 identity.publicKey
  encryptionPublicKey := toBase64 identity.encryptionPublicKey
  name
  createdAt := identity.createdAt

namespace IdentityStoreService

def createIdentity (name : Option String) (draws : IdentityService.Draws) (disk : Disk) (now : Nat)
    (server : Server) : Outcome Server Failure Identity :=
  if disk.directory = false then .throws server .rejected
  else
    let identity := IdentityService.generate P bech32 draws now
    let server := { server with
      files := Function.update server.files identity.address
        (disk.ownFile.apply ⟨identity, name⟩ (server.files identity.address)) }
    if disk.ownFile ≠ .done then .throws server .rejected
    else
      let server := { server with
        identityFile := disk.legacyFile.apply ⟨identity, name⟩ server.identityFile }
      if disk.legacyFile ≠ .done then .throws server .rejected
      else
        .returns { server with identities := server.identities.set identity.address identity }
          identity

end IdentityStoreService

namespace IdentityController

def createIdentity (name : Option String) (draws : IdentityService.Draws) (disk : Disk) (now : Nat)
    (server : Server) : Outcome Server Failure IdentityResponse :=
  (IdentityStoreService.createIdentity P bech32 name draws disk now server).andThen
    fun identity server =>
      .returns
        { server with
          registry := RegistryService.registerLocal
            ⟨(AuthService.given name).getD identity.address, identity.address,
              toHex identity.publicKey, toHex identity.encryptionPublicKey, now⟩ server.registry
          currentIdentity := some identity }
        (responseOf identity name)

def getCurrentIdentity (server : Server) : Except Failure IdentityResponse :=
  match server.identityFile with
  | .absent => .error (.error "No identity found")
  | .torn => .error .syntaxError
  | .holds stored => .ok (responseOf stored.identity stored.name)

end IdentityController

end Server

section Client

/-- A login whose signature the server accepted, with the address it recovered. -/
structure Verified where
  wallet : String
  token : String
  address : String

/-- What `login` returns. -/
structure LoggedIn where
  token : String
  dmailAddress : String
  walletAddress : String
deriving DecidableEq

/-- The server, and the logins by the request they make next, the last finished one first. -/
structure World where
  server : Server
  creating : List Verified
  getting : List Verified
  finished : List LoggedIn

/-- A request of some login: `turn` says of which among those that make it next.
    A request that is not answered may have reached the server all the same. -/
inductive Event where
  | getChallenge (address : Option String) (draw : Bytes)
  | verify (wallet signature challenge : String) (draw : Bytes) (answered : Bool)
  | createIdentity (turn : Nat) (draws : IdentityService.Draws) (disk : Disk)
      (reached answered : Bool)
  | getIdentity (turn : Nat) (answered : Bool)

structure Request where
  now : Nat
  event : Event

def verify (wallet signature challenge : String) (draw : Bytes) (answered : Bool) (now : Nat)
    (world : World) : World :=
  let checked := AuthService.verifySignature E challenge signature (some wallet) now world.server.auth
  match checked.1 with
  | .error _ => { world with server := { world.server with auth := checked.2 } }
  | .ok address =>
      { world with
        server := { world.server with auth := AuthService.createSession address draw now checked.2 }
        creating := world.creating ++ if answered then [⟨wallet, toHex draw, address⟩] else [] }

def finish (login : Verified) (dmailAddress : String) (world : World) : World :=
  { world with finished := ⟨login.token, dmailAddress, login.address⟩ :: world.finished }

/-- An identity that could not be created might already exist, and is asked for next. -/
def createIdentity (login : Verified) (draws : IdentityService.Draws) (disk : Disk)
    (reached answered : Bool) (now : Nat) (world : World) : World :=
  if reached then
    let created := IdentityController.createIdentity P bech32 (some login.wallet) draws disk now
      world.server
    let world := { world with server := created.state }
    match created.result, answered with
    | .ok identity, true => finish login identity.address world
    | _, _ => { world with getting := world.getting ++ [login] }
  else { world with getting := world.getting ++ [login] }

def getIdentity (login : Verified) (answered : Bool) (world : World) : World :=
  match IdentityController.getCurrentIdentity world.server, answered with
  | .ok identity, true => finish login identity.address world
  | _, _ => finish login login.address world

def step (world : World) (request : Request) : World :=
  match request.event with
  | .getChallenge address draw =>
      { world with
        server := { world.server with
          auth := AuthService.generateChallenge address draw request.now world.server.auth } }
  | .verify wallet signature challenge draw answered =>
      verify E wallet signature challenge draw answered request.now world
  | .createIdentity turn draws disk reached answered =>
      match world.creating[turn]? with
      | none => world
      | some login =>
          createIdentity P bech32 login draws disk reached answered request.now
            { world with creating := world.creating.eraseIdx turn }
  | .getIdentity turn answered =>
      match world.getting[turn]? with
      | none => world
      | some login =>
          getIdentity login answered { world with getting := world.getting.eraseIdx turn }

/-- The world after some requests to a server, the last one first. -/
def replay (start : Server) : List Request → World
  | [] => ⟨start, [], [], []⟩
  | request :: earlier => step P bech32 E (replay start earlier) request

end Client

section Mailbox

/-- All logins of one wallet return one dMail address. -/
def KeepsMailbox (finished : List LoggedIn) : Prop :=
  ∀ one ∈ finished, ∀ other ∈ finished, one.walletAddress = other.walletAddress →
    one.dmailAddress = other.dmailAddress

/-- The identity is created, and the client hears of it. -/
def Completes (disk : Disk) (reached answered : Bool) : Prop :=
  disk = ⟨true, .done, .done⟩ ∧ reached = true ∧ answered = true

def Earlier (world : World) (login : Verified) (result : LoggedIn) : Prop :=
  result ∈ world.finished ∧ result.walletAddress = login.address

/-- A login that creates an identity is the first of its wallet; and where one asks for the
    identity, or makes do with the wallet's address, that is what the wallet was told before. -/
def Keeps (start : Server) (request : Request) (earlier : List Request) : Prop :=
  let world := replay P bech32 E start earlier
  match request.event with
  | .createIdentity turn _ disk reached answered =>
      Completes disk reached answered →
        ∀ login ∈ world.creating[turn]?, ∀ result, ¬ Earlier world login result
  | .getIdentity turn answered =>
      ∀ login ∈ world.getting[turn]?, ∀ result, Earlier world login result →
        match answered, world.server.identityFile with
        | true, .holds stored => result.dmailAddress = stored.identity.address
        | _, _ => result.dmailAddress = login.address
  | _ => True

/-- No identity is generated under an address that a login was told before. -/
def Fresh (start : Server) (request : Request) (earlier : List Request) : Prop :=
  ∀ turn draws disk reached answered,
    request.event = .createIdentity turn draws disk reached answered →
    ∀ result ∈ (replay P bech32 E start earlier).finished,
      (IdentityService.generate P bech32 draws request.now).address ≠ result.dmailAddress

/-- All requests to a server so far, the last one first. -/
structure History where
  start : Server
  past : List Request
  fresh : EachInput (Fresh P bech32 E start) past

variable {P bech32 E} {start : Server}

theorem keepsMailbox_cons {result : LoggedIn} {finished : List LoggedIn} :
    KeepsMailbox (result :: finished) ↔ KeepsMailbox finished ∧
      ∀ before ∈ finished, before.walletAddress = result.walletAddress →
        before.dmailAddress = result.dmailAddress := by
  constructor
  · intro keeps
    refine ⟨fun one first other second => ?_, fun before member => ?_⟩
    · exact keeps one (List.mem_cons_of_mem _ first) other (List.mem_cons_of_mem _ second)
    · exact keeps before (List.mem_cons_of_mem _ member) result List.mem_cons_self
  · rintro ⟨keeps, agrees⟩ one first other second same
    rcases List.mem_cons.mp first with rfl | here
    · rcases List.mem_cons.mp second with rfl | there
      · rfl
      · exact (agrees other there same.symm).symm
    · rcases List.mem_cons.mp second with rfl | there
      · exact agrees one here same
      · exact keeps one here other there same

theorem verify_finished (wallet signature challenge : String) (draw : Bytes) (answered : Bool)
    (now : Nat) (world : World) :
    (verify E wallet signature challenge draw answered now world).finished = world.finished := by
  rw [verify]
  split <;> rfl

theorem createIdentity_incomplete {login : Verified} {draws : IdentityService.Draws} {disk : Disk}
    {reached answered : Bool} {now : Nat} {world : World}
    (incomplete : ¬ Completes disk reached answered) :
    (createIdentity P bech32 login draws disk reached answered now world).finished =
      world.finished := by
  obtain ⟨directory, ownFile, legacyFile⟩ := disk
  cases reached with
  | false => rfl
  | true =>
      cases answered with
      | false =>
          simp only [createIdentity, if_true]
          split
          · rename_i impossible
            cases impossible
          · rfl
      | true =>
          -- One of the three writes fails, so the controller rejects.
          have stopped : ∃ failure, (IdentityController.createIdentity P bech32 (some login.wallet)
              draws ⟨directory, ownFile, legacyFile⟩ now world.server).result = .error failure := by
            cases directory with
            | false => exact ⟨_, rfl⟩
            | true =>
                cases ownFile with
                | done =>
                    cases legacyFile with
                    | done => exact absurd ⟨rfl, rfl, rfl⟩ incomplete
                    | _ => exact ⟨_, rfl⟩
                | _ => exact ⟨_, rfl⟩
          obtain ⟨failure, stopped⟩ := stopped
          simp only [createIdentity, if_true, stopped]

theorem createIdentity_complete (login : Verified) (draws : IdentityService.Draws) (now : Nat)
    (world : World) :
    (createIdentity P bech32 login draws ⟨true, .done, .done⟩ true true now world).finished =
      ⟨login.token, (IdentityService.generate P bech32 draws now).address, login.address⟩ ::
        world.finished := rfl

theorem getIdentity_finished (login : Verified) (answered : Bool) (world : World) :
    ∃ dmailAddress, (getIdentity login answered world).finished =
        ⟨login.token, dmailAddress, login.address⟩ :: world.finished ∧
      ∀ known : String, known = dmailAddress ↔
        match answered, world.server.identityFile with
        | true, .holds stored => known = stored.identity.address
        | _, _ => known = login.address := by
  cases read : world.server.identityFile with
  | holds stored =>
      cases answered with
      | true =>
          refine ⟨stored.identity.address, ?_, fun known => Iff.rfl⟩
          simp [getIdentity, IdentityController.getCurrentIdentity, read, finish, responseOf]
      | false =>
          refine ⟨login.address, ?_, fun known => Iff.rfl⟩
          simp [getIdentity, IdentityController.getCurrentIdentity, read, finish]
  | _ =>
      refine ⟨login.address, ?_, fun known => ?_⟩
      · simp [getIdentity, IdentityController.getCurrentIdentity, read, finish]
      · cases answered <;> exact Iff.rfl

/-- One more request keeps the mailboxes just when it is one that keeps them. -/
theorem keepsMailbox_step {request : Request} {earlier : List Request}
    (fresh : Fresh P bech32 E start request earlier)
    (keeps : KeepsMailbox (replay P bech32 E start earlier).finished) :
    KeepsMailbox (replay P bech32 E start (request :: earlier)).finished ↔
      Keeps P bech32 E start request earlier := by
  obtain ⟨now, event⟩ := request
  cases event with
  | getChallenge address draw => exact iff_of_true keeps trivial
  | verify wallet signature challenge draw answered =>
      refine iff_of_true ?_ trivial
      rw [replay, step, verify_finished]
      exact keeps
  | createIdentity turn draws disk reached answered =>
      simp only [replay, step, Keeps]
      cases taken : (replay P bech32 E start earlier).creating[turn]? with
      | none => exact iff_of_true keeps fun _ login absent => nomatch absent
      | some login =>
          -- Only a creation that is answered tells the wallet an address.
          by_cases complete : Completes disk reached answered
          · obtain ⟨rfl, rfl, rfl⟩ := complete
            simp only [createIdentity_complete, keepsMailbox_cons]
            constructor
            · rintro ⟨_, agrees⟩ _ other member result ⟨inside, same⟩
              cases Option.mem_some_iff.mp member
              exact fresh turn draws _ true true rfl result inside (agrees result inside same).symm
            · intro first
              refine ⟨keeps, fun result inside same => ?_⟩
              exact absurd ⟨inside, same⟩ (first ⟨rfl, rfl, rfl⟩ login rfl result)
          · simp only [createIdentity_incomplete complete]
            exact iff_of_true keeps fun complete' => absurd complete' complete
  | getIdentity turn answered =>
      simp only [replay, step, Keeps]
      cases taken : (replay P bech32 E start earlier).getting[turn]? with
      | none => exact iff_of_true keeps fun login absent => nomatch absent
      | some login =>
          obtain ⟨dmailAddress, told, known⟩ := getIdentity_finished login answered
            { replay P bech32 E start earlier with
              getting := (replay P bech32 E start earlier).getting.eraseIdx turn }
          simp only [told, keepsMailbox_cons]
          constructor
          · rintro ⟨_, agrees⟩ other member result ⟨inside, same⟩
            cases Option.mem_some_iff.mp member
            exact (known _).mp (agrees result inside same)
          · intro kept
            refine ⟨keeps, fun result inside same => ?_⟩
            exact (known _).mpr (kept login rfl result ⟨inside, same⟩)

/-- In every run, all logins of one wallet return one address, at every moment of it, exactly
    when each login that creates an identity is the first of its wallet, and each other one
    finds what the wallet was told before. -/
theorem mailbox_kept_iff (P : Packages) (bech32 : String → Bytes → String) (E : Ethers)
    (history : History P bech32 E) :
    Always (fun past => KeepsMailbox (replay P bech32 E history.start past).finished) history.past ↔
      EachInput (Keeps P bech32 E history.start) history.past := by
  apply always_iff_each history.fresh
  · intro one absent
    cases absent
  · intro request earlier ordered keeps
    exact keepsMailbox_step (eachInput_cons.mp ordered).1 keeps

end Mailbox

/-! Alice logs in to a new server, and the next day she logs in again. -/

section Sample

def sampleBech32 (start : String) (bytes : Bytes) : String := start ++ "1" ++ toHex bytes

/-- A signature is the address of its wallet. -/
def signedByWallet : Ethers where
  getBytes := fun _ => none
  verifyMessage := fun _ signature => some signature

def newServer : Server where
  auth := AuthService.start
  identities := OrderedMap.empty
  files := fun _ => .absent
  identityFile := .absent
  registry := RegistryService.start
  currentIdentity := none

/-- The requests of one login, of which each is answered, the last one first. -/
def aliceLogsIn (day : Nat) (seed : UInt8) : List Request :=
  [⟨day + 2, .createIdentity 0 ⟨[seed], [seed], [seed]⟩ ⟨true, .done, .done⟩ true true⟩,
    ⟨day + 1, .verify "0xA11CE" "0xA11CE" (toHex [seed]) [seed] true⟩,
    ⟨day, .getChallenge (some "0xA11CE") [seed]⟩]

def aliceReturns : List Request := aliceLogsIn 86400000 2 ++ aliceLogsIn 0 1

def aliceAnswer (seed : UInt8) : LoggedIn :=
  ⟨toHex [seed], sampleBech32 "dm" ((samplePackages.sha256 [seed]).take 20), "0xA11CE"⟩

/-- The server just before Alice's second identity is made. -/
theorem aliceReturns_before : (replay samplePackages sampleBech32 signedByWallet newServer
    aliceReturns.tail).finished = [aliceAnswer 1] := by
  decide +kernel

theorem aliceReturns_finished : (replay samplePackages sampleBech32 signedByWallet newServer
    aliceReturns).finished = [aliceAnswer 2, aliceAnswer 1] := by
  decide +kernel

theorem aliceReturns_fresh :
    EachInput (Fresh samplePackages sampleBech32 signedByWallet newServer) aliceReturns := by
  simp only [aliceReturns, aliceLogsIn, List.cons_append, List.nil_append, eachInput_cons]
  refine ⟨?_, ?_, ?_, ?_, ?_, ?_, eachInput_nil⟩
  · rintro turn draws disk reached answered called result inside
    cases called
    obtain rfl := List.mem_singleton.mp (aliceReturns_before ▸ inside)
    decide +kernel
  · rintro _ _ _ _ _ called
    cases called
  · rintro _ _ _ _ _ called
    cases called
  · rintro turn draws disk reached answered called result inside
    cases inside
  · rintro _ _ _ _ _ called
    cases called
  · rintro _ _ _ _ _ called
    cases called

theorem second_login_moves_mailbox :
    ∃ history : History samplePackages sampleBech32 signedByWallet,
      ¬ KeepsMailbox (replay samplePackages sampleBech32 signedByWallet history.start
        history.past).finished := by
  refine ⟨⟨newServer, aliceReturns, aliceReturns_fresh⟩, fun keeps => ?_⟩
  rw [aliceReturns_finished] at keeps
  have moved := keeps (aliceAnswer 2) List.mem_cons_self (aliceAnswer 1)
    (List.mem_cons_of_mem _ List.mem_cons_self) rfl
  exact absurd moved (by decide +kernel)

end Sample

end Chainmail.ApiLogin
