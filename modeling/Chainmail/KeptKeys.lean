import Chainmail.SecureKeyStore

/-!
What the key store is for: a private key is given back to whoever holds the key that it was
stored under, and to nobody else. The store of the code, which seals and opens bytes, gives its
callers the same answers as one that simply keeps the private keys and compares.
-/

namespace Chainmail.SecureStorage

variable {P : Packages}

/-- A private key and the key that it is kept under, with the nonce that was drawn for it. -/
structure Kept where
  key : Bytes
  nonce : Nonce
  privateKey : Bytes
  key_length : key.length = KEY_LENGTH

/-- Nothing is sealed here; the key is looked at instead. -/
def ideal : Sealing Kept where
  encrypt plaintext key nonce :=
    match key with
    | none => .error .rejected
    | some bytes =>
        if length : bytes.length = KEY_LENGTH then .ok ⟨bytes, nonce, plaintext.encoded, length⟩
        else .error .rejected
  decrypt kept key := if key = some kept.key then .ok kept.privateKey else .error .rejected

variable (P) in
/-- The bytes that the code has in the place of a kept key. -/
def rendered (kept : Kept) : Bytes :=
  kept.nonce.bytes ++ P.chachaEncrypt kept.key kept.nonce.bytes kept.privateKey

theorem ideal_encrypt_ok {plaintext : Data} {key : Option Bytes} {nonce : Nonce} {kept : Kept}
    (sealed : ideal.encrypt plaintext key nonce = .ok kept) :
    key = some kept.key ∧ kept.nonce = nonce ∧ kept.privateKey = plaintext.encoded := by
  cases key with
  | none => cases sealed
  | some bytes =>
      simp only [ideal] at sealed
      split at sealed
      · cases sealed
        exact ⟨rfl, rfl, rfl⟩
      · cases sealed

theorem encrypt_rendered (plaintext : Data) (key : Option Bytes) (nonce : Nonce) :
    (chacha P).encrypt plaintext key nonce = (ideal.encrypt plaintext key nonce).map (rendered P) := by
  rcases cipherFor_cases key with ⟨bytes, rfl, length, usable⟩ | ⟨unusable, refused⟩
  · simp only [chacha, encryptData, ideal, usable, dif_pos length]
    rfl
  · simp only [chacha, encryptData, refused]
    cases key with
    | none => rfl
    | some bytes =>
        simp only [ideal, dif_neg (unusable bytes rfl)]
        rfl

theorem decrypt_rendered (roundTrips : ChachaRoundTrips P) (commits : ChachaCommits P)
    (kept : Kept) (key : Option Bytes) :
    (chacha P).decrypt (rendered P kept) key = ideal.decrypt kept key := by
  simp only [chacha, rendered, decryptData_append, ideal]
  by_cases own : key = some kept.key
  · subst own
    rw [cipherFor_ok_iff.mpr ⟨rfl, kept.key_length⟩, ok_bind, roundTrips _ _ _ kept.nonce.length_eq,
      accepted_some, if_pos rfl]
  · rw [if_neg own]
    rcases cipherFor_cases key with ⟨bytes, rfl, _, usable⟩ | ⟨_, refused⟩
    · rw [usable, ok_bind]
      cases opened : P.chachaDecrypt bytes kept.nonce.bytes
          (P.chachaEncrypt kept.key kept.nonce.bytes kept.privateKey) with
      | none => rfl
      | some text => exact absurd (congrArg some (commits _ _ _ _ _ opened)) own
    · rw [refused]
      rfl

namespace SecureKeyStore

section Rendering
variable {Entry Other : Type} (render : Entry → Other)

def Get.map : Get Entry → Get Other
  | .asked name => .asked name
  | .found name encrypted => .found name (encrypted.map render)
  | .done => .done

/-- The same store, with every entry shown in another form. -/
def State.map (state : State Entry) : State Other where
  arrays := state.arrays
  storageKey := state.storageKey
  unlocked := state.unlocked
  db key := (state.db key).map render
  writes := state.writes.map fun write => (write.1, write.2.map render)
  gets := state.gets.map (Get.map render)

variable {S : Sealing Other} {T : Sealing Entry} {render}

/-- Stores that seal alike stay alike, whatever happens. -/
theorem step_map
    (sealed : ∀ plaintext key nonce,
      S.encrypt plaintext key nonce = (T.encrypt plaintext key nonce).map render)
    (state : State Entry) (input : Input) :
    step S (state.map render) input = (step T state input).map render := by
  cases input with
  | assign array content => rfl
  | unlock key => rfl
  | lock => rfl
  | storePrivateKey name privateKey nonce =>
      have memory : keyInMemory (state.map render) = keyInMemory state := rfl
      simp only [step, storePrivateKey, memory, sealed]
      cases unlocked : state.unlocked with
      | false => simp [State.map, unlocked]
      | true =>
          cases T.encrypt privateKey (keyInMemory state) nonce with
          | error failure => simp [State.map, unlocked, Except.map]
          | ok encrypted => simp [State.map, unlocked, Except.map]
  | deletePrivateKey name => simp [step, deletePrivateKey, State.map]
  | getPrivateKey name =>
      simp only [step, getPrivateKey]
      cases unlocked : state.unlocked <;> simp [State.map, unlocked, Get.map]
  | lands place =>
      simp only [step, lands, State.map, List.getElem?_map]
      cases state.writes[place]? with
      | none => rfl
      | some write =>
          simp only [Option.map_some, State.mk.injEq, true_and, and_true]
          refine ⟨?_, List.eraseIdx_map _ _ _⟩
          funext key
          by_cases same : key = write.1
          · subst same
            simp
          · simp [Function.update_of_ne same]
  | reads call =>
      simp only [step, reads, State.map, List.getElem?_map]
      cases state.gets[call]? with
      | none => rfl
      | some get => cases get <;> simp [Get.map, List.map_set]
  | resumes call =>
      simp only [step, resumes, State.map, List.getElem?_map]
      cases state.gets[call]? with
      | none => rfl
      | some get => cases get <;> simp [Get.map, List.map_set]

theorem replay_map
    (sealed : ∀ plaintext key nonce,
      S.encrypt plaintext key nonce = (T.encrypt plaintext key nonce).map render)
    (storageKey : Option Reference) (past : List Input) :
    replay S storageKey past = (replay T storageKey past).map render := by
  induction past with
  | nil => rfl
  | cons input earlier ih => rw [replay, ih, step_map sealed, replay]

theorem reply_map
    (sealed : ∀ plaintext key nonce,
      S.encrypt plaintext key nonce = (T.encrypt plaintext key nonce).map render)
    (opened : ∀ entry key, S.decrypt (render entry) key = T.decrypt entry key)
    (state : State Entry) (input : Input) :
    reply S (state.map render) input = reply T state input := by
  have memory : keyInMemory (state.map render) = keyInMemory state := rfl
  have open_ : (state.map render).unlocked = state.unlocked := rfl
  cases input with
  | storePrivateKey name privateKey nonce =>
      simp only [reply, storePrivateKey, memory, open_, sealed]
      cases state.unlocked with
      | false => rfl
      | true => cases T.encrypt privateKey (keyInMemory state) nonce <;> rfl
  | getPrivateKey name =>
      simp only [reply, getPrivateKey, open_]
      cases state.unlocked <;> rfl
  | resumes call =>
      simp only [reply, answer, memory]
      rw [State.map, List.getElem?_map]
      cases state.gets[call]? with
      | none => rfl
      | some get =>
          cases get with
          | asked name => rfl
          | done => rfl
          | found name encrypted =>
              cases encrypted with
              | none => rfl
              | some entry => simp only [Option.map_some, Get.map, opened]
  | _ => rfl

end Rendering

/-- In every run, in whatever order writes land and reads come back and whatever is done to
    the key meanwhile, the store of the code replies as one that keeps the private keys
    themselves and hands each out to the key that it was stored under. -/
theorem replies_ideal (roundTrips : ChachaRoundTrips P) (commits : ChachaCommits P)
    (storageKey : Option Reference) (past : List Input) :
    replies (chacha P) storageKey past = replies ideal storageKey past := by
  induction past with
  | nil => rfl
  | cons input earlier ih =>
      rw [replies, replies, ih, replay_map encrypt_rendered,
        reply_map encrypt_rendered (decrypt_rendered roundTrips commits)]

section Sample

def sampleNonce : Nonce := ⟨sampleCipherDraws.nonce, sampleCipherDraws.nonce_length⟩

/-- A key is stored and asked for, while its place in memory is the first array. -/
def sampleRun : List Input :=
  [.reads 0, .getPrivateKey "identity", .lands 0,
    .storePrivateKey "identity" (.bytes [1, 2, 3]) sampleNonce, .unlock (some 0),
    .assign 0 (List.replicate 32 7)]

theorem sample_replies : replies (chacha samplePackages) none (.resumes 0 :: sampleRun) =
    replies ideal none (.resumes 0 :: sampleRun) :=
  replies_ideal sample_roundtrips sample_commits none _

end Sample

section Origins

/-- The entry was made by a store under its name, with the key that was in memory then. -/
def Stored (storageKey : Option Reference) (past : List Input) (key : String) (kept : Kept) : Prop :=
  ∃ later name privateKey earlier, past = later ++ .storePrivateKey name privateKey kept.nonce :: earlier ∧
    keyOf name = key ∧ kept.privateKey = privateKey.encoded ∧
    keyInMemory (replay ideal storageKey earlier) = some kept.key ∧
    (replay ideal storageKey earlier).unlocked = true

/-- Every entry that the store has, wherever it is, was stored under the name it goes by. -/
structure Originates (storageKey : Option Reference) (past : List Input) (state : State Kept) :
    Prop where
  db : ∀ key kept, state.db key = some kept → Stored storageKey past key kept
  writes : ∀ key kept, (key, some kept) ∈ state.writes → Stored storageKey past key kept
  gets : ∀ name kept, .found name (some kept) ∈ state.gets → Stored storageKey past (keyOf name) kept

variable {storageKey : Option Reference} {past : List Input} {state : State Kept} {input : Input}

theorem Stored.later {key : String} {kept : Kept} (stored : Stored storageKey past key kept)
    (input : Input) : Stored storageKey (input :: past) key kept := by
  obtain ⟨later, name, privateKey, earlier, rfl, rest⟩ := stored
  exact ⟨input :: later, name, privateKey, earlier, rfl, rest⟩

theorem Originates.later (originates : Originates storageKey past state) (input : Input) :
    Originates storageKey (input :: past) state where
  db key kept found := (originates.db key kept found).later input
  writes key kept member := (originates.writes key kept member).later input
  gets name kept member := (originates.gets name kept member).later input

theorem originates_step (originates : Originates storageKey past (replay ideal storageKey past))
    (input : Input) :
    Originates storageKey (input :: past) (replay ideal storageKey (input :: past)) := by
  have before := originates.later input
  rw [replay]
  cases input with
  | assign array content => exact ⟨before.db, before.writes, before.gets⟩
  | unlock key => exact ⟨before.db, before.writes, before.gets⟩
  | lock => exact ⟨before.db, before.writes, before.gets⟩
  | storePrivateKey name privateKey nonce =>
      simp only [step, storePrivateKey]
      split
      · exact before
      · rename_i unlocked
        split
        · exact before
        · rename_i entry sealed
          refine ⟨before.db, fun key kept member => ?_, before.gets⟩
          rcases List.mem_append.mp member with old | new
          · exact before.writes key kept old
          · cases List.mem_singleton.mp new
            obtain ⟨memory, rfl, own⟩ := ideal_encrypt_ok sealed
            exact ⟨[], name, privateKey, past, rfl, rfl, own, memory, by simpa using unlocked⟩
  | deletePrivateKey name =>
      refine ⟨before.db, fun key kept member => ?_, before.gets⟩
      rcases List.mem_append.mp member with old | new
      · exact before.writes key kept old
      · cases List.mem_singleton.mp new
  | getPrivateKey name =>
      simp only [step, getPrivateKey]
      split
      · exact before
      · refine ⟨before.db, before.writes, fun other kept member => ?_⟩
        rcases List.mem_append.mp member with old | new
        · exact before.gets other kept old
        · cases List.mem_singleton.mp new
  | lands place =>
      simp only [step, lands]
      split
      · exact before
      · rename_i key entry found
        refine ⟨fun other kept held => ?_, fun other kept member => ?_, before.gets⟩
        · dsimp only at held
          by_cases same : other = key
          · subst same
            rw [Function.update_self] at held
            subst held
            exact before.writes other kept (List.mem_of_getElem? found)
          · rw [Function.update_of_ne same] at held
            exact before.db other kept held
        · exact before.writes other kept (List.mem_of_mem_eraseIdx member)
  | reads call =>
      simp only [step, reads]
      split
      · rename_i name asked
        refine ⟨before.db, before.writes, fun other kept member => ?_⟩
        rcases List.mem_or_eq_of_mem_set member with old | new
        · exact before.gets other kept old
        · obtain ⟨rfl, found⟩ := Get.found.inj new
          exact before.db _ kept found.symm
      · exact before
  | resumes call =>
      simp only [step, resumes]
      split
      · refine ⟨before.db, before.writes, fun other kept member => ?_⟩
        rcases List.mem_or_eq_of_mem_set member with old | new
        · exact before.gets other kept old
        · cases new
      · exact before

theorem originates (storageKey : Option Reference) (past : List Input) :
    Originates storageKey past (replay ideal storageKey past) := by
  induction past with
  | nil => constructor <;> simp [replay, constructed]
  | cons input earlier ih => exact originates_step ih input

theorem keyInMemory_chacha (storageKey : Option Reference) (past : List Input) :
    keyInMemory (replay (chacha P) storageKey past) = keyInMemory (replay ideal storageKey past) := by
  rw [replay_map encrypt_rendered]
  rfl

/-- In every run a private key that a call gets back is one that was stored under the name it
    asked for, while the store was unlocked with a key of the bytes that are in memory now. -/
theorem returned_key_stored (roundTrips : ChachaRoundTrips P) (commits : ChachaCommits P)
    (storageKey : Option Reference) {past : List Input} {call : Nat} {returned : Bytes}
    (answered : answer (chacha P) call (replay (chacha P) storageKey past) =
      some (.ok (some returned))) :
    ∃ name encrypted later privateKey nonce earlier,
      (replay (chacha P) storageKey past).gets[call]? = some (.found name encrypted) ∧
        past = later ++ .storePrivateKey name privateKey nonce :: earlier ∧
        privateKey.encoded = returned ∧
        (replay (chacha P) storageKey earlier).unlocked = true ∧
        keyInMemory (replay (chacha P) storageKey earlier) =
          keyInMemory (replay (chacha P) storageKey past) := by
  have same := reply_map encrypt_rendered (decrypt_rendered roundTrips commits)
    (replay ideal storageKey past) (.resumes call)
  have memory := keyInMemory_chacha (P := P) storageKey past
  rw [replay_map encrypt_rendered] at answered ⊢
  have idealAnswer : answer ideal call (replay ideal storageKey past) = some (.ok (some returned)) :=
    same.symm.trans answered
  rw [State.map, List.getElem?_map]
  unfold answer at idealAnswer
  split at idealAnswer
  · cases idealAnswer
  · rename_i name kept found
    obtain ⟨later, own, privateKey, earlier, rfl, named, encoded, memoryThen, unlocked⟩ :=
      (originates storageKey past).gets name kept (List.mem_of_getElem? found)
    have opened : keyInMemory (replay ideal storageKey
          (later ++ .storePrivateKey own privateKey kept.nonce :: earlier)) = some kept.key ∧
        kept.privateKey = returned := by
      simp only [ideal, Option.some.injEq] at idealAnswer
      split at idealAnswer
      · rename_i memoryNow
        cases idealAnswer
        exact ⟨memoryNow, rfl⟩
      · cases idealAnswer
    have sameName : own = name := (String.append_right_inj _).mp named
    subst sameName
    refine ⟨own, _, later, privateKey, kept.nonce, earlier, by rw [found]; rfl, rfl,
      encoded.symm.trans opened.2, ?_, ?_⟩
    · rw [replay_map encrypt_rendered]
      exact unlocked
    · rw [keyInMemory_chacha, memoryThen]
      exact opened.1.symm
  · cases idealAnswer

theorem sample_returned : ∃ name encrypted later privateKey nonce earlier,
    (replay (chacha samplePackages) none sampleRun).gets[0]? = some (.found name encrypted) ∧
      sampleRun = later ++ .storePrivateKey name privateKey nonce :: earlier ∧
      privateKey.encoded = [1, 2, 3] ∧
      (replay (chacha samplePackages) none earlier).unlocked = true ∧
      keyInMemory (replay (chacha samplePackages) none earlier) =
        keyInMemory (replay (chacha samplePackages) none sampleRun) :=
  returned_key_stored sample_roundtrips sample_commits none (by rfl)

end Origins

section Locked
variable {Entry : Type} {S : Sealing Entry} {storageKey : Option Reference}
  {after before : List Input} {array : Reference} {state : State Entry}

variable (S state) in
theorem storePrivateKey_keeps (name : String) (privateKey : Data) (nonce : Nonce) :
    (storePrivateKey S name privateKey nonce state).state.arrays = state.arrays ∧
      (storePrivateKey S name privateKey nonce state).state.storageKey = state.storageKey ∧
      (storePrivateKey S name privateKey nonce state).state.unlocked = state.unlocked := by
  unfold storePrivateKey
  split
  · exact ⟨rfl, rfl, rfl⟩
  · split <;> exact ⟨rfl, rfl, rfl⟩

variable (S state) in
/-- An array changes only where the program writes to it, or a lock zeroes it. -/
theorem step_arrays (input : Input) (foreign : ∀ content, input ≠ .assign array content) :
    (step S state input).arrays array = state.arrays array ∨
      (step S state input).arrays array = secureZero (state.arrays array) := by
  cases input with
  | assign other content =>
      have apart : array ≠ other := fun same => foreign content (by rw [same])
      exact .inl (Function.update_of_ne apart _ _)
  | lock =>
      simp only [step, lock]
      cases state.storageKey with
      | none => exact .inl rfl
      | some own =>
          by_cases same : array = own
          · subst same
            exact .inr (Function.update_self _ _ _)
          · exact .inl (Function.update_of_ne same _ _)
  | storePrivateKey name privateKey nonce =>
      exact .inl (congrFun (storePrivateKey_keeps S state name privateKey nonce).1 array)
  | getPrivateKey name =>
      simp only [step, getPrivateKey]
      split <;> exact .inl rfl
  | lands place =>
      simp only [step, lands]
      split <;> exact .inl rfl
  | reads call =>
      simp only [step, reads]
      split <;> exact .inl rfl
  | resumes call =>
      simp only [step, resumes]
      split <;> exact .inl rfl
  | unlock key => exact .inl rfl
  | deletePrivateKey name => exact .inl rfl

/-- Only `unlock` and `lock` change whether there is a key. -/
theorem step_locked (input : Input) (stays : ∀ key, input ≠ .unlock key)
    (locked : state.unlocked = false ∧ state.storageKey = none) :
    (step S state input).unlocked = false ∧ (step S state input).storageKey = none := by
  cases input with
  | unlock key => exact absurd rfl (stays key)
  | lock => exact ⟨rfl, rfl⟩
  | storePrivateKey name privateKey nonce =>
      obtain ⟨_, key, flag⟩ := storePrivateKey_keeps S state name privateKey nonce
      exact ⟨flag.trans locked.1, key.trans locked.2⟩
  | getPrivateKey name =>
      simp only [step, getPrivateKey]
      split <;> exact locked
  | lands place =>
      simp only [step, lands]
      split <;> exact locked
  | reads call =>
      simp only [step, reads]
      split <;> exact locked
  | resumes call =>
      simp only [step, resumes]
      split <;> exact locked
  | assign array content => exact locked
  | deletePrivateKey name => exact locked

theorem zeroed_stays (held : (replay S storageKey before).storageKey = some array)
    (untouched : ∀ input ∈ after, ∀ content, input ≠ .assign array content) :
    (replay S storageKey (after ++ .lock :: before)).arrays array =
      secureZero ((replay S storageKey before).arrays array) := by
  induction after with
  | nil => simp [replay, step, lock, held]
  | cons input rest ih =>
      obtain ⟨foreign, others⟩ := List.forall_mem_cons.mp untouched
      have zeros := ih others
      rw [List.cons_append, replay]
      rcases step_arrays S (replay S storageKey (rest ++ .lock :: before)) input foreign with
        same | zeroed
      · rw [same, zeros]
      · rw [zeroed, zeros]
        simp [secureZero]

theorem locked_stays (stays : ∀ input ∈ after, ∀ key, input ≠ .unlock key) :
    (replay S storageKey (after ++ .lock :: before)).unlocked = false ∧
      (replay S storageKey (after ++ .lock :: before)).storageKey = none := by
  induction after with
  | nil => exact ⟨rfl, rfl⟩
  | cons input rest ih =>
      obtain ⟨now, others⟩ := List.forall_mem_cons.mp stays
      exact step_locked input now (ih others)

/-- In every run, once the store was locked: until the next unlock nothing is stored, asked for or
    opened; the array that it had the key in holds zeros until the program writes to it; and
    where the store is unlocked with that array again, whatever it stores opens under zeros. -/
theorem lock_wipes (roundTrips : ChachaRoundTrips P) (storageKey : Option Reference)
    (after before : List Input) :
    let locking := replay (chacha P) storageKey before
    let now := replay (chacha P) storageKey (after ++ .lock :: before)
    ((∀ input ∈ after, ∀ key, input ≠ .unlock key) →
        (∀ name privateKey nonce,
          storePrivateKey (chacha P) name privateKey nonce now = .throws now locked) ∧
        (∀ name, getPrivateKey name now = .throws now locked) ∧
        ∀ call bytes, answer (chacha P) call now ≠ some (.ok (some bytes))) ∧
      ∀ array, locking.storageKey = some array →
        (∀ input ∈ after, ∀ content, input ≠ .assign array content) →
        now.arrays array = secureZero (locking.arrays array) ∧
        ((locking.arrays array).length = KEY_LENGTH → now.storageKey = some array →
          now.unlocked = true → ∀ name privateKey nonce, ∃ encrypted,
            storePrivateKey (chacha P) name privateKey nonce now =
                .returns { now with writes := now.writes ++ [(keyOf name, some encrypted)] } () ∧
              decryptData P encrypted (some (List.replicate KEY_LENGTH 0)) =
                .ok privateKey.encoded) := by
  intro locking now
  constructor
  · intro stays
    obtain ⟨closed, keyless⟩ : now.unlocked = false ∧ now.storageKey = none := locked_stays stays
    refine ⟨fun name privateKey nonce => by simp [storePrivateKey, closed],
      fun name => by simp [getPrivateKey, closed], fun call bytes => ?_⟩
    have memory : keyInMemory now = none := by simp [keyInMemory, keyless]
    unfold answer
    rw [memory]
    split
    · simp
    · -- Without a key the cipher throws, whatever was found.
      simp [chacha, decryptData, cipherFor, accepted, bind, Except.bind, Except.map]
    · simp
  · intro array held untouched
    have zeros : now.arrays array = secureZero (locking.arrays array) := zeroed_stays held untouched
    refine ⟨zeros, fun length again open_ name privateKey nonce => ?_⟩
    have memory : keyInMemory now = some (List.replicate KEY_LENGTH 0) := by
      rw [keyInMemory, again, Option.map_some, zeros, secureZero, length]
    have usable : cipherFor (some (List.replicate KEY_LENGTH 0)) =
        .ok (List.replicate KEY_LENGTH 0) :=
      cipherFor_ok_iff.mpr ⟨rfl, List.length_replicate⟩
    refine ⟨nonce.bytes ++ P.chachaEncrypt (List.replicate KEY_LENGTH 0) nonce.bytes
      privateKey.encoded, ?_, ?_⟩
    · simp only [storePrivateKey, open_, memory, chacha, encryptData, usable]
      rfl
    · rw [decryptData_append, usable, ok_bind, roundTrips _ _ _ nonce.length_eq, accepted_some]

theorem sample_lock_wipes :
    (replay (chacha samplePackages) none ([] ++ .lock :: sampleRun)).arrays 0 =
      List.replicate 32 0 := by
  have wiped := (lock_wipes sample_roundtrips none [] sampleRun).2 0 rfl
  exact (wiped (by simp)).1

end Locked

end SecureKeyStore
end Chainmail.SecureStorage
