import Chainmail.UsernameRegistry
import Mathlib.Logic.Function.Iterate

/-!
Calls of `register` at once. Each stops at the awaits: it reads who has the name, checks
what it read, and then puts its record three times, and other calls come in between.
-/

namespace Chainmail.UsernameRegistry

open JsText

variable (language : LowerCase) (verifyMessage : String → Option Json → Option String)

/-- Where a call is. The normalized name is read, and then the record is put under the
    username, the dMail address and the wallet. -/
inductive Progress where
  | reading (normalizedUsername : String)
  | puttingUser (record : Registration)
  | puttingDmail (record : Registration)
  | puttingWallet (record : Registration)
  | done (result : Except Failure Registration)

structure Running where
  call : Call
  progress : Progress

structure Concurrent where
  registry : Registry
  calls : List Running

inductive Event where
  | register (call : Call)
  | advance (turn now : Nat)

/-- A call up to its first await. -/
def begin (call : Call) : Running :=
  match validateUsername language call.username with
  | .error message => ⟨call, .done (.error (.error message))⟩
  | .ok normalizedUsername => ⟨call, .reading normalizedUsername⟩

/-- A call from one await to the next, and what it does to the registry. -/
def advance (now : Nat) (registry : Registry) (running : Running) : Progress × Registry :=
  match running.progress with
  | .reading normalizedUsername =>
      match verifiedRecord language verifyMessage registry.domain normalizedUsername running.call
        (getByUsername language normalizedUsername registry) now with
      | .error failure => (.done (.error failure), registry)
      | .ok record => (.puttingUser record, registry)
  | .puttingUser record => (.puttingDmail record, putUser record registry)
  | .puttingDmail record => (.puttingWallet record, putDmail record registry)
  | .puttingWallet record => (.done (.ok record), putWallet record registry)
  | .done result => (.done result, registry)

def step (state : Concurrent) : Event → Concurrent
  | .register call => { state with calls := state.calls ++ [begin language call] }
  | .advance turn now =>
      match state.calls[turn]? with
      | none => state
      | some running =>
          let next := advance language verifyMessage now state.registry running
          ⟨next.2, state.calls.set turn { running with progress := next.1 }⟩

/-- The last event comes first. -/
def interleaved (domain : String) : List Event → Concurrent
  | [] => ⟨⟨domain, OrderedMap.empty⟩, []⟩
  | event :: earlier => step language verifyMessage (interleaved domain earlier) event

/-- Left alone from its read to its end, a call does what `register` does in one go. -/
theorem advance_alone {call : Call} {name : String} (now : Nat) (registry : Registry)
    (valid : validateUsername language call.username = .ok name) :
    (fun held : Progress × Registry =>
        advance language verifyMessage now held.2 ⟨call, held.1⟩)^[4] (.reading name, registry) =
      (.done (register language verifyMessage call now registry).result,
        (register language verifyMessage call now registry).state) := by
  simp only [register, valid, Function.iterate_succ, Function.iterate_zero, Function.comp_apply,
    id_eq, advance]
  cases verifiedRecord language verifyMessage registry.domain name call
      (getByUsername language name registry) now with
  | error failure => rfl
  | ok record => rfl

/-- The call at this turn has succeeded with the record. -/
def Succeeded (state : Concurrent) (turn : Nat) (record : Registration) : Prop :=
  ∃ call, state.calls[turn]? = some ⟨call, .done (.ok record)⟩

/-- At most one call has succeeded for a username, and the name leads to its record. -/
structure Owned (state : Concurrent) : Prop where
  once : ∀ turn other record second, Succeeded state turn record →
    Succeeded state other second → record.username = second.username → turn = other
  kept : ∀ turn record, Succeeded state turn record → ∀ username,
    language.toLowerCase username = record.username →
      getByUsername language username state.registry = some record

/-- A call that is about to put its record finds nothing under the username. -/
def StillFree (state : Concurrent) (event : Event) : Prop :=
  ∀ turn now call record, event = .advance turn now →
    state.calls[turn]? = some ⟨call, .puttingUser record⟩ →
      state.registry.db.get ("user:" ++ record.username) = none

section Invariant
variable {language verifyMessage} {state : Concurrent} {domain : String}

/-- The record that a call has put under the username. -/
def Progress.put : Progress → Option Registration
  | .puttingDmail record => some record
  | .puttingWallet record => some record
  | .done (.ok record) => some record
  | _ => none

/-- The record that a call is going to put, or has put. -/
def Progress.made : Progress → Option Registration
  | .puttingUser record => some record
  | progress => progress.put

def PutBy (state : Concurrent) (turn : Nat) (record : Registration) : Prop :=
  ∃ running, state.calls[turn]? = some running ∧ running.progress.put = some record

/-- Every username is a normalized one, and what was put is still there and has one owner. -/
structure Sound (language : LowerCase) (state : Concurrent) : Prop where
  reads : ∀ running ∈ state.calls, ∀ name, running.progress = .reading name →
    '@' ∉ name.toList
  made : ∀ running ∈ state.calls, ∀ record, running.progress.made = some record →
    '@' ∉ record.username.toList
  held : ∀ turn record, PutBy state turn record →
    state.registry.db.get ("user:" ++ record.username) = some record
  once : ∀ turn other record second, PutBy state turn record → PutBy state other second →
    record.username = second.username → turn = other

theorem Sound.owned (sound : Sound language state) : Owned language state := by
  have put {turn : Nat} {record : Registration} (succeeded : Succeeded state turn record) :
      PutBy state turn record := by
    obtain ⟨call, found⟩ := succeeded
    exact ⟨_, found, rfl⟩
  constructor
  · intro turn other record second first again same
    exact sound.once turn other record second (put first) (put again) same
  · intro turn record succeeded username lowered
    obtain ⟨call, found⟩ := succeeded
    have free := sound.made _ (List.mem_of_getElem? found) record rfl
    rw [getByUsername_lowered lowered free, sound.held turn record (put ⟨call, found⟩)]

theorem putBy_set {turn : Nat} {running : Running} (found : state.calls[turn]? = some running)
    (registry : Registry) (progress : Progress) (other : Nat) (record : Registration) :
    PutBy ⟨registry, state.calls.set turn { running with progress }⟩ other record ↔
      if other = turn then progress.put = some record else PutBy state other record := by
  obtain ⟨inside, _⟩ := List.getElem?_eq_some_iff.mp found
  by_cases own : other = turn
  · subst own
    simp [PutBy, inside]
  · simp [PutBy, own, List.getElem?_set_ne (Ne.symm own)]

theorem mem_calls_set {turn : Nat} {running other : Running}
    (member : other ∈ state.calls.set turn running) : other = running ∨ other ∈ state.calls := by
  rcases List.mem_or_eq_of_mem_set member with before | new
  · exact .inr before
  · exact .inl new

/-- A call that puts nothing under a username keeps what holds. -/
theorem Sound.proceeds {turn : Nat} {running : Running} {registry : Registry}
    {progress : Progress} (sound : Sound language state)
    (found : state.calls[turn]? = some running) (same : progress.put = running.progress.put)
    (reads : ∀ name, progress = .reading name → '@' ∉ name.toList)
    (made : ∀ record, progress.made = some record → '@' ∉ record.username.toList)
    (names : ∀ name, registry.db.get ("user:" ++ name) = state.registry.db.get ("user:" ++ name)) :
    Sound language ⟨registry, state.calls.set turn { running with progress }⟩ := by
  have unchanged : ∀ other record,
      PutBy ⟨registry, state.calls.set turn { running with progress }⟩ other record ↔
        PutBy state other record := by
    intro other record
    rw [putBy_set found]
    by_cases own : other = turn
    · rw [if_pos own, same, own]
      simp [PutBy, found]
    · rw [if_neg own]
  constructor
  case reads =>
    intro other member name reading
    rcases mem_calls_set member with rfl | before
    · exact reads name reading
    · exact sound.reads other before name reading
  case made =>
    intro other member record makes
    rcases mem_calls_set member with rfl | before
    · exact made record makes
    · exact sound.made other before record makes
  case held =>
    intro other record put
    rw [names, sound.held other record ((unchanged other record).mp put)]
  case once =>
    intro first second record next put again
    exact sound.once first second record next ((unchanged first record).mp put)
      ((unchanged second next).mp again)

/-- A call that puts its record under a free username becomes the owner. -/
theorem Sound.claims {turn : Nat} {call : Call} {record : Registration}
    (sound : Sound language state) (found : state.calls[turn]? = some ⟨call, .puttingUser record⟩)
    (free : state.registry.db.get ("user:" ++ record.username) = none) :
    Sound language ⟨putUser record state.registry,
      state.calls.set turn ⟨call, .puttingDmail record⟩⟩ := by
  have named (name : String) : "user:" ++ name = "user:" ++ record.username ↔ name = record.username :=
    String.append_right_inj _
  -- Whoever has put a record of this name would have left it there.
  have new : ∀ other second, PutBy state other second → second.username ≠ record.username := by
    intro other second put same
    have held := sound.held other second put
    rw [same, free] at held
    cases held
  have whose := putBy_set found (putUser record state.registry) (.puttingDmail record)
  constructor
  case reads =>
    intro other member name reading
    rcases mem_calls_set member with rfl | before
    · cases reading
    · exact sound.reads other before name reading
  case made =>
    intro other member second makes
    rcases mem_calls_set member with rfl | before
    · exact sound.made _ (List.mem_of_getElem? found) second makes
    · exact sound.made other before second makes
  case held =>
    intro other second put
    have owner := (whose other second).mp put
    simp only [putUser, OrderedMap.get_set, named]
    by_cases own : other = turn
    · rw [if_pos own] at owner
      cases owner
      rw [if_pos rfl]
    · rw [if_neg own] at owner
      rw [if_neg (new other second owner), sound.held other second owner]
  case once =>
    intro first second left right put again same
    have leftOwner := (whose first left).mp put
    have rightOwner := (whose second right).mp again
    by_cases own : first = turn <;> by_cases other : second = turn
    · rw [own, other]
    · rw [if_pos own] at leftOwner
      rw [if_neg other] at rightOwner
      cases leftOwner
      exact absurd same.symm (new second right rightOwner)
    · rw [if_neg own] at leftOwner
      rw [if_pos other] at rightOwner
      cases rightOwner
      exact absurd same (new first left leftOwner)
    · rw [if_neg own] at leftOwner
      rw [if_neg other] at rightOwner
      exact sound.once first second left right leftOwner rightOwner same

theorem begin_spec (language : LowerCase) (call : Call) :
    (∃ failure, begin language call = ⟨call, .done (.error failure)⟩) ∨
      ∃ name, begin language call = ⟨call, .reading name⟩ ∧ '@' ∉ name.toList := by
  rw [begin]
  cases valid : validateUsername language call.username with
  | error message => exact .inl ⟨_, rfl⟩
  | ok name =>
      obtain ⟨_, _, _, free⟩ := validateUsername_ok valid
      exact .inr ⟨name, rfl, free⟩

theorem Sound.begins (sound : Sound language state) (call : Call) :
    Sound language { state with calls := state.calls ++ [begin language call] } := by
  have fresh : (begin language call).progress.put = none := by
    rcases begin_spec language call with ⟨failure, same⟩ | ⟨name, same, _⟩ <;>
    · rw [same]
      rfl
  have old {turn : Nat} {record : Registration}
      (put : PutBy { state with calls := state.calls ++ [begin language call] } turn record) :
      PutBy state turn record := by
    obtain ⟨running, found, owns⟩ := put
    rw [List.getElem?_append] at found
    split at found
    · exact ⟨running, found, owns⟩
    · have new := List.mem_singleton.mp (List.mem_of_getElem? found)
      rw [new, fresh] at owns
      cases owns
  constructor
  case reads =>
    intro running member name reading
    rcases List.mem_append.mp member with before | new
    · exact sound.reads running before name reading
    · rw [List.mem_singleton.mp new] at reading
      rcases begin_spec language call with ⟨failure, same⟩ | ⟨own, same, free⟩
      · rw [same] at reading
        cases reading
      · rw [same] at reading
        cases reading
        exact free
  case made =>
    intro running member record makes
    rcases List.mem_append.mp member with before | new
    · exact sound.made running before record makes
    · rw [List.mem_singleton.mp new] at makes
      rcases begin_spec language call with ⟨failure, same⟩ | ⟨own, same, _⟩ <;>
      · rw [same] at makes
        cases makes
  case held => exact fun turn record put => sound.held turn record (old put)
  case once =>
    exact fun turn other record second put again => sound.once turn other record second (old put) (old again)

/-- A record that is made has the name that was read. -/
theorem verifiedRecord_username {name : String} {call : Call} {existing : Option Registration}
    {now : Nat} {record : Registration}
    (made : verifiedRecord language verifyMessage domain name call existing now = .ok record) :
    record.username = name := by
  unfold verifiedRecord at made
  split at made
  · cases made
  · split at made
    · cases made
    · split at made
      · cases made
      · cases made
        rfl

theorem sound_step (event : Event) (sound : Sound language state)
    (free : StillFree state event) : Sound language (step language verifyMessage state event) := by
  cases event with
  | register call => exact sound.begins call
  | advance turn now =>
      rw [step]
      cases found : state.calls[turn]? with
      | none => exact sound
      | some running =>
          obtain ⟨call, progress⟩ := running
          have member := List.mem_of_getElem? found
          -- A call goes through its phases one at a time, and others may run in between.
          cases progress with
          | reading name =>
              have plain := sound.reads _ member name rfl
              dsimp only [advance]
              cases checked : verifiedRecord language verifyMessage state.registry.domain name call
                  (getByUsername language name state.registry) now with
              | error failure =>
                  exact sound.proceeds found rfl (fun _ same => by cases same)
                    (fun _ same => by cases same) fun _ => rfl
              | ok record =>
                  refine sound.proceeds found rfl (fun _ same => by cases same) ?_ fun _ => rfl
                  intro own same
                  cases same
                  rw [verifiedRecord_username checked]
                  exact plain
          | puttingUser record => exact sound.claims found (free turn now call record rfl found)
          | puttingDmail record =>
              refine sound.proceeds found rfl (fun _ same => by cases same)
                (sound.made _ member) fun name => ?_
              exact OrderedMap.get_set_of_ne _ _ (user_key_apart name _).1
          | puttingWallet record =>
              refine sound.proceeds found rfl (fun _ same => by cases same)
                (sound.made _ member) fun name => ?_
              exact OrderedMap.get_set_of_ne _ _ (user_key_apart name _).2
          | done result =>
              exact sound.proceeds found rfl (fun _ same => by cases same)
                (sound.made _ member) fun _ => rfl

end Invariant

/-- In every run in which no call puts its record under a username that has been taken
    since it looked, every username has one owner at every moment, and leads to it. -/
theorem one_owner_of_still_free (language : LowerCase)
    (verifyMessage : String → Option Json → Option String) (domain : String) (past : List Event)
    (free : EachInput (fun event earlier =>
      StillFree (interleaved language verifyMessage domain earlier) event) past) :
    Always (fun past => Owned language (interleaved language verifyMessage domain past)) past := by
  have sound (past : List Event)
      (free : EachInput (fun event earlier =>
        StillFree (interleaved language verifyMessage domain earlier) event) past) :
      Sound language (interleaved language verifyMessage domain past) := by
    induction past with
    | nil =>
        constructor
        · exact fun _ member => absurd member List.not_mem_nil
        · exact fun _ member => absurd member List.not_mem_nil
        · rintro turn record ⟨_, found, _⟩
          cases found
        · rintro turn _ record _ ⟨_, found, _⟩
          cases found
    | cons event earlier ih =>
        obtain ⟨now, before⟩ := eachInput_cons.mp free
        exact sound_step event (ih before) now
  exact fun earlier suffix => (sound earlier (free.suffix suffix)).owned

section Sample

/-- Two wallets ask for a name at once. Both find it free before either has put its record. -/
def twoRegistrations : List Event :=
  [.advance 1 4, .advance 1 4, .advance 1 4, .advance 0 3, .advance 0 3, .advance 0 3,
    .advance 1 2, .advance 0 1, .register (sampleCall "0xB" "alice"),
    .register (sampleCall "0xA" "alice")]

theorem two_owners : ¬ ∀ (language : LowerCase)
    (verifyMessage : String → Option Json → Option String) (domain : String) (past : List Event),
    Always (fun past => Owned language (interleaved language verifyMessage domain past)) past := by
  intro claimed
  have owned := claimed asciiLower sampleVerify DEFAULT_DOMAIN twoRegistrations twoRegistrations
    (List.suffix_refl _)
  have first : Succeeded (interleaved asciiLower sampleVerify DEFAULT_DOMAIN twoRegistrations) 0
      (sampleRegistration "0xA" "alice" 1) := ⟨sampleCall "0xA" "alice", by rfl⟩
  have second : Succeeded (interleaved asciiLower sampleVerify DEFAULT_DOMAIN twoRegistrations) 1
      (sampleRegistration "0xB" "alice" 2) := ⟨sampleCall "0xB" "alice", by rfl⟩
  exact absurd (owned.once 0 1 _ _ first second rfl) (by decide)

/-- Two calls run side by side, and a third one looks once the first has put its record. -/
def interleavedRegistrations : List Event :=
  [.advance 1 10, .advance 0 9, .advance 1 8, .advance 2 7, .advance 0 6, .advance 1 5,
    .advance 0 4, .advance 1 3, .advance 0 2, .register (sampleCall "0xC" "alice"),
    .register (sampleCall "0xB" "bob"), .register (sampleCall "0xA" "alice")]

theorem stillFree_of_register (state : Concurrent) (call : Call) :
    StillFree state (.register call) := by
  intro turn now owner record same
  cases same

theorem stillFree_of_other {state : Concurrent} {turn now : Nat} (call : Call)
    (progress : Progress) (found : state.calls[turn]? = some ⟨call, progress⟩)
    (other : ∀ record, progress ≠ .puttingUser record) : StillFree state (.advance turn now) := by
  intro own time owner record same putting
  cases same
  rw [found] at putting
  cases putting
  exact absurd rfl (other record)

theorem stillFree_of_absent {state : Concurrent} {turn now : Nat} (call : Call)
    (record : Registration) (found : state.calls[turn]? = some ⟨call, .puttingUser record⟩)
    (absent : state.registry.db.get ("user:" ++ record.username) = none) :
    StillFree state (.advance turn now) := by
  intro own time owner other same putting
  cases same
  rw [found] at putting
  cases putting
  exact absent

/-- Of the three calls, those for different names succeed, and each name leads to its record. -/
theorem interleaved_calls_owned :
    Always (fun past => Owned asciiLower
      (interleaved asciiLower sampleVerify DEFAULT_DOMAIN past)) interleavedRegistrations ∧
    Succeeded (interleaved asciiLower sampleVerify DEFAULT_DOMAIN interleavedRegistrations) 0
      (sampleRegistration "0xA" "alice" 2) ∧
    Succeeded (interleaved asciiLower sampleVerify DEFAULT_DOMAIN interleavedRegistrations) 1
      (sampleRegistration "0xB" "bob" 3) := by
  let alice := sampleRegistration "0xA" "alice" 2
  let bob := sampleRegistration "0xB" "bob" 3
  refine ⟨?_, ⟨sampleCall "0xA" "alice", by rfl⟩, ⟨sampleCall "0xB" "bob", by rfl⟩⟩
  refine one_owner_of_still_free asciiLower sampleVerify DEFAULT_DOMAIN interleavedRegistrations ?_
  simp only [interleavedRegistrations, eachInput_cons, eachInput_nil, stillFree_of_register, and_true]
  refine ⟨?_, ?_, ?_, ?_, ?_, ?_, ?_, ?_, ?_⟩
  · exact stillFree_of_other _ (.puttingWallet bob) (by rfl) (by simp)
  · exact stillFree_of_other _ (.puttingWallet alice) (by rfl) (by simp)
  · exact stillFree_of_other _ (.puttingDmail bob) (by rfl) (by simp)
  · exact stillFree_of_other _ (.reading "alice") (by rfl) (by simp)
  · exact stillFree_of_other _ (.puttingDmail alice) (by rfl) (by simp)
  · exact stillFree_of_absent _ bob (by rfl) (by rfl)
  · exact stillFree_of_absent _ alice (by rfl) (by rfl)
  · exact stillFree_of_other _ (.reading "bob") (by rfl) (by simp)
  · exact stillFree_of_other _ (.reading "alice") (by rfl) (by simp)

end Sample

end Chainmail.UsernameRegistry
