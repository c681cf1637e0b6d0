/-!
Runs of a transition relation, and the one induction every safety result uses:
what the initial states satisfy and every step keeps holds in every reachable
state. Results that look back are about histories of inputs.
-/

namespace Chainmail

universe u v
variable {State : Type u}

inductive Reachable (initial : State → Prop) (step : State → State → Prop) : State → Prop
  | start {state : State} : initial state → Reachable initial step state
  | next {before after : State} :
      Reachable initial step before → step before after → Reachable initial step after

theorem Reachable.invariant {initial : State → Prop} {step : State → State → Prop}
    {holds : State → Prop} (base : ∀ state, initial state → holds state)
    (kept : ∀ before after, holds before → step before after → holds after)
    {state : State} (reached : Reachable initial step state) : holds state := by
  induction reached with
  | start initially => exact base _ initially
  | next _ taken ih => exact kept _ _ ih taken

-- What never stops growing grows past every bound.
theorem grows_past {measure : Nat → Nat} {first : Nat}
    (progress : ∀ n, first ≤ n → ∃ later, n ≤ later ∧ measure n < measure later) (bound : Nat) :
    ∃ n, first ≤ n ∧ bound ≤ measure n := by
  induction bound with
  | zero => exact ⟨first, Nat.le_refl _, Nat.zero_le _⟩
  | succ bound ih =>
      obtain ⟨n, after, reached⟩ := ih
      obtain ⟨later, onward, grown⟩ := progress n after
      exact ⟨later, Nat.le_trans after onward, Nat.lt_of_le_of_lt reached grown⟩

/-! A history is the list of the inputs so far, the last of them first. -/

section Histories
variable {Input : Type u} {holds : List Input → Prop} {kept sent : Input → List Input → Prop}

/-- `holds` at every moment up to the last input. -/
def Always (holds : List Input → Prop) (past : List Input) : Prop :=
  ∀ earlier, earlier <:+ past → holds earlier

/-- `kept` by every input, given the ones before it. -/
def EachInput (kept : Input → List Input → Prop) (past : List Input) : Prop :=
  ∀ input earlier, input :: earlier <:+ past → kept input earlier

theorem always_cons {input : Input} {past : List Input} :
    Always holds (input :: past) ↔ holds (input :: past) ∧ Always holds past := by
  simp only [Always, List.suffix_cons_iff, or_imp, forall_and, forall_eq]

theorem eachInput_nil : EachInput kept [] := by
  intro input earlier suffix
  simp at suffix

theorem eachInput_cons {input : Input} {past : List Input} :
    EachInput kept (input :: past) ↔ kept input past ∧ EachInput kept past := by
  simp [EachInput, List.suffix_cons_iff, or_imp, forall_and]

theorem EachInput.suffix {past earlier : List Input} (each : EachInput kept past)
    (suffix : earlier <:+ past) : EachInput kept earlier :=
  fun _ _ before => each _ _ (before.trans suffix)

-- Where one more input keeps a property just when the input is `kept`, so do all of them.
theorem always_iff_each_kept {past : List Input} (ordered : EachInput sent past) (base : holds [])
    (step : ∀ input earlier, EachInput sent (input :: earlier) → EachInput kept earlier →
      holds earlier → (holds (input :: earlier) ↔ kept input earlier)) :
    Always holds past ↔ EachInput kept past := by
  induction past with
  | nil =>
      refine iff_of_true (fun earlier suffix => ?_) eachInput_nil
      rw [List.suffix_nil.mp suffix]
      exact base
  | cons input earlier ih =>
      have before := ih (eachInput_cons.mp ordered).2
      rw [always_cons, eachInput_cons, before]
      refine and_congr_left fun each => step input earlier ordered each ?_
      exact before.mpr each earlier (List.suffix_refl _)

theorem always_iff_each {past : List Input} (ordered : EachInput sent past) (base : holds [])
    (step : ∀ input earlier, EachInput sent (input :: earlier) → holds earlier →
      (holds (input :: earlier) ↔ kept input earlier)) :
    Always holds past ↔ EachInput kept past :=
  always_iff_each_kept ordered base fun input earlier free _ => step input earlier free

-- Where the inputs that keep a machine sound are the ones that keep a property of sound states.
theorem always_foldr_iff {State : Type v} {step : Input → State → State} {start : State}
    {sound holds : State → Prop} {kept : Input → State → Prop} (base : sound start)
    (gives : ∀ state, sound state → holds state)
    (onward : ∀ input state, sound state → kept input state → sound (step input state))
    (only : ∀ input state, sound state → holds (step input state) → kept input state)
    (past : List Input) : Always (fun earlier => holds (earlier.foldr step start)) past ↔
      EachInput (fun input earlier => kept input (earlier.foldr step start)) past := by
  have always_sound : ∀ earlier : List Input,
      EachInput (fun input before => kept input (before.foldr step start)) earlier →
        sound (earlier.foldr step start) := by
    intro earlier each
    induction earlier with
    | nil => exact base
    | cons input earlier ih =>
        obtain ⟨now, before⟩ := eachInput_cons.mp each
        exact onward input _ (ih before) now
  have unordered : EachInput (fun _ _ => True) past := fun _ _ _ => trivial
  refine always_iff_each_kept unordered (gives _ base) fun input earlier _ each _ => ?_
  have before := always_sound earlier each
  exact ⟨only input _ before, fun now => gives _ (onward input _ before now)⟩

-- What inputs draw without repetition tells them apart.
theorem drawn_once {α : Type u} {drawn : Input → List α} {past : List Input}
    (distinct : (past.flatMap drawn).Nodup) {first second : Input} {earlier before : List Input}
    (one : first :: earlier <:+ past) (other : second :: before <:+ past) {item : α}
    (here : item ∈ drawn first) (there : item ∈ drawn second) : first :: earlier = second :: before := by
  induction past with
  | nil => simp at one
  | cons input past ih =>
      obtain ⟨_, later, apart⟩ := List.nodup_append.mp (List.flatMap_cons ▸ distinct)
      have drawnIn {input : Input} {rest : List Input} (suffix : input :: rest <:+ past)
          (member : item ∈ drawn input) : item ∈ past.flatMap drawn :=
        List.mem_flatMap.mpr ⟨input, suffix.subset List.mem_cons_self, member⟩
      rcases List.suffix_cons_iff.mp one with same | inside
      · rcases List.suffix_cons_iff.mp other with also | within
        · rw [same, also]
        · cases same
          exact absurd rfl (apart item here item (drawnIn within there))
      · rcases List.suffix_cons_iff.mp other with also | within
        · cases also
          exact absurd rfl (apart item there item (drawnIn inside here))
        · exact ih later inside within

end Histories
end Chainmail
