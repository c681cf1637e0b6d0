import Chainmail.OrderedMap
import Mathlib.Logic.Function.Basic

/-!
Maps whose entries get too old. Old entries may be dropped at any time, one by one or in a
sweep, or stay where they are. Such a map covers a ledger that keeps everything: what it holds
is in the ledger, and what the ledger has that is not late yet is still held. So whoever asks
only for entries that are not late has the same answers from both.
-/

namespace Chainmail.ExpiringMap

universe u v w
variable {Key : Type u} {Value : Type v} {Time : Type w} [DecidableEq Key]
variable {late : Value → Time → Prop}

structure Covers (late : Value → Time → Prop) (held : OrderedMap Key Value)
    (ledger : Key → Option Value) (now : Time) : Prop where
  sound : ∀ key value, held.get key = some value → ledger key = some value
  complete : ∀ key value, ledger key = some value → ¬ late value now → held.get key = some value

variable {held : OrderedMap Key Value} {ledger : Key → Option Value} {now later : Time}

theorem covers_empty : Covers late (OrderedMap.empty : OrderedMap Key Value) (fun _ => none) now where
  sound key value found := by cases found
  complete key value found := by cases found

/-- What is not late is held just when the ledger has it. -/
theorem Covers.get_iff (covers : Covers late held ledger now) {key : Key} {value : Value}
    (timely : ¬ late value now) : held.get key = some value ↔ ledger key = some value :=
  ⟨covers.sound key value, fun found => covers.complete key value found timely⟩

/-- With time more is late, and less has to be held. -/
theorem Covers.wait (covers : Covers late held ledger now)
    (stays : ∀ value, late value now → late value later) : Covers late held ledger later where
  sound := covers.sound
  complete key value found timely :=
    covers.complete key value found fun already => timely (stays value already)

theorem Covers.set (covers : Covers late held ledger now) (key : Key) (value : Value) :
    Covers late (held.set key value) (Function.update ledger key (some value)) now where
  sound other old found := by
    by_cases same : other = key
    · subst same
      simpa using found
    · rw [OrderedMap.get_set_of_ne _ _ same] at found
      rw [Function.update_of_ne same]
      exact covers.sound other old found
  complete other old found timely := by
    by_cases same : other = key
    · subst same
      simpa using found
    · rw [Function.update_of_ne same] at found
      rw [OrderedMap.get_set_of_ne _ _ same]
      exact covers.complete other old found timely

/-- Whoever ends an entry ends it in the ledger as well. -/
theorem Covers.delete (covers : Covers late held ledger now) (key : Key) :
    Covers late (held.delete key) (Function.update ledger key none) now where
  sound other old found := by
    by_cases same : other = key
    · subst same
      simp at found
    · rw [OrderedMap.get_delete_of_ne _ same] at found
      rw [Function.update_of_ne same]
      exact covers.sound other old found
  complete other old found timely := by
    by_cases same : other = key
    · subst same
      simp at found
    · rw [Function.update_of_ne same] at found
      rw [OrderedMap.get_delete_of_ne _ same]
      exact covers.complete other old found timely

/-- A late entry may be dropped, and the ledger need not know. -/
theorem Covers.expire (covers : Covers late held ledger now) {key : Key} {value : Value}
    (found : held.get key = some value) (overdue : late value now) :
    Covers late (held.delete key) ledger now where
  sound other old kept := by
    rw [OrderedMap.get_delete] at kept
    split at kept
    · cases kept
    · exact covers.sound other old kept
  complete other old kept timely := by
    have there := covers.complete other old kept timely
    have apart : other ≠ key := by
      rintro rfl
      rw [found] at there
      exact timely (Option.some.inj there ▸ overdue)
    rw [OrderedMap.get_delete_of_ne _ apart]
    exact there

/-- A sweep drops entries, and only late ones. -/
theorem Covers.sweep (covers : Covers late held ledger now) {stays : Key → Value → Bool}
    (timely : ∀ key value, ¬ late value now → stays key value = true) :
    Covers late (held.keep stays) ledger now where
  sound key value kept := by
    rw [OrderedMap.get_keep, Option.filter_eq_some_iff] at kept
    exact covers.sound key value kept.1
  complete key value found still := by
    rw [OrderedMap.get_keep, covers.complete key value found still, Option.filter_some,
      if_pos (timely key value still)]

end Chainmail.ExpiringMap
