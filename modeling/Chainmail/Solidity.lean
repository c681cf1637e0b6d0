import Mathlib.Data.Fintype.BigOperators
import Mathlib.Data.Fin.Basic

/-!
What a contract is written in. A reverted call yields `none` and so undoes all
its writes; `uint256` arithmetic reverts where the exact result does not fit.
-/

namespace Chainmail.Solidity

def Address : Type := Fin (2 ^ 160)

instance : DecidableEq Address := inferInstanceAs (DecidableEq (Fin (2 ^ 160)))

instance : Fintype Address := inferInstanceAs (Fintype (Fin (2 ^ 160)))

/-- `address(n)` for a literal `n`. -/
instance (n : Nat) : OfNat Address n := inferInstanceAs (OfNat (Fin (2 ^ 160)) n)

abbrev Uint256 := Fin (2 ^ 256)

abbrev Bytes32 := Fin (2 ^ 256)

/-- A literal of 256 bits. -/
instance word (n : Nat) : OfNat (Fin (2 ^ 256)) n := ⟨Fin.ofNat (2 ^ 256) n⟩

section Arithmetic

def add (a b : Nat) : Option Nat := if a + b < 2 ^ 256 then some (a + b) else none

def sub (a b : Nat) : Option Nat := if b ≤ a then some (a - b) else none

def mul (a b : Nat) : Option Nat := if a * b < 2 ^ 256 then some (a * b) else none

def div (a b : Nat) : Option Nat := if b = 0 then none else some (a / b)

theorem add_some {a b c : Nat} (sum : add a b = some c) : c = a + b := by
  unfold add at sum
  split at sum
  · exact (Option.some.inj sum).symm
  · cases sum

theorem add_fits {a b : Nat} (fits : a + b < 2 ^ 256) : add a b = some (a + b) := if_pos fits

theorem sub_some {a b c : Nat} (difference : sub a b = some c) : b ≤ a ∧ c = a - b := by
  unfold sub at difference
  split at difference
  · rename_i le
    exact ⟨le, (Option.some.inj difference).symm⟩
  · cases difference

end Arithmetic

def require (condition : Prop) [Decidable condition] : Option Unit :=
  if condition then some () else none

theorem require_some {condition : Prop} [Decidable condition] {u : Unit}
    (passed : require condition = some u) : condition := by
  unfold require at passed
  split at passed
  · assumption
  · cases passed

theorem require_pos {condition : Prop} [Decidable condition] (holds : condition) :
    require condition = some () := if_pos holds

/-! A `mapping` is a total function that is written one key at a time. -/

section Mapping
variable {Key : Type} [DecidableEq Key]

-- Overwriting one entry trades its share of the sum for the new one.
theorem sum_update [Fintype Key] {Value Amount : Type} [AddCommMonoid Amount]
    (share : Value → Amount) (map : Key → Value) (key : Key) (value : Value) :
    (∑ k, share (Function.update map key value k)) + share (map key) =
      (∑ k, share (map k)) + share value := by
  have split : ∀ f : Key → Amount, ∑ k, f k = f key + ∑ k ∈ Finset.univ.erase key, f k :=
    fun f => (Finset.add_sum_erase _ f (Finset.mem_univ key)).symm
  have rest : ∑ k ∈ Finset.univ.erase key, share (Function.update map key value k) =
      ∑ k ∈ Finset.univ.erase key, share (map k) := by
    refine Finset.sum_congr rfl fun k member => ?_
    rw [Function.update_of_ne (Finset.ne_of_mem_erase member)]
  rw [split, split fun k => share (map k), rest, Function.update_self]
  ac_rfl

end Mapping
end Chainmail.Solidity
