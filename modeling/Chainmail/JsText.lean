import Mathlib.Data.List.Basic

/-!
Texts as a JavaScript program lowers and splits them.
-/

namespace Chainmail.JsText

/-- What `toLowerCase` does by the tables of Unicode: what is lowered stays as it is,
    and no other letter becomes an `@`. -/
structure LowerCase where
  toLowerCase : String → String
  lowered : ∀ text, toLowerCase (toLowerCase text) = toLowerCase text
  atSign : ∀ text, '@' ∈ (toLowerCase text).toList ↔ '@' ∈ text.toList

theorem toLower_of_large {letter : Char} (large : letter.val ≥ 'A'.val ∧ letter.val ≤ 'Z'.val) :
    letter.toLower.val = letter.val + ('a'.val - 'A'.val) := by
  delta Char.toLower
  rw [dif_pos large]

theorem toLower_toLower (letter : Char) : letter.toLower.toLower = letter.toLower := by
  by_cases large : letter.val ≥ 'A'.val ∧ letter.val ≤ 'Z'.val
  · have small : ¬ (letter.toLower.val ≥ 'A'.val ∧ letter.toLower.val ≤ 'Z'.val) := by
      rw [toLower_of_large large]
      simp [UInt32.le_iff_toNat_le] at large ⊢
      omega
    exact dif_neg small
  · have same : letter.toLower = letter := dif_neg large
    rw [same, same]

theorem toLower_atSign (letter : Char) : letter.toLower = '@' ↔ letter = '@' := by
  by_cases large : letter.val ≥ 'A'.val ∧ letter.val ≤ 'Z'.val
  · have shifted := toLower_of_large large
    constructor
    · intro same
      rw [same, ← UInt32.toNat_inj] at shifted
      simp [UInt32.le_iff_toNat_le] at large shifted
      omega
    · rintro rfl
      simp at large
  · have same : letter.toLower = letter := dif_neg large
    rw [same]

/-- The lowering of a text of ASCII letters. -/
def asciiLower : LowerCase where
  toLowerCase text := String.ofList (text.toList.map Char.toLower)
  lowered text := by
    simp only [String.toList_ofList, List.map_map, Function.comp_def, toLower_toLower]
  atSign text := by simp [toLower_atSign]

/-- `text.length`, which counts a letter past the first plane twice. -/
def length (text : String) : Nat :=
  text.toList.length + text.toList.countP fun letter => 0x10000 ≤ letter.toNat

/-- `text.split(separator)`, for a separator of one letter. -/
def split (separator : Char) (text : String) : List String :=
  (text.toList.splitOn separator).map String.ofList

section Split
variable (separator : Char)

theorem splitOn_length (letters : List Char) :
    (letters.splitOn separator).length = letters.count separator + 1 := by
  induction letters with
  | nil => rfl
  | cons letter rest ih =>
      rw [List.splitOn_cons_eq_if_modifyHead, List.count_cons]
      split
      · rw [List.length_cons, ih]
      · rw [List.length_modifyHead, ih]

theorem splitOn_free (letters : List Char) :
    ∀ part ∈ letters.splitOn separator, part.count separator = 0 := by
  induction letters with
  | nil => simp
  | cons letter rest ih =>
      rw [List.splitOn_cons_eq_if_modifyHead]
      split
      next => simpa using ih
      next other =>
        cases parts : rest.splitOn separator with
        | nil => simp
        | cons first later =>
            rw [parts] at ih
            intro part member
            rcases List.mem_cons.mp member with rfl | inside
            · rw [List.count_cons, ih first List.mem_cons_self, if_neg other]
            · exact ih part (List.mem_cons_of_mem _ inside)

variable {separator}

theorem split_free (text : String) : ∀ part ∈ split separator text, separator ∉ part.toList := by
  intro part member
  obtain ⟨letters, inside, rfl⟩ := List.mem_map.mp member
  rw [String.toList_ofList]
  exact List.count_eq_zero.mp (splitOn_free separator text.toList letters inside)

theorem split_of_free {text : String} (free : separator ∉ text.toList) :
    split separator text = [text] := by
  simp [split, List.splitOn_eq_singleton free]

/-- What stands before the first separator is the first part. -/
theorem split_append {first : String} (free : separator ∉ first.toList) (rest : String) :
    split separator (first ++ String.singleton separator ++ rest) =
      first :: split separator rest := by
  have letters : (first ++ String.singleton separator ++ rest).toList =
      first.toList ++ separator :: rest.toList := by simp
  rw [split, letters, List.splitOn_append_cons_self_of_not_mem free]
  simp [split]

end Split
end Chainmail.JsText
