import Chainmail.Base64

/-!
Self-delimiting byte strings. A frame marks each byte as present and then
closes, so concatenated frames can be taken apart again in only one way.
-/

namespace Chainmail

def frame : Bytes → Bytes
  | [] => [0]
  | byte :: rest => 1 :: byte :: frame rest

def strip : Bytes → Bytes → Option Bytes
  | [], whole => some whole
  | _ :: _, [] => none
  | head :: lead, byte :: rest => if head = byte then strip lead rest else none

theorem frame_append_inj (a b restA restB : Bytes)
    (same : frame a ++ restA = frame b ++ restB) : a = b ∧ restA = restB := by
  induction a generalizing b with
  | nil =>
      cases b with
      | nil => exact ⟨rfl, by simpa [frame] using same⟩
      | cons byte b => simp [frame] at same
  | cons byte a ih =>
      cases b with
      | nil => simp [frame] at same
      | cons other b =>
          simp only [frame, List.cons_append, List.cons.injEq, true_and] at same
          obtain ⟨equal, rest⟩ := ih b same.2
          exact ⟨by rw [same.1, equal], rest⟩

theorem length_lt_frame (a : Bytes) : a.length < (frame a).length := by
  induction a with
  | nil => simp [frame]
  | cons byte a ih =>
      simp only [frame, List.length_cons]
      omega

theorem strip_append (lead rest : Bytes) : strip lead (lead ++ rest) = some rest := by
  induction lead with
  | nil => rfl
  | cons head lead ih => simpa [strip] using ih

theorem strip_some {lead whole rest : Bytes} (stripped : strip lead whole = some rest) :
    whole = lead ++ rest := by
  induction lead generalizing whole with
  | nil => simpa [strip] using stripped
  | cons head lead ih =>
      cases whole with
      | nil => simp [strip] at stripped
      | cons byte whole =>
          by_cases same : head = byte
          · simp only [strip, same, ↓reduceIte] at stripped
            simp [same, ih stripped]
          · simp [strip, same] at stripped

end Chainmail
