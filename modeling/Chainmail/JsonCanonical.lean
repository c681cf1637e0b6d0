import Chainmail.JsonRoundTrip

/-!
What `JSON.parse` returns lists the fields of its objects the way an object does. So it is
printed and read back unchanged, and so is whatever is taken out of it.
-/

namespace Chainmail.Json

section Orders

/-- No name twice, and none before a name that an object would list earlier. -/
def Ordered (fields : List (String × Json)) : Prop :=
  fields.Pairwise fun earlier later =>
    earlier.1 ≠ later.1 ∧ comesBefore later.1 earlier.1 = false

theorem comesBefore_asymm {key other : String} (before : comesBefore key other = true) :
    comesBefore other key = false := by
  cases own : arrayIndex key <;> cases place : arrayIndex other <;>
    simp [comesBefore, own, place] at before ⊢
  omega

theorem comesBefore_trans {first second third : String} (one : comesBefore first second = true)
    (other : comesBefore second third = true) : comesBefore first third = true := by
  cases i : arrayIndex first <;> cases j : arrayIndex second <;> cases k : arrayIndex third <;>
    simp [comesBefore, i, j, k] at one other ⊢
  omega

theorem mem_setField {key : String} {value : Json} {fields : List (String × Json)}
    {entry : String × Json} (member : entry ∈ setField key value fields) :
    entry = (key, value) ∨ entry ∈ fields := by
  induction fields with
  | nil => exact .inl (List.mem_singleton.mp member)
  | cons first rest ih =>
      rw [setField] at member
      split at member
      · rcases List.mem_cons.mp member with own | inside
        · exact .inl own
        · exact .inr (List.mem_cons_of_mem _ inside)
      · split at member
        · rcases List.mem_cons.mp member with own | inside
          · exact .inl own
          · exact .inr inside
        · rcases List.mem_cons.mp member with own | inside
          · exact .inr (own ▸ List.mem_cons_self)
          · exact (ih inside).imp_right (List.mem_cons_of_mem _)

theorem setField_ordered {fields : List (String × Json)} (ordered : Ordered fields) (key : String)
    (value : Json) : Ordered (setField key value fields) := by
  induction fields with
  | nil => exact List.pairwise_singleton _ _
  | cons first rest ih =>
      obtain ⟨ahead, behind⟩ := List.pairwise_cons.mp ordered
      rw [setField]
      split
      · rename_i own
        exact List.pairwise_cons.mpr ⟨fun entry member => own ▸ ahead entry member, behind⟩
      · rename_i apart
        split
        -- The new name is an index that is smaller than all that follow.
        · rename_i before
          refine List.pairwise_cons.mpr ⟨fun entry member => ?_, ordered⟩
          rcases List.mem_cons.mp member with rfl | inside
          · exact ⟨Ne.symm apart, comesBefore_asymm before⟩
          · have later := (ahead entry inside).2
            constructor
            · rintro rfl
              exact absurd before (by simp [later])
            · cases sooner : comesBefore entry.1 key with
              | false => rfl
              | true => exact absurd (comesBefore_trans sooner before) (by simp [later])
        · rename_i after
          refine List.pairwise_cons.mpr ⟨fun entry member => ?_, ih behind⟩
          rcases mem_setField member with rfl | inside
          · exact ⟨apart, by simpa using after⟩
          · exact ahead entry inside

theorem assign_ordered (assignments : List (String × Json)) : Ordered (assign assignments) := by
  have folded : ∀ built : List (String × Json), Ordered built →
      Ordered (assignments.foldl (fun fields entry => setField entry.1 entry.2 fields) built) := by
    induction assignments with
    | nil => exact fun _ ordered => ordered
    | cons entry rest ih => exact fun built ordered => ih _ (setField_ordered ordered _ _)
  exact folded [] List.Pairwise.nil

theorem setField_last {fields : List (String × Json)} {key : String} (value : Json)
    (last : ∀ entry ∈ fields, entry.1 ≠ key ∧ comesBefore key entry.1 = false) :
    setField key value fields = fields ++ [(key, value)] := by
  induction fields with
  | nil => rfl
  | cons entry rest ih =>
      obtain ⟨apart, behind⟩ := last entry List.mem_cons_self
      have others := ih fun other member => last other (List.mem_cons_of_mem _ member)
      simp [setField, apart, behind, others]

/-- Fields in their order are listed as they are. -/
theorem assign_of_ordered {fields : List (String × Json)} (ordered : Ordered fields) :
    assign fields = fields := by
  have added : ∀ earlier : List (String × Json), Ordered (earlier ++ fields) →
      fields.foldl (fun built entry => setField entry.1 entry.2 built) earlier =
        earlier ++ fields := by
    clear ordered
    induction fields with
    | nil => exact fun earlier _ => (List.append_nil earlier).symm
    | cons entry rest ih =>
        intro earlier ordered
        have last : ∀ other ∈ earlier, other.1 ≠ entry.1 ∧ comesBefore entry.1 other.1 = false :=
          fun other member =>
            (List.pairwise_append.mp ordered).2.2 other member entry List.mem_cons_self
        have regrouped : earlier ++ entry :: rest = (earlier ++ [entry]) ++ rest := by simp
        rw [List.foldl_cons, setField_last entry.2 last, ih _ (regrouped ▸ ordered), ← regrouped]
  exact added [] ordered

end Orders

section Values

theorem canonicalFields_iff {fields : List (String × Json)} :
    CanonicalFields fields ↔ ∀ entry ∈ fields, Canonical entry.2 := by
  induction fields with
  | nil => simp [CanonicalFields]
  | cons entry rest ih => simp [CanonicalFields, ih]

theorem assign_values {assignments : List (String × Json)} {entry : String × Json}
    (member : entry ∈ assign assignments) : entry ∈ assignments := by
  have folded : ∀ built : List (String × Json),
      entry ∈ assignments.foldl (fun fields entry => setField entry.1 entry.2 fields) built →
        entry ∈ built ∨ entry ∈ assignments := by
    clear member
    induction assignments with
    | nil => exact fun _ inside => .inl inside
    | cons first rest ih =>
        intro built inside
        rcases ih _ inside with early | late
        · rcases mem_setField early with rfl | before
          · exact .inr List.mem_cons_self
          · exact .inl before
        · exact .inr (List.mem_cons_of_mem _ late)
  exact (folded [] member).resolve_left List.not_mem_nil

theorem canonical_assign {assignments : List (String × Json)}
    (values : CanonicalFields assignments) : Canonical (.object (assign assignments)) :=
  ⟨assign_of_ordered (assign_ordered assignments), canonicalFields_iff.mpr fun entry member =>
    canonicalFields_iff.mp values entry (assign_values member)⟩

/-! With any fuel a reader returns canonical values only. -/

def CanonicalValue (fuel : Nat) : Prop :=
  ∀ text value rest, readValue fuel text = some (value, rest) → Canonical value

def CanonicalList (fuel : Nat) : Prop :=
  ∀ text items rest, readItems fuel text = some (items, rest) → CanonicalItems items

def CanonicalEntries (fuel : Nat) : Prop :=
  ∀ text fields rest, readFields fuel text = some (fields, rest) → CanonicalFields fields

theorem readWord_canonical {word text rest : List Char} (value : Json) {found : Json}
    (canonical : Canonical value) (read : readWord word value text = some (found, rest)) :
    Canonical found := by
  rw [readWord] at read
  split at read
  · cases read
    exact canonical
  · cases read

theorem canonicalValue_succ {fuel : Nat} (list : CanonicalList fuel)
    (entries : CanonicalEntries fuel) : CanonicalValue (fuel + 1) := by
  intro text value rest read
  cases text with
  | nil => cases read
  | cons first others =>
      rw [readValue] at read
      split at read
      · obtain ⟨found, _, made⟩ := Option.map_eq_some_iff.mp read
        cases made
        trivial
      split at read
      · split at read
        · cases read
          trivial
        · obtain ⟨found, items, made⟩ := Option.map_eq_some_iff.mp read
          cases made
          exact list others found.1 found.2 items
      split at read
      · split at read
        · cases read
          exact ⟨rfl, trivial⟩
        · obtain ⟨found, fields, made⟩ := Option.map_eq_some_iff.mp read
          cases made
          exact canonical_assign (entries others found.1 found.2 fields)
      split at read
      · exact readWord_canonical .null trivial read
      split at read
      · exact readWord_canonical (.bool true) trivial read
      split at read
      · exact readWord_canonical (.bool false) trivial read
      · obtain ⟨found, _, made⟩ := Option.map_eq_some_iff.mp read
        cases made
        trivial

theorem canonicalList_succ {fuel : Nat} (values : CanonicalValue fuel)
    (list : CanonicalList fuel) : CanonicalList (fuel + 1) := by
  intro text items rest read
  rw [readItems] at read
  obtain ⟨⟨item, others⟩, first, read⟩ := Option.bind_eq_some_iff.mp read
  have canonical := values _ item others first
  dsimp only at read
  split at read
  · obtain ⟨⟨more, remaining⟩, following, made⟩ := Option.bind_eq_some_iff.mp read
    cases made
    exact ⟨canonical, list _ more remaining following⟩
  · cases read
    exact ⟨canonical, trivial⟩
  · cases read

theorem canonicalEntries_succ {fuel : Nat} (values : CanonicalValue fuel)
    (entries : CanonicalEntries fuel) : CanonicalEntries (fuel + 1) := by
  intro text fields rest read
  rw [readFields] at read
  split at read
  · obtain ⟨⟨key, others⟩, _, read⟩ := Option.bind_eq_some_iff.mp read
    dsimp only at read
    split at read
    · obtain ⟨⟨value, onward⟩, first, read⟩ := Option.bind_eq_some_iff.mp read
      have canonical := values _ value onward first
      dsimp only at read
      split at read
      · obtain ⟨⟨more, remaining⟩, following, made⟩ := Option.bind_eq_some_iff.mp read
        cases made
        exact ⟨canonical, entries _ more remaining following⟩
      · cases read
        exact ⟨canonical, trivial⟩
      · cases read
    · cases read
  · cases read

theorem readers_canonical (fuel : Nat) :
    CanonicalValue fuel ∧ CanonicalList fuel ∧ CanonicalEntries fuel := by
  induction fuel with
  | zero =>
      refine ⟨?_, ?_, ?_⟩
      · intro text value rest read
        rw [readValue] at read
        cases read
      · intro text items rest read
        rw [readItems] at read
        cases read
      · intro text fields rest read
        rw [readFields] at read
        cases read
  | succ fuel ih =>
      obtain ⟨values, list, entries⟩ := ih
      exact ⟨canonicalValue_succ list entries, canonicalList_succ values list,
        canonicalEntries_succ values entries⟩

theorem parse_canonical {text : String} {value : Json} (read : parse text = some value) :
    Canonical value := by
  rw [parse] at read
  split at read
  · rename_i found rest first
    split at read
    · cases read
      exact (readers_canonical _).1 _ _ _ first
    · cases read
  · cases read

theorem parseOrThrow_canonical {text : String} {value : Json}
    (read : parseOrThrow text = .ok value) : Canonical value := by
  rw [parseOrThrow] at read
  split at read
  · cases read
    exact parse_canonical (by assumption)
  · cases read

theorem lookup_mem {key : String} {fields : List (String × Json)} {value : Json}
    (found : lookup key fields = some value) : (key, value) ∈ fields := by
  induction fields with
  | nil => cases found
  | cons entry rest ih =>
      obtain ⟨name, held⟩ := entry
      rw [lookup] at found
      split at found
      next own =>
        cases found
        exact own ▸ List.mem_cons_self
      next => exact List.mem_cons_of_mem _ (ih found)

/-- What is in a canonical value is canonical too. -/
theorem field_canonical {key : String} {value found : Json} (canonical : Canonical value)
    (held : value.field key = some found) : Canonical found := by
  cases value with
  | object fields => exact canonicalFields_iff.mp canonical.2 _ (lookup_mem held)
  | _ => cases held

theorem canonicalItems_iff {items : List Json} :
    CanonicalItems items ↔ ∀ item ∈ items, Canonical item := by
  induction items with
  | nil => simp [CanonicalItems]
  | cons item rest ih => simp [CanonicalItems, ih]

/-- An object that leaves out what is undefined, with plain names, is canonical. -/
theorem canonical_ofFields {fields : List (String × Option Json)} (names : List String)
    (named : fields.map Prod.fst = names) (plain : PlainNames names)
    (values : ∀ entry ∈ fields, ∀ value, entry.2 = some value → Canonical value) :
    Canonical (ofFields fields) := by
  have kept : ((fields.filterMap fun entry => entry.2.map fun value => (entry.1, value)).map
      Prod.fst).Sublist names := by
    subst named
    clear plain values
    induction fields with
    | nil => exact List.Sublist.refl _
    | cons entry rest ih =>
        obtain ⟨name, value⟩ := entry
        cases value with
        | none => exact ih.cons name
        | some value => exact ih.cons_cons name
  refine canonical_object _ rfl ⟨plain.1.sublist kept, fun name member =>
    plain.2 name (kept.subset member)⟩ (canonicalFields_iff.mpr ?_)
  rintro ⟨name, value⟩ member
  obtain ⟨entry, inside, made⟩ := List.mem_filterMap.mp member
  obtain ⟨held, given, same⟩ := Option.map_eq_some_iff.mp made
  cases same
  exact values entry inside value given

end Values
end Chainmail.Json
