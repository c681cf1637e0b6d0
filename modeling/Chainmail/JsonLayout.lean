import Chainmail.JsonRoundTrip

/-!
`JSON.stringify` with an indentation, as files and screens show a value. The layout is nothing
but white space between the tokens: a text that was laid out, with white space around it, is
read back as the value itself.
-/

namespace Chainmail.Json

def isBlank (c : Char) : Bool := c = ' ' ∨ c = '\t' ∨ c = '\n' ∨ c = '\r'

/-- White space, or no text at all. -/
def Blank (text : List Char) : Prop := ∀ c ∈ text, isBlank c = true

instance (text : List Char) : Decidable (Blank text) :=
  decidable_of_iff (text.all isBlank = true) List.all_eq_true

mutual

/-- `gap` is what a level adds to the indentation. -/
def layOut (gap indent : List Char) : Json → List Char
  | .array (item :: rest) =>
      '[' :: (layOutItems gap (indent ++ gap) (item :: rest) ++ '\n' :: (indent ++ [']']))
  | .object (entry :: rest) =>
      '{' :: (layOutFields gap (indent ++ gap) (entry :: rest) ++ '\n' :: (indent ++ ['}']))
  | value => print value

def layOutItems (gap indent : List Char) : List Json → List Char
  | [] => []
  | [item] => '\n' :: (indent ++ layOut gap indent item)
  | item :: next :: rest =>
      '\n' :: (indent ++ (layOut gap indent item ++ ',' :: layOutItems gap indent (next :: rest)))

def layOutFields (gap indent : List Char) : List (String × Json) → List Char
  | [] => []
  | [(key, value)] => '\n' :: (indent ++ (quote key ++ ':' :: ' ' :: layOut gap indent value))
  | (key, value) :: next :: rest =>
      '\n' :: (indent ++ (quote key ++ ':' :: ' ' :: (layOut gap indent value ++
        ',' :: layOutFields gap indent (next :: rest))))

end

/-- `JSON.stringify(value, null, 2)` -/
def stringifyIndented (value : Json) : String := String.ofList (layOut [' ', ' '] [] value)

section Blanks

theorem Blank.nil : Blank [] := by simp [Blank]

theorem Blank.append {text other : List Char} (left : Blank text) (right : Blank other) :
    Blank (text ++ other) := by
  intro c member
  rcases List.mem_append.mp member with inside | inside
  · exact left c inside
  · exact right c inside

theorem skipSpace_blank {c : Char} (rest : List Char) (blank : isBlank c = true) :
    skipSpace (c :: rest) = skipSpace rest := by
  have dropped : (decide (c = ' ' ∨ c = '\t' ∨ c = '\n' ∨ c = '\r')) = true := blank
  rw [skipSpace, List.dropWhile_cons, if_pos dropped, skipSpace]

theorem skipSpace_append {text : List Char} (blank : Blank text) (rest : List Char) :
    skipSpace (text ++ rest) = skipSpace rest := by
  induction text with
  | nil => rfl
  | cons c others ih =>
      rw [List.cons_append, skipSpace_blank _ (blank c List.mem_cons_self),
        ih fun other member => blank other (List.mem_cons_of_mem _ member)]

-- A line break and an indentation are passed over.
theorem skipSpace_line {indent : List Char} (blank : Blank indent) (rest : List Char) :
    skipSpace ('\n' :: (indent ++ rest)) = skipSpace rest := by
  rw [skipSpace_blank _ rfl, skipSpace_append blank]

theorem skipSpace_space (rest : List Char) : skipSpace (' ' :: rest) = skipSpace rest :=
  skipSpace_blank rest rfl

end Blanks

section Reading
variable {gap : List Char}

/-- What is laid out starts with the token that the value starts with. -/
theorem skipSpace_layOut (indent : List Char) (value : Json) (rest : List Char) :
    skipSpace (layOut gap indent value ++ rest) = layOut gap indent value ++ rest := by
  cases value with
  | null => exact skipSpace_print .null rest
  | bool value => exact skipSpace_print (.bool value) rest
  | number value => exact skipSpace_print (.number value) rest
  | string value => exact skipSpace_print (.string value) rest
  | array items =>
      cases items with
      | nil => exact skipSpace_print (.array []) rest
      | cons item others => exact skipSpace_cons _ (by decide)
  | object fields =>
      cases fields with
      | nil => exact skipSpace_print (.object []) rest
      | cons entry others => exact skipSpace_cons _ (by decide)

theorem layOut_head (gap indent : List Char) (value : Json) :
    ∃ first rest, layOut gap indent value = first :: rest ∧ first ≠ ']' := by
  cases value with
  | array items =>
      cases items with
      | nil => exact ⟨'[', _, rfl, by decide⟩
      | cons item others => exact ⟨'[', _, rfl, by decide⟩
  | object fields =>
      cases fields with
      | nil => exact ⟨'{', _, rfl, by decide⟩
      | cons entry others => exact ⟨'{', _, rfl, by decide⟩
  | _ =>
      obtain ⟨first, rest, shown, apart, _⟩ := print_head _
      exact ⟨first, rest, shown, apart⟩

theorem layOutItems_cons (gap : List Char) {indent : List Char} (blank : Blank indent) (item : Json)
    (others : List Json) (rest : List Char) : ∃ first more,
      skipSpace (layOutItems gap indent (item :: others) ++ rest) = first :: more ∧
        first ≠ ']' := by
  obtain ⟨first, more, shown, apart⟩ := layOut_head gap indent item
  cases others with
  | nil =>
      refine ⟨first, more ++ rest, ?_, apart⟩
      rw [layOutItems, List.cons_append, List.append_assoc, skipSpace_line blank,
        skipSpace_layOut, shown, List.cons_append]
  | cons next others =>
      exact ⟨first, _, by rw [layOutItems, List.cons_append, List.append_assoc,
        skipSpace_line blank, List.append_assoc, skipSpace_layOut, shown, List.cons_append], apart⟩

theorem layOutFields_cons (gap : List Char) {indent : List Char} (blank : Blank indent)
    (entry : String × Json) (others : List (String × Json)) (rest : List Char) : ∃ more,
      skipSpace (layOutFields gap indent (entry :: others) ++ rest) = '"' :: more := by
  cases others with
  | nil =>
      exact ⟨_, by rw [layOutFields, List.cons_append, List.append_assoc, skipSpace_line blank,
        List.append_assoc, quote, List.cons_append, skipSpace_cons _ (by decide)]⟩
  | cons next others =>
      exact ⟨_, by rw [layOutFields, List.cons_append, List.append_assoc, skipSpace_line blank,
        List.append_assoc, quote, List.cons_append, skipSpace_cons _ (by decide)]⟩

/-! Each reader with enough fuel for a layout reads back what was laid out. -/

def ReadsLayout (gap : List Char) (fuel : Nat) : Prop :=
  ∀ indent value rest, Blank indent → Canonical value → Decimal.Ends rest →
    2 * (layOut gap indent value).length ≤ fuel →
    readValue fuel (layOut gap indent value ++ rest) = some (value, rest)

def ReadsLaidItems (gap : List Char) (fuel : Nat) : Prop :=
  ∀ indent outer item others rest, Blank indent → Blank outer → CanonicalItems (item :: others) →
    2 * (layOutItems gap indent (item :: others)).length + 1 ≤ fuel →
    readItems fuel (layOutItems gap indent (item :: others) ++ '\n' :: (outer ++ ']' :: rest)) =
      some (item :: others, rest)

def ReadsLaidFields (gap : List Char) (fuel : Nat) : Prop :=
  ∀ indent outer entry others rest, Blank indent → Blank outer →
    CanonicalFields (entry :: others) →
    2 * (layOutFields gap indent (entry :: others)).length + 1 ≤ fuel →
    readFields fuel (layOutFields gap indent (entry :: others) ++ '\n' :: (outer ++ '}' :: rest)) =
      some (entry :: others, rest)

-- An indentation ends the number before it, as what closes or parts the items would.
theorem ends_line (rest : List Char) : Decimal.Ends ('\n' :: rest) := ends_cons _ (by decide)

theorem readsLayout_succ {fuel : Nat} (blankGap : Blank gap) (readsItems : ReadsLaidItems gap fuel)
    (readsFields : ReadsLaidFields gap fuel) : ReadsLayout gap (fuel + 1) := by
  intro indent value rest blank canonical ends enough
  have plainly : layOut gap indent value = print value →
      readValue (fuel + 1) (layOut gap indent value ++ rest) = some (value, rest) := by
    intro same
    rw [same] at enough ⊢
    exact (reads_all (fuel + 1)).1 value rest canonical ends enough
  cases value with
  | array items =>
      cases items with
      | nil => exact plainly rfl
      | cons item others =>
          simp only [layOut, List.length_cons, List.length_append] at enough
          have read := readsItems (indent ++ gap) indent item others rest (blank.append blankGap)
            blank canonical (by omega)
          obtain ⟨first, more, shown, apart⟩ := layOutItems_cons gap
            (blank.append blankGap) item others ('\n' :: (indent ++ ']' :: rest))
          have unfinished : (skipSpace (layOutItems gap (indent ++ gap) (item :: others) ++
              '\n' :: (indent ++ ']' :: rest))).head? ≠ some ']' := by
            rw [shown]
            simpa using apart
          rw [layOut, List.cons_append, List.append_assoc, List.cons_append, List.append_assoc,
            List.singleton_append, readValue_array fuel unfinished, read]
          rfl
  | object fields =>
      cases fields with
      | nil => exact plainly rfl
      | cons entry others =>
          simp only [layOut, List.length_cons, List.length_append] at enough
          have read := readsFields (indent ++ gap) indent entry others rest
            (blank.append blankGap) blank canonical.2 (by omega)
          obtain ⟨more, shown⟩ := layOutFields_cons gap (blank.append blankGap) entry
            others ('\n' :: (indent ++ '}' :: rest))
          have unfinished : (skipSpace (layOutFields gap (indent ++ gap) (entry :: others) ++
              '\n' :: (indent ++ '}' :: rest))).head? ≠ some '}' := by
            rw [shown]
            simp
          rw [layOut, List.cons_append, List.append_assoc, List.cons_append, List.append_assoc,
            List.singleton_append, readValue_object fuel unfinished, read, Option.map_some,
            canonical.1]
  | _ => exact plainly rfl

theorem readsLaidItems_succ {fuel : Nat} (readsLayout : ReadsLayout gap fuel)
    (readsItems : ReadsLaidItems gap fuel) : ReadsLaidItems gap (fuel + 1) := by
  intro indent outer item others rest blank blankOuter canonical enough
  cases others with
  | nil =>
      simp only [layOutItems, List.length_cons, List.length_append] at enough
      have read := readsLayout indent item ('\n' :: (outer ++ ']' :: rest)) blank canonical.1
        (ends_line _) (by omega)
      simp [layOutItems, readItems, skipSpace_line blank, skipSpace_line blankOuter,
        skipSpace_layOut, read, skipSpace_cons]
  | cons next others =>
      simp only [layOutItems, List.length_cons, List.length_append] at enough
      have read := readsLayout indent item (',' :: (layOutItems gap indent (next :: others) ++
        '\n' :: (outer ++ ']' :: rest))) blank canonical.1 (ends_cons _ (by decide)) (by omega)
      have more := readsItems indent outer next others rest blank blankOuter canonical.2 (by omega)
      simp [layOutItems, readItems, skipSpace_line blank, skipSpace_layOut, read, skipSpace_cons,
        more]

theorem readsLaidFields_succ {fuel : Nat} (readsLayout : ReadsLayout gap fuel)
    (readsFields : ReadsLaidFields gap fuel) : ReadsLaidFields gap (fuel + 1) := by
  intro indent outer entry others rest blank blankOuter canonical enough
  obtain ⟨key, value⟩ := entry
  cases others with
  | nil =>
      simp only [layOutFields, quote, List.length_cons, List.length_append] at enough
      have read := readsLayout indent value ('\n' :: (outer ++ '}' :: rest)) blank canonical.1
        (ends_line _) (by omega)
      simp [layOutFields, quote, readFields, readString_quoted, skipSpace_line blank,
        skipSpace_line blankOuter, skipSpace_space, skipSpace_layOut, read, skipSpace_cons]
  | cons next others =>
      simp only [layOutFields, quote, List.length_cons, List.length_append] at enough
      have read := readsLayout indent value (',' :: (layOutFields gap indent (next :: others) ++
        '\n' :: (outer ++ '}' :: rest))) blank canonical.1 (ends_cons _ (by decide)) (by omega)
      have more := readsFields indent outer next others rest blank blankOuter canonical.2
        (by omega)
      simp [layOutFields, quote, readFields, readString_quoted, skipSpace_line blank,
        skipSpace_space, skipSpace_layOut, read, skipSpace_cons, more]

theorem layouts_read (blankGap : Blank gap) (fuel : Nat) :
    ReadsLayout gap fuel ∧ ReadsLaidItems gap fuel ∧ ReadsLaidFields gap fuel := by
  induction fuel with
  | zero =>
      refine ⟨?_, ?_, ?_⟩
      · intro indent value rest _ _ _ enough
        obtain ⟨first, others, shown, _⟩ := layOut_head gap indent value
        simp [shown] at enough
      · intro indent outer item others rest _ _ _ enough
        omega
      · intro indent outer entry others rest _ _ _ enough
        omega
  | succ fuel ih =>
      obtain ⟨readsLayout, readsItems, readsFields⟩ := ih
      exact ⟨readsLayout_succ blankGap readsItems readsFields,
        readsLaidItems_succ readsLayout readsItems, readsLaidFields_succ readsLayout readsFields⟩

/-- White space around a layout is passed over as the one inside is. -/
theorem parse_layOut {before after : List Char} {value : Json} (blankGap : Blank gap)
    (blankBefore : Blank before) (blankAfter : Blank after) (canonical : Canonical value) :
    parse (String.ofList (before ++ layOut gap [] value ++ after)) = some value := by
  have ended : skipSpace after = [] := by
    have skipped := skipSpace_append blankAfter []
    rwa [List.append_nil] at skipped
  have ends : Decimal.Ends after := by
    intro first head
    have blank := blankAfter first (List.mem_of_mem_head? head)
    revert blank
    simp only [isBlank, decide_eq_true_eq]
    rintro (rfl | rfl | rfl | rfl) <;> decide
  have read := (layouts_read blankGap (2 * (before ++ layOut gap [] value ++ after).length + 2)).1
    [] value after Blank.nil canonical ends (by simp only [List.length_append]; omega)
  have spaced : skipSpace (before ++ layOut gap [] value ++ after) =
      layOut gap [] value ++ after := by
    rw [List.append_assoc, skipSpace_append blankBefore, skipSpace_layOut]
  simp only [parse, String.toList_ofList, spaced, read, ended, ↓reduceIte]

end Reading
end Chainmail.Json
