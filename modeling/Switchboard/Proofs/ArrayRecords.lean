import Mathlib.Tactic
import Switchboard.Json.Record

/-!
# Records that arrays spell

A record is read from an array, too: its values are those of the fields in their order, and the
fields that are left over stay as they are. A text that does not start an object spells a record if
it is such an array, and otherwise none.
-/

namespace Switchboard

namespace Json

theorem bind_eq_ok_iff {first : Except ε α} {second : α → Except ε β} {b : β} :
    (first >>= second) = .ok b ↔ ∃ a, first = .ok a ∧ second a = .ok b := by
  cases first with
  | error error =>
    constructor
    · intro h
      cases h
    · rintro ⟨a, ha, -⟩
      cases ha
  | ok a =>
    constructor
    · intro h
      exact ⟨a, rfl, h⟩
    · rintro ⟨other, hother, h⟩
      cases hother
      exact h

private theorem mapError_eq_ok_iff {result : Except ε α} {f : ε → ε'} {a : α} :
    result.mapError f = .ok a ↔ result = .ok a := by
  cases result <;> simp [Except.mapError]

theorem readAll_eq_ok_iff {reader : Reader α} {bytes : List UInt8} {value : α} :
    readAll reader bytes = .ok value ↔
      ∃ rest, reader bytes = .ok (value, rest) ∧ skipSpace rest = [] := by
  unfold readAll
  rw [mapError_eq_ok_iff, bind_eq_ok_iff]
  constructor
  · rintro ⟨⟨found, rest⟩, hreader, h⟩
    cases hspace : skipSpace rest with
    | nil =>
      simp only [hspace] at h
      cases h
      exact ⟨rest, hreader, hspace⟩
    | cons b more =>
      simp only [hspace] at h
      cases h
  · rintro ⟨rest, hreader, hend⟩
    refine ⟨(value, rest), hreader, ?_⟩
    simp only [hend]

/-! ## Values of fields -/

private theorem skipSpace_bracket (rest : List UInt8) : skipSpace (93 :: rest) = 93 :: rest := by
  rw [skipSpace, List.dropWhile_cons_of_neg (by decide)]

/-- A field that may be missing, and whose reader takes neither the end of the text nor a closing
bracket for a value. -/
structure Field.Proper (field : Field δ) : Prop where
  optional : field.required = false
  notEnd : ∀ depth result, field.read depth [] ≠ .ok result
  notBracket : ∀ depth rest result, field.read depth (93 :: rest) ≠ .ok result

/-- Values of fields in their order, with commas between them, and the closing bracket: the draft
that they make of another one, and what follows. There may be fewer values than fields. -/
inductive Lists (depth : Nat) : List (Field δ) → δ → List UInt8 → δ → List UInt8 → Prop
  | last : field.read depth (skipSpace bytes) = .ok (store, after) →
      skipSpace after = 93 :: rest →
      Lists depth (field :: fields) draft bytes (store draft) rest
  | more : field.read depth (skipSpace bytes) = .ok (store, after) →
      skipSpace after = 44 :: next →
      Lists depth fields (store draft) next result rest →
      Lists depth (field :: fields) draft bytes result rest

namespace Shape

def Follows (depth : Nat) (fields : List (Field δ)) (draft : δ) (bytes : List UInt8) (result : δ)
    (rest : List UInt8) : Prop :=
  skipSpace bytes = 93 :: rest ∧ result = draft ∨
    ∃ next, skipSpace bytes = 44 :: next ∧ Lists depth fields draft next result rest

private theorem lists_cons_iff {depth : Nat} {field : Field δ} {fields : List (Field δ)}
    {draft result : δ} {bytes rest : List UInt8} :
    Lists depth (field :: fields) draft bytes result rest ↔
      ∃ read, field.read depth (skipSpace bytes) = .ok read ∧
        Follows depth fields (read.1 draft) read.2 result rest := by
  constructor
  · intro h
    cases h with
    | last hread hclose => exact ⟨_, hread, .inl ⟨hclose, rfl⟩⟩
    | more hread hcomma hmore => exact ⟨_, hread, .inr ⟨_, hcomma, hmore⟩⟩
  · rintro ⟨⟨store, after⟩, hread, ⟨hclose, rfl⟩ | ⟨next, hcomma, hmore⟩⟩
    · exact .last hread hclose
    · exact .more hread hcomma hmore

theorem readEnd_eq_ok_iff {draft result : δ} {bytes rest : List UInt8} :
    readEnd draft bytes = .ok (result, rest) ↔ skipSpace bytes = 93 :: rest ∧ result = draft := by
  unfold readEnd
  split
  · next hclose =>
    rw [hclose]
    simp [eq_comm, and_comm]
  · next hcomma =>
    rw [hcomma]
    split <;> simp
  · next hend =>
    rw [hend]
    simp
  · next hclose _ _ =>
    constructor
    · intro h
      cases h
    · rintro ⟨h, -⟩
      exact absurd h (hclose rest)

private theorem slot_eq_ok_iff {shape : Shape δ} {depth index : Nat} {fields : List (Field δ)}
    {result : δ} {rest : List UInt8}
    (hfields : ∀ draft bytes, shape.readSlots depth fields index draft bytes = .ok (result, rest) ↔
      Follows depth fields draft bytes result rest)
    (field : Field δ) (draft : δ) (bytes : List UInt8) :
    (field.read depth bytes >>= fun read =>
        shape.readSlots depth fields index (read.1 draft) read.2) = .ok (result, rest) ↔
      ∃ read, field.read depth bytes = .ok read ∧
        Follows depth fields (read.1 draft) read.2 result rest := by
  rw [bind_eq_ok_iff]
  exact exists_congr fun read => and_congr_right fun _ => hfields _ _

theorem readSlots_eq_ok_iff (shape : Shape δ) {depth index : Nat} {fields : List (Field δ)}
    (hproper : ∀ field ∈ fields, field.Proper) (hindex : index ≠ 0) {draft result : δ}
    {bytes rest : List UInt8} :
    shape.readSlots depth fields index draft bytes = .ok (result, rest) ↔
      Follows depth fields draft bytes result rest := by
  induction fields generalizing index draft bytes with
  | nil =>
    rw [readSlots, readEnd_eq_ok_iff, Follows]
    refine ⟨.inl, fun h => h.elim id fun ⟨next, _, hmore⟩ => ?_⟩
    cases hmore
  | cons field fields ih =>
    obtain ⟨hfield, hfields⟩ := List.forall_mem_cons.1 hproper
    rw [readSlots, Follows]
    cases hspace : skipSpace bytes with
    | nil => simp
    | cons b more =>
      by_cases hclose : b = 93
      · subst hclose
        -- the bracket is left in place for the fields that are left over
        simp only [hfield.optional, Bool.false_eq_true, if_false]
        rw [ih hfields (Nat.succ_ne_zero index), Follows, skipSpace_bracket]
        simp
      · split
        · next h => cases h
        · next h => exact absurd (List.cons.inj h).1 hclose
        · next h =>
          cases h
          rw [if_neg hindex]
          by_cases hcomma : b = 44
          · subst hcomma
            have hmore : (44 :: more = 93 :: rest ∧ result = draft ∨
                ∃ next, 44 :: more = 44 :: next ∧
                  Lists depth (field :: fields) draft next result rest) ↔
                Lists depth (field :: fields) draft more result rest := by
              simp
            rw [if_pos rfl, hmore, lists_cons_iff]
            split
            · next hbracket =>
              rw [hbracket]
              simp [hfield.notBracket]
            · next hend =>
              rw [hend]
              simp [hfield.notEnd]
            · exact slot_eq_ok_iff (fun _ _ => ih hfields (Nat.succ_ne_zero index)) field draft _
          · rw [if_neg hcomma]
            simp [hclose, hcomma]

theorem readSlots_zero_eq_ok_iff (shape : Shape δ) {depth : Nat} {fields : List (Field δ)}
    (hproper : ∀ field ∈ fields, field.Proper) {draft result : δ} {bytes rest : List UInt8} :
    shape.readSlots depth fields 0 draft bytes = .ok (result, rest) ↔
      skipSpace bytes = 93 :: rest ∧ result = draft ∨
        Lists depth fields draft bytes result rest := by
  cases fields with
  | nil =>
    rw [readSlots, readEnd_eq_ok_iff]
    refine ⟨.inl, fun h => h.elim id fun hlists => ?_⟩
    cases hlists
  | cons field fields =>
    obtain ⟨hfield, hfields⟩ := List.forall_mem_cons.1 hproper
    rw [readSlots, lists_cons_iff]
    cases hspace : skipSpace bytes with
    | nil => simp [hfield.notEnd]
    | cons b more =>
      by_cases hclose : b = 93
      · subst hclose
        simp only [hfield.optional, Bool.false_eq_true, if_false]
        rw [shape.readSlots_eq_ok_iff hfields (Nat.succ_ne_zero 0), Follows, skipSpace_bracket]
        simp [hfield.notBracket]
      · split
        · next h => cases h
        · next h => exact absurd (List.cons.inj h).1 hclose
        · next h =>
          cases h
          simp only [if_true, List.cons.injEq, hclose, false_and, false_or]
          exact slot_eq_ok_iff
            (fun _ _ => shape.readSlots_eq_ok_iff hfields (Nat.succ_ne_zero 0)) field draft _

/-- An array with nothing after it whose values are those of the fields in their order. -/
def SpeltByArray (shape : Shape δ) (bytes : List UInt8) (result : δ) : Prop :=
  ∃ inside rest, skipSpace bytes = 91 :: inside ∧ skipSpace rest = [] ∧
    (skipSpace inside = 93 :: rest ∧ result = shape.blank ∨
      Lists (maxDepth - 1) shape.fields shape.blank inside result rest)

/-- A text that does not start an object spells a record if and only if it is an array of the
values of its fields. -/
theorem parseBytes_eq_ok_iff (shape : Shape δ) (hproper : ∀ field ∈ shape.fields, field.Proper)
    {bytes : List UInt8} (hobject : ∀ rest, skipSpace bytes ≠ 123 :: rest) {result : δ} :
    shape.parseBytes bytes = .ok result ↔ shape.SpeltByArray bytes result := by
  have hread : ∀ rest, shape.read maxDepth bytes = .ok (result, rest) ↔
      ∃ inside, skipSpace bytes = 91 :: inside ∧
        (skipSpace inside = 93 :: rest ∧ result = shape.blank ∨
          Lists (maxDepth - 1) shape.fields shape.blank inside result rest) := by
    intro rest
    unfold read
    split
    · next more h => exact absurd h (hobject more)
    · next inside h =>
      rw [h]
      simp only [List.cons.injEq, true_and, exists_eq_left']
      exact shape.readSlots_zero_eq_ok_iff hproper
    · next h =>
      constructor
      · intro hmismatch
        cases hmismatch
      · rintro ⟨inside, hinside, -⟩
        exact absurd hinside (h inside)
  rw [parseBytes, readAll_eq_ok_iff]
  constructor
  · rintro ⟨rest, hrecord, hend⟩
    obtain ⟨inside, harray, hvalues⟩ := (hread rest).1 hrecord
    exact ⟨inside, rest, harray, hend, hvalues⟩
  · rintro ⟨inside, rest, harray, hend, hvalues⟩
    exact ⟨rest, (hread rest).2 ⟨inside, harray, hvalues⟩, hend⟩

end Shape

/-! ## Readers of values -/

def Refuses (reader : Reader α) : Prop :=
  (∀ result, reader [] ≠ .ok result) ∧ ∀ rest result, reader (93 :: rest) ≠ .ok result

theorem Field.proper_of_refuses {reader : Nat → Reader α} (h : ∀ depth, Refuses (reader depth))
    (name : String) (store : α → δ → δ) : (Field.of name false reader store).Proper := by
  have hread : ∀ depth bytes, (∀ result, reader depth bytes ≠ .ok result) →
      ∀ result, (Field.of name false reader store).read depth bytes ≠ .ok result := by
    intro depth bytes hnone result hread
    obtain ⟨read, hvalue, -⟩ := bind_eq_ok_iff.1 hread
    exact hnone read hvalue
  exact ⟨rfl, fun depth => hread depth [] (h depth).1,
    fun depth rest => hread depth (93 :: rest) ((h depth).2 rest)⟩

theorem refuses_readAny (depth : Nat) : Refuses (readAny depth) := by
  constructor
  · intro result h
    cases h
  · intro rest result h
    simp [readAny, readValue, skipSpace_bracket, isDigit] at h

theorem refuses_readText : Refuses readText := by
  constructor
  · intro result h
    cases h
  · intro rest result h
    simp [readText, skipSpace_bracket] at h

theorem Refuses.readOption {reader : Reader α} (h : Refuses reader) :
    Refuses (Json.readOption reader) := by
  constructor
  · intro result hread
    obtain ⟨read, hvalue, -⟩ := bind_eq_ok_iff.1 hread
    exact h.1 read hvalue
  · intro rest result hread
    simp only [Json.readOption, skipSpace_bracket] at hread
    obtain ⟨read, hvalue, -⟩ := bind_eq_ok_iff.1 hread
    exact h.2 rest read hvalue

theorem Shape.refuses_read (shape : Shape δ) (depth : Nat) : Refuses (shape.read depth) := by
  constructor
  · intro result h
    cases h
  · intro rest result h
    simp [read, skipSpace_bracket] at h

end Json

end Switchboard
