import Switchboard.Proofs.JsonValues
import Switchboard.Proofs.Numerals

/-!
# Values that were printed

A value without floats is read back from its text, wherever that stands in a larger one, if it is in
order and nests no deeper than the reader goes.
-/

namespace Switchboard.Json

theorem skipSpace_cons {b : UInt8} (h : isSpace b = false) (rest : List UInt8) :
    skipSpace (b :: rest) = b :: rest := by
  rw [skipSpace, List.dropWhile_cons_of_neg (by simp [h])]

structure Leads (b : UInt8) : Prop where
  notSpace : isSpace b = false
  notBracket : b ≠ 93

theorem ne_of_isDigit {b : UInt8} (hb : isDigit b = true) (other : UInt8)
    (hother : isDigit other = false) : b ≠ other := by
  rintro rfl
  exact Bool.false_ne_true (hother.symm.trans hb)

theorem leads_of_isDigit {b : UInt8} (hb : isDigit b = true) : Leads b := by
  have hne := ne_of_isDigit hb
  constructor
  · simp [isSpace, hne 32 rfl, hne 10 rfl, hne 9 rfl, hne 13 rfl]
  · exact hne 93 rfl

theorem encode_print_array (items : List Json) :
    encode (print (.array items)) = 91 :: (encode (printItems items) ++ [93]) := by
  rw [print, encode_cons, encode_append]
  rfl

theorem encode_print_object (members : List (String × Json)) :
    encode (print (.object members)) = 123 :: (encode (printMembers members) ++ [125]) := by
  rw [print, encode_cons, encode_append]
  rfl

theorem exists_lead (value : Json) (hfloat : ∀ x, value ≠ .float x) :
    ∃ b tail, encode (print value) = b :: tail ∧ Leads b ∧ (value ≠ .null → b ≠ 110) := by
  cases value with
  | null => exact ⟨110, [117, 108, 108], rfl, ⟨rfl, by decide⟩, fun h => absurd rfl h⟩
  | bool b =>
    cases b with
    | true => exact ⟨116, [114, 117, 101], rfl, ⟨rfl, by decide⟩, fun _ => by decide⟩
    | false => exact ⟨102, [97, 108, 115, 101], rfl, ⟨rfl, by decide⟩, fun _ => by decide⟩
  | whole n =>
    rw [print]
    cases Numeral.written n .nothing with
    | negative digits hdigits => exact ⟨45, digits, hdigits, ⟨rfl, by decide⟩, fun _ => by decide⟩
    | nonnegative b digits hdigits hb =>
      exact ⟨b, digits, hdigits, leads_of_isDigit hb, fun _ => ne_of_isDigit hb 110 rfl⟩
  | float x => exact absurd rfl (hfloat x)
  | string s =>
    exact ⟨34, _, by rw [print, encode_stringText], ⟨rfl, by decide⟩, fun _ => by decide⟩
  | array items => exact ⟨91, _, encode_print_array items, ⟨rfl, by decide⟩, fun _ => by decide⟩
  | object members =>
    exact ⟨123, _, encode_print_object members, ⟨rfl, by decide⟩, fun _ => by decide⟩

/-- The text of a value begins with a byte that no blank and no end of an array is. -/
def Begins (value : Json) : Prop :=
  ∃ b tail, encode (print value) = b :: tail ∧ Leads b

theorem begins_of_ne_float {value : Json} (hfloat : ∀ x, value ≠ .float x) : Begins value := by
  obtain ⟨b, tail, hbytes, hlead, -⟩ := exists_lead value hfloat
  exact ⟨b, tail, hbytes, hlead⟩

/-! ## Reading a value -/

/-- A value is read back from its text, with two units of fuel for every byte of it. -/
structure ReadBack (value : Json) : Prop where
  begins : Begins value
  read : ∀ fuel depth rest, 2 * (encode (print value)).length ≤ fuel → Readable depth value →
    Delimits rest → readValue fuel depth (encode (print value) ++ rest) = .ok (value, rest)

theorem exists_fuel {fuel : Nat} {bytes : List UInt8} {b : UInt8} {tail : List UInt8}
    (hbytes : bytes = b :: tail) (h : 2 * bytes.length ≤ fuel) :
    ∃ left, fuel = left + 1 ∧ 2 * tail.length < left + 1 := by
  subst hbytes
  rw [List.length_cons] at h
  exact ⟨fuel - 1, by omega, by omega⟩

theorem readBack_null : ReadBack .null := by
  refine ⟨begins_of_ne_float (by simp), fun fuel depth rest hfuel _ _ => ?_⟩
  obtain ⟨fuel, rfl, -⟩ := exists_fuel rfl hfuel
  rfl

theorem readBack_bool (b : Bool) : ReadBack (.bool b) := by
  refine ⟨begins_of_ne_float (by simp), fun fuel depth rest hfuel _ _ => ?_⟩
  obtain ⟨_, _, hbytes, -⟩ := exists_lead (.bool b) (by simp)
  obtain ⟨fuel, rfl, -⟩ := exists_fuel hbytes hfuel
  cases b <;> rfl

theorem readBack_whole (n : Whole) : ReadBack (.whole n) := by
  refine ⟨begins_of_ne_float (by simp), fun fuel depth rest hfuel _ hrest => ?_⟩
  rw [print] at hfuel ⊢
  cases Numeral.written n hrest with
  | negative digits hdigits hread =>
    obtain ⟨fuel, rfl, -⟩ := exists_fuel hdigits hfuel
    rw [hdigits, List.cons_append, readValue, skipSpace_cons rfl]
    simp [hread, bind, Except.bind, Numeral.toJson]
  | nonnegative b digits hdigits hb hread =>
    obtain ⟨fuel, rfl, -⟩ := exists_fuel hdigits hfuel
    have hne := ne_of_isDigit hb
    rw [hdigits, List.cons_append, readValue, skipSpace_cons (leads_of_isDigit hb).notSpace]
    simp [hread, bind, Except.bind, Numeral.toJson, hb, hne 110 rfl, hne 116 rfl, hne 102 rfl,
      hne 45 rfl]

theorem readBack_string (s : String) : ReadBack (.string s) := by
  refine ⟨begins_of_ne_float (by simp), fun fuel depth rest hfuel _ _ => ?_⟩
  have hread := readString_escapes s.toList rest
  rw [String.ofList_toList] at hread
  rw [print, encode_stringText] at hfuel ⊢
  obtain ⟨fuel, rfl, -⟩ := exists_fuel rfl hfuel
  rw [List.cons_append, List.append_assoc, List.singleton_append, readValue, skipSpace_cons rfl]
  simp [hread, bind, Except.bind, isDigit]

theorem encode_printItems_cons (item next : Json) (items : List Json) :
    encode (printItems (item :: next :: items)) =
      encode (print item) ++ 44 :: encode (printItems (next :: items)) := by
  rw [printItems, encode_append]
  rfl

theorem begins_printItems {item : Json} (h : Begins item) (items : List Json) :
    ∃ b tail, encode (printItems (item :: items)) = b :: tail ∧ Leads b := by
  obtain ⟨b, tail, hitem, hlead⟩ := h
  cases items with
  | nil => exact ⟨b, tail, by rw [printItems, hitem], hlead⟩
  | cons next items =>
    exact ⟨b, _, by rw [encode_printItems_cons, hitem, List.cons_append], hlead⟩

theorem readItems_print {item : Json} {items : List Json}
    (h : ∀ other ∈ item :: items, ReadBack other) (fuel : Nat) {depth : Nat}
    (hfuel : 2 * (encode (printItems (item :: items))).length < fuel)
    (hreadable : ∀ other ∈ item :: items, Readable depth other) (rest : List UInt8) :
    readItems fuel depth (encode (printItems (item :: items)) ++ 93 :: rest) =
      .ok (item :: items, rest) := by
  -- a bracket follows the last item, a comma every other one
  induction items generalizing item fuel with
  | nil =>
    obtain ⟨fuel, rfl⟩ := Nat.exists_eq_add_one_of_ne_zero (Nat.ne_zero_of_lt hfuel)
    have hitem := List.mem_singleton_self item
    rw [printItems] at hfuel ⊢
    rw [readItems, (h item hitem).read fuel depth _ (by omega) (hreadable item hitem) .bracket]
    rfl
  | cons next items ih =>
    obtain ⟨fuel, rfl⟩ := Nat.exists_eq_add_one_of_ne_zero (Nat.ne_zero_of_lt hfuel)
    obtain ⟨hitem, hitems⟩ := List.forall_mem_cons.1 h
    obtain ⟨hdeep, hdeeper⟩ := List.forall_mem_cons.1 hreadable
    rw [encode_printItems_cons, List.length_append, List.length_cons] at hfuel
    have hmore := ih hitems fuel (by omega) hdeeper
    obtain ⟨b, tail, hnext, hlead⟩ :=
      begins_printItems (hitems next List.mem_cons_self).begins items
    rw [encode_printItems_cons, List.append_assoc, List.cons_append, readItems,
      hitem.read fuel depth _ (by omega) hdeep .comma]
    rw [hnext, List.cons_append] at hmore ⊢
    simp only [bind, Except.bind, skipSpace_cons (b := 44) rfl, skipSpace_cons hlead.notSpace]
    simp [hlead.notBracket, hmore]

theorem readBack_array {items : List Json} (h : ∀ item ∈ items, ReadBack item) :
    ReadBack (.array items) := by
  refine ⟨begins_of_ne_float (by simp), fun fuel depth rest hfuel hreadable _ => ?_⟩
  obtain ⟨depth, rfl⟩ := Nat.exists_eq_add_one_of_ne_zero (Nat.ne_zero_of_lt hreadable.nests)
  obtain ⟨fuel, rfl, hleft⟩ := exists_fuel (encode_print_array items) hfuel
  rw [encode_print_array, List.cons_append, List.append_assoc, List.singleton_append, readValue,
    skipSpace_cons rfl]
  cases items with
  | nil => rfl
  | cons item items =>
    rw [List.length_append, List.length_singleton] at hleft
    have hitems := readItems_print h fuel (by omega) (readable_array_iff.1 hreadable) rest
    obtain ⟨b, tail, hfirst, hlead⟩ := begins_printItems (h item List.mem_cons_self).begins items
    rw [hfirst, List.cons_append] at hitems ⊢
    simp [isDigit, skipSpace_cons hlead.notSpace, hlead.notBracket, hitems, bind, Except.bind]

/-! ## Members -/

def memberBytes (member : String × Json) : List UInt8 :=
  encode (member.1.toList.flatMap escape) ++ 34 :: 58 :: encode (print member.2)

def membersBytes (member : String × Json) : List (String × Json) → List UInt8
  | [] => memberBytes member
  | next :: members => memberBytes member ++ 44 :: 34 :: membersBytes next members

theorem exists_membersBytes (member : String × Json) (members : List (String × Json))
    (rest : List UInt8) :
    ∃ more, membersBytes member members ++ 125 :: rest = memberBytes member ++ more ∧
      Delimits more := by
  cases members with
  | nil => exact ⟨_, rfl, .brace⟩
  | cons next members => exact ⟨_, by rw [membersBytes, List.append_assoc]; rfl, .comma⟩

theorem encode_printMembers (member : String × Json) (members : List (String × Json)) :
    encode (printMembers (member :: members)) = 34 :: membersBytes member members := by
  induction members generalizing member with
  | nil =>
    rw [printMembers, encode_append, encode_stringText, encode_cons, List.cons_append,
      List.append_assoc]
    rfl
  | cons next members ih =>
    rw [printMembers, encode_append, encode_stringText, encode_cons, encode_append, encode_cons,
      ih, List.cons_append, List.append_assoc, membersBytes, memberBytes, List.append_assoc]
    rfl

theorem length_le_membersBytes (member : String × Json) (members : List (String × Json)) :
    members.length ≤ (membersBytes member members).length := by
  induction members generalizing member with
  | nil => exact Nat.zero_le _
  | cons next members ih =>
    have hnext := ih next
    rw [membersBytes, List.length_append, List.length_cons, List.length_cons, List.length_cons]
    omega

theorem readString_memberBytes (member : String × Json) (rest : List UInt8) :
    readString (memberBytes member ++ rest) =
      .ok (member.1, 58 :: (encode (print member.2) ++ rest)) := by
  have hread := readString_escapes member.1.toList (58 :: (encode (print member.2) ++ rest))
  rw [String.ofList_toList] at hread
  rw [memberBytes, List.append_assoc]
  exact hread

theorem readMembers_print {member : String × Json} {members : List (String × Json)}
    (h : ∀ other ∈ member :: members, ReadBack other.2) (fuel : Nat) {depth : Nat}
    (hfuel : 2 * (membersBytes member members).length < fuel)
    (hreadable : ∀ other ∈ member :: members, Readable depth other.2) (rest : List UInt8) :
    readMembers fuel depth (membersBytes member members ++ 125 :: rest) =
      .ok (member :: members, rest) := by
  induction members generalizing member fuel with
  | nil =>
    obtain ⟨fuel, rfl⟩ := Nat.exists_eq_add_one_of_ne_zero (Nat.ne_zero_of_lt hfuel)
    have hmember := List.mem_singleton_self member
    rw [membersBytes] at hfuel ⊢
    simp only [memberBytes, List.length_append, List.length_cons] at hfuel
    have hvalue := (h member hmember).read fuel depth (125 :: rest) (by omega)
      (hreadable member hmember) .brace
    rw [readMembers, readString_memberBytes]
    simp only [bind, Except.bind, readColon, skipSpace_cons (b := 58) rfl, hvalue]
    rfl
  | cons next members ih =>
    obtain ⟨fuel, rfl⟩ := Nat.exists_eq_add_one_of_ne_zero (Nat.ne_zero_of_lt hfuel)
    obtain ⟨hmember, hmembers⟩ := List.forall_mem_cons.1 h
    obtain ⟨hdeep, hdeeper⟩ := List.forall_mem_cons.1 hreadable
    rw [membersBytes] at hfuel ⊢
    simp only [memberBytes, List.length_append, List.length_cons] at hfuel
    have hmore := ih hmembers fuel (by omega) hdeeper
    have hvalue := hmember.read fuel depth
      (44 :: 34 :: (membersBytes next members ++ 125 :: rest)) (by omega) hdeep .comma
    rw [List.append_assoc, readMembers, List.cons_append, List.cons_append, readString_memberBytes]
    simp only [bind, Except.bind, readColon, skipSpace_cons (b := 58) rfl, hvalue,
      skipSpace_cons (b := 44) rfl, skipSpace_cons (b := 34) rfl, hmore]

theorem readBack_object {members : List (String × Json)}
    (h : ∀ member ∈ members, ReadBack member.2) : ReadBack (.object members) := by
  refine ⟨begins_of_ne_float (by simp), fun fuel depth rest hfuel hreadable _ => ?_⟩
  obtain ⟨depth, rfl⟩ := Nat.exists_eq_add_one_of_ne_zero (Nat.ne_zero_of_lt hreadable.nests)
  obtain ⟨fuel, rfl, hleft⟩ := exists_fuel (encode_print_object members) hfuel
  rw [encode_print_object, List.cons_append, List.append_assoc, List.singleton_append, readValue,
    skipSpace_cons rfl]
  cases members with
  | nil => rfl
  | cons member members =>
    obtain ⟨hordered, hdeep⟩ := readable_object_iff.1 hreadable
    rw [encode_printMembers] at hleft ⊢
    rw [List.length_append, List.length_cons] at hleft
    have hmembers := readMembers_print h fuel (by omega) hdeep rest
    rw [List.cons_append]
    simp [isDigit, skipSpace_cons (b := 34) rfl, hmembers, bind, Except.bind,
      ofMembers_of_pairwise hordered]

/-- A value without floats is read back. -/
theorem FloatFree.readBack {value : Json} (h : value.FloatFree) : ReadBack value := by
  induction value using induct with
  | null => exact readBack_null
  | bool b => exact readBack_bool b
  | whole n => exact readBack_whole n
  | float x => exact absurd h (not_floatFree_float x)
  | string s => exact readBack_string s
  | array items ih => exact readBack_array fun item hitem => ih item hitem (h.of_array item hitem)
  | object members ih =>
    exact readBack_object fun member hmember => ih member hmember (h.of_object member hmember)

theorem readAny_print {value : Json} (h : value.FloatFree) {depth : Nat}
    (hreadable : Readable depth value) {rest : List UInt8} (hrest : Delimits rest) :
    readAny depth (encode (print value) ++ rest) = .ok (value, rest) := by
  refine h.readBack.read _ depth rest ?_ hreadable hrest
  rw [List.length_append]
  omega

end Switchboard.Json
