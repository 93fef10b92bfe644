import Switchboard.Json.Scan.Skip
import Switchboard.Proofs.NumberTexts
import Switchboard.Proofs.PrintedValues

/-!
# Values that are passed over

Whatever was printed is passed over as one value, numbers of any kind and depths of any extent
included.
-/

namespace Switchboard.Json

/-! ## Numbers -/

theorem exists_encode_digit {c : Char} (h : c.isDigit = true) :
    ∃ b, String.utf8EncodeChar c = [b] ∧ isDigit b = true ∧ (b = 48 → c = '0') := by
  obtain ⟨n, hn, rfl⟩ : ∃ n, (48 ≤ n ∧ n ≤ 57) ∧ c = Char.ofNat n := by
    refine ⟨c.toNat, ?_, (Char.ofNat_toNat c).symm⟩
    simp only [Char.isDigit, Bool.and_eq_true, decide_eq_true_eq, ge_iff_le,
      UInt32.le_iff_toNat_le] at h
    exact h
  obtain ⟨hleast, hgreatest⟩ := hn
  interval_cases n <;> exact ⟨_, rfl, rfl, by decide⟩

theorem isDigit_of_mem_encode {chars : List Char} (h : ∀ c ∈ chars, c.isDigit = true) :
    ∀ b ∈ encode chars, isDigit b = true := by
  intro b hb
  obtain ⟨c, hc, hb⟩ := List.mem_flatMap.1 hb
  obtain ⟨digit, hdigit, hisDigit, -⟩ := exists_encode_digit (h c hc)
  rw [hdigit, List.mem_singleton] at hb
  exact hb ▸ hisDigit

def NoDigit (rest : List UInt8) : Prop :=
  ∀ b ∈ rest.head?, isDigit b = false

namespace Skip

theorem digits_append {bytes rest : List UInt8} (h : ∀ b ∈ bytes, isDigit b = true)
    (hrest : NoDigit rest) : digits (bytes ++ rest) = rest := by
  rw [digits, List.dropWhile_append_of_pos h]
  cases rest with
  | nil => rfl
  | cons b rest => exact List.dropWhile_cons_of_neg (by simp [hrest b rfl])

def afterWhole : Reader Unit := fun bytes =>
  match bytes with
  | 46 :: rest =>
    match rest with
    | b :: more => if isDigit b then tail (digits more) else .error (.next .invalidNumber rest)
    | [] => .error (.next .invalidNumber [])
  | rest => tail rest

theorem number_wholePart {whole : List Char} (h : WholePart whole) {rest : List UInt8}
    (hrest : NoDigit rest) : number (encode whole ++ rest) = afterWhole rest := by
  obtain ⟨c, chars, rfl⟩ := List.exists_cons_of_ne_nil h.ne_nil
  obtain ⟨hc, hchars⟩ := List.forall_mem_cons.1 h.digits
  obtain ⟨b, hb, hdigit, hzero⟩ := exists_encode_digit hc
  rw [encode_cons, hb, List.singleton_append, List.cons_append]
  -- no digit may follow a zero, which is why it has to be the only one
  by_cases hfirst : b = 48
  · obtain rfl := hzero hfirst
    obtain rfl : chars = [] := (List.cons.inj (h.head rfl)).2
    subst hfirst
    change number (48 :: rest) = afterWhole rest
    cases rest with
    | nil => rfl
    | cons next rest =>
      rw [number]
      simp only [hrest next rfl, Bool.false_eq_true, if_false]
      rfl
  · have hdigits := digits_append (isDigit_of_mem_encode hchars) hrest
    unfold number
    split
    · next heq => cases heq
    · next heq => exact absurd (List.cons.inj heq).1 hfirst
    · next heq =>
      cases heq
      rw [if_pos hdigit, hdigits]
      rfl

theorem exists_encode_digits {chars : List Char} (h : Digits chars) {rest : List UInt8}
    (hrest : NoDigit rest) :
    ∃ b more, encode chars = b :: more ∧ isDigit b = true ∧ digits (more ++ rest) = rest := by
  obtain ⟨c, chars, rfl⟩ := List.exists_cons_of_ne_nil h.ne_nil
  obtain ⟨hc, hchars⟩ := List.forall_mem_cons.1 h.digits
  obtain ⟨b, hb, hdigit, -⟩ := exists_encode_digit hc
  refine ⟨b, encode chars, ?_, hdigit, digits_append (isDigit_of_mem_encode hchars) hrest⟩
  rw [encode_cons, hb, List.singleton_append]

theorem noDigit_of_delimits {rest : List UInt8} (h : Delimits rest) : NoDigit rest := by
  cases h <;> simp [NoDigit, isDigit]

variable {fraction exponent : List Char} {rest : List UInt8}

theorem noDigit_exponentPart (h : ExponentPart exponent) (hrest : Delimits rest) :
    NoDigit (encode exponent ++ rest) := by
  cases h with
  | absent => exact noDigit_of_delimits hrest
  | positive | negative => exact fun b hb => Option.mem_some.1 hb ▸ rfl

theorem noDigit_fractionPart (h : FractionPart fraction) (h' : ExponentPart exponent)
    (hrest : Delimits rest) : NoDigit (encode fraction ++ (encode exponent ++ rest)) := by
  cases h with
  | absent =>
    change NoDigit (encode exponent ++ rest)
    exact noDigit_exponentPart h' hrest
  | present => exact fun b hb => Option.mem_some.1 hb ▸ rfl

theorem ne_point_of_exponentPart (h : ExponentPart exponent) (hrest : Delimits rest)
    (more : List UInt8) : encode exponent ++ rest ≠ 46 :: more := by
  cases h with
  | absent => cases hrest <;> simp [encode]
  | positive | negative =>
    intro heq
    cases heq

theorem tail_exponentPart (h : ExponentPart exponent) (hrest : Delimits rest) :
    tail (encode exponent ++ rest) = .ok ((), rest) := by
  cases h with
  | absent => cases hrest <;> rfl
  | positive hdigits =>
    obtain ⟨b, more, hbytes, hb, hskip⟩ :=
      exists_encode_digits hdigits (noDigit_of_delimits hrest)
    rw [encode_cons, encode_cons, hbytes]
    change Skip.exponent (43 :: b :: (more ++ rest)) = _
    simp [Skip.exponent, hb, hskip]
  | negative hdigits =>
    obtain ⟨b, more, hbytes, hb, hskip⟩ :=
      exists_encode_digits hdigits (noDigit_of_delimits hrest)
    rw [encode_cons, encode_cons, hbytes]
    change Skip.exponent (45 :: b :: (more ++ rest)) = _
    simp [Skip.exponent, hb, hskip]

theorem afterWhole_fractionPart (h : FractionPart fraction) (h' : ExponentPart exponent)
    (hrest : Delimits rest) :
    afterWhole (encode fraction ++ (encode exponent ++ rest)) = .ok ((), rest) := by
  have htail := tail_exponentPart h' hrest
  cases h with
  | absent =>
    change afterWhole (encode exponent ++ rest) = _
    unfold afterWhole
    split
    · next hpoint => exact absurd hpoint (ne_point_of_exponentPart h' hrest _)
    · exact htail
  | present hdigits =>
    obtain ⟨b, more, hbytes, hb, hskip⟩ :=
      exists_encode_digits hdigits (noDigit_exponentPart h' hrest)
    rw [encode_cons, hbytes]
    change afterWhole (46 :: b :: (more ++ (encode exponent ++ rest))) = _
    rw [afterWhole]
    simp only [hb, if_true, hskip, htail]

theorem number_print {chars : List Char} (h : NumberText chars) (hrest : Delimits rest) :
    number (encode chars ++ rest) = .ok ((), rest) := by
  cases h with
  | parts hwhole hfraction hexponent =>
    rw [encode_append, encode_append, List.append_assoc, List.append_assoc,
      number_wholePart hwhole (noDigit_fractionPart hfraction hexponent hrest),
      afterWhole_fractionPart hfraction hexponent hrest]

/-! ## Strings -/

theorem scans_string : Text.Scans fun fuel _ bytes => string fuel bytes := by
  constructor
  · intro b hb fuel taken rest
    rw [string.eq_def]
    simp only [hb.notQuote, hb.notBackslash, hb.notControl, if_false]
  · intro c hc fuel taken rest
    cases hc with
    | quote | backslash => rfl
    | control n hn => interval_cases n <;> rfl

theorem string_escapes (chars : List Char) (fuel : Nat)
    (hfuel : (encode (chars.flatMap escape)).length < fuel) (rest : List UInt8) :
    string fuel (encode (chars.flatMap escape) ++ 34 :: rest) = .ok ((), rest) := by
  obtain ⟨left, hleft⟩ := scans_string.chars chars fuel hfuel [] (34 :: rest)
  exact hleft

end Skip

/-! ## Values -/

/-- The text of a value is passed over as one value. -/
structure PassedOver (value : Json) : Prop where
  begins : Begins value
  skip : ∀ fuel rest, 2 * (encode (print value)).length ≤ fuel → Delimits rest →
    Skip.value fuel (encode (print value) ++ rest) = .ok ((), rest)

theorem exists_digit_of_numberText {chars : List Char} (h : NumberText chars) :
    ∃ b tail, encode chars = b :: tail ∧ isDigit b = true := by
  cases h with
  | parts hwhole =>
    obtain ⟨b, more, hbytes, hb, -⟩ :=
      Skip.exists_encode_digits hwhole.toDigits (Skip.noDigit_of_delimits .nothing)
    exact ⟨b, _, by rw [encode_append, encode_append, hbytes]; rfl, hb⟩

theorem passedOver_of_numeralText {value : Json} (h : NumeralText (print value)) :
    PassedOver value := by
  generalize htext : print value = chars at h
  cases h with
  | unsigned hnumber =>
    obtain ⟨b, tail, hbytes, hb⟩ := exists_digit_of_numberText hnumber
    refine ⟨⟨b, tail, htext ▸ hbytes, leads_of_isDigit hb⟩, fun fuel rest hfuel hrest => ?_⟩
    have hskip := Skip.number_print hnumber hrest
    have hne := ne_of_isDigit hb
    rw [htext] at hfuel ⊢
    obtain ⟨fuel, rfl, -⟩ := exists_fuel hbytes hfuel
    rw [hbytes, List.cons_append] at hskip ⊢
    rw [Skip.value, skipSpace_cons (leads_of_isDigit hb).notSpace]
    simp [hb, hne 110 rfl, hne 116 rfl, hne 102 rfl, hne 45 rfl, hskip]
  | @negative digits hnumber =>
    have hbytes : encode ('-' :: digits) = 45 :: encode digits := rfl
    refine ⟨⟨45, encode digits, htext ▸ hbytes, rfl, by decide⟩, fun fuel rest hfuel hrest => ?_⟩
    have hskip := Skip.number_print hnumber hrest
    rw [htext] at hfuel ⊢
    obtain ⟨fuel, rfl, -⟩ := exists_fuel hbytes hfuel
    rw [hbytes, List.cons_append, Skip.value, skipSpace_cons rfl]
    simp [hskip]
  | null =>
    have hbytes : encode nullText = [110, 117, 108, 108] := rfl
    refine ⟨⟨110, [117, 108, 108], htext ▸ hbytes, rfl, by decide⟩, fun fuel rest hfuel _ => ?_⟩
    rw [htext] at hfuel ⊢
    obtain ⟨fuel, rfl, -⟩ := exists_fuel hbytes hfuel
    rfl

theorem passedOver_bool (b : Bool) : PassedOver (.bool b) := by
  refine ⟨begins_of_ne_float (by simp), fun fuel rest hfuel _ => ?_⟩
  obtain ⟨_, _, hbytes, -⟩ := exists_lead (.bool b) (by simp)
  obtain ⟨fuel, rfl, -⟩ := exists_fuel hbytes hfuel
  cases b <;> rfl

theorem passedOver_string (s : String) : PassedOver (.string s) := by
  refine ⟨begins_of_ne_float (by simp), fun fuel rest hfuel _ => ?_⟩
  have hskip := Skip.string_escapes s.toList
    ((encode (s.toList.flatMap escape) ++ 34 :: rest).length + 1)
    (by rw [List.length_append]; omega) rest
  rw [print, encode_stringText] at hfuel ⊢
  obtain ⟨fuel, rfl, -⟩ := exists_fuel rfl hfuel
  rw [List.cons_append, List.append_assoc, List.singleton_append, Skip.value, skipSpace_cons rfl]
  simp only [show isDigit 34 = false from rfl]
  exact hskip

theorem skipItems_print {item : Json} {items : List Json}
    (h : ∀ other ∈ item :: items, PassedOver other) (fuel : Nat)
    (hfuel : 2 * (encode (printItems (item :: items))).length < fuel) (rest : List UInt8) :
    Skip.items fuel (encode (printItems (item :: items)) ++ 93 :: rest) = .ok ((), rest) := by
  induction items generalizing item fuel with
  | nil =>
    obtain ⟨fuel, rfl⟩ := Nat.exists_eq_add_one_of_ne_zero (Nat.ne_zero_of_lt hfuel)
    have hitem := h item (List.mem_singleton_self item)
    rw [printItems] at hfuel ⊢
    rw [Skip.items, hitem.skip fuel _ (by omega) .bracket]
    rfl
  | cons next items ih =>
    obtain ⟨fuel, rfl⟩ := Nat.exists_eq_add_one_of_ne_zero (Nat.ne_zero_of_lt hfuel)
    obtain ⟨hitem, hitems⟩ := List.forall_mem_cons.1 h
    rw [encode_printItems_cons, List.length_append, List.length_cons] at hfuel
    have hmore := ih hitems fuel (by omega)
    rw [encode_printItems_cons, List.append_assoc, List.cons_append, Skip.items,
      hitem.skip fuel _ (by omega) .comma]
    exact hmore

theorem passedOver_array {items : List Json} (h : ∀ item ∈ items, PassedOver item) :
    PassedOver (.array items) := by
  refine ⟨begins_of_ne_float (by simp), fun fuel rest hfuel _ => ?_⟩
  obtain ⟨fuel, rfl, hleft⟩ := exists_fuel (encode_print_array items) hfuel
  rw [encode_print_array, List.cons_append, List.append_assoc, List.singleton_append, Skip.value,
    skipSpace_cons rfl]
  cases items with
  | nil => rfl
  | cons item items =>
    rw [List.length_append, List.length_singleton] at hleft
    have hitems := skipItems_print h fuel (by omega) rest
    obtain ⟨b, tail, hfirst, hlead⟩ := begins_printItems (h item List.mem_cons_self).begins items
    rw [hfirst, List.cons_append] at hitems ⊢
    simp [isDigit, skipSpace_cons hlead.notSpace, hlead.notBracket, hitems]

theorem string_memberBytes (member : String × Json) (rest : List UInt8) :
    Skip.string ((memberBytes member ++ rest).length + 1) (memberBytes member ++ rest) =
      .ok ((), 58 :: (encode (print member.2) ++ rest)) := by
  have hbytes : memberBytes member ++ rest = encode (member.1.toList.flatMap escape) ++
      34 :: 58 :: (encode (print member.2) ++ rest) := by
    rw [memberBytes, List.append_assoc]
    rfl
  rw [hbytes]
  refine Skip.string_escapes _ _ ?_ _
  rw [List.length_append]
  omega

theorem skipMembers_print {member : String × Json} {members : List (String × Json)}
    (h : ∀ other ∈ member :: members, PassedOver other.2) (fuel : Nat)
    (hfuel : 2 * (membersBytes member members).length < fuel) (rest : List UInt8) :
    Skip.members fuel (34 :: (membersBytes member members ++ 125 :: rest)) = .ok ((), rest) := by
  induction members generalizing member fuel with
  | nil =>
    obtain ⟨fuel, rfl⟩ := Nat.exists_eq_add_one_of_ne_zero (Nat.ne_zero_of_lt hfuel)
    have hmember := h member (List.mem_singleton_self member)
    rw [membersBytes] at hfuel ⊢
    simp only [memberBytes, List.length_append, List.length_cons] at hfuel
    have hvalue := hmember.skip fuel (125 :: rest) (by omega) .brace
    rw [Skip.members, skipSpace_cons rfl]
    simp only [bind, Except.bind, string_memberBytes, readColon, skipSpace_cons (b := 58) rfl,
      hvalue, skipSpace_cons (b := 125) rfl]
  | cons next members ih =>
    obtain ⟨fuel, rfl⟩ := Nat.exists_eq_add_one_of_ne_zero (Nat.ne_zero_of_lt hfuel)
    obtain ⟨hmember, hmembers⟩ := List.forall_mem_cons.1 h
    rw [membersBytes] at hfuel ⊢
    simp only [memberBytes, List.length_append, List.length_cons] at hfuel
    have hmore := ih hmembers fuel (by omega)
    have hvalue := hmember.skip fuel (44 :: 34 :: (membersBytes next members ++ 125 :: rest))
      (by omega) .comma
    rw [List.append_assoc, List.cons_append, List.cons_append, Skip.members, skipSpace_cons rfl]
    simp only [bind, Except.bind, string_memberBytes, readColon, skipSpace_cons (b := 58) rfl,
      hvalue, skipSpace_cons (b := 44) rfl, hmore]

theorem passedOver_object {members : List (String × Json)}
    (h : ∀ member ∈ members, PassedOver member.2) : PassedOver (.object members) := by
  refine ⟨begins_of_ne_float (by simp), fun fuel rest hfuel _ => ?_⟩
  obtain ⟨fuel, rfl, hleft⟩ := exists_fuel (encode_print_object members) hfuel
  rw [encode_print_object, List.cons_append, List.append_assoc, List.singleton_append, Skip.value,
    skipSpace_cons rfl]
  cases members with
  | nil => rfl
  | cons member members =>
    rw [encode_printMembers] at hleft ⊢
    rw [List.length_append, List.length_cons] at hleft
    exact skipMembers_print h fuel (by omega) rest

theorem passedOver (value : Json) : PassedOver value := by
  induction value using induct with
  | null => exact passedOver_of_numeralText .null
  | bool b => exact passedOver_bool b
  | whole n => exact passedOver_of_numeralText (.wholeText n.val)
  | float x => exact passedOver_of_numeralText (.floatText doubleLayout .double x)
  | string s => exact passedOver_string s
  | array items ih => exact passedOver_array ih
  | object members ih => exact passedOver_object ih

theorem skipValue_print (value : Json) {rest : List UInt8} (hrest : Delimits rest) :
    skipValue (encode (print value) ++ rest) = .ok ((), rest) := by
  refine (passedOver value).skip _ rest ?_ hrest
  rw [List.length_append]
  omega

end Switchboard.Json
