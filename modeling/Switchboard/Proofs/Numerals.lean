import Switchboard.Proofs.Encoding

/-!
# Whole numbers as bytes

A whole number that was written is read back, as long as what follows it does not go on with digits,
a point or an exponent.
-/

namespace Switchboard.Json

/-- What may follow a value: nothing, a comma, or the end of an array or of an object. -/
inductive Delimits : List UInt8 → Prop
  | nothing : Delimits []
  | comma : Delimits (44 :: rest)
  | bracket : Delimits (93 :: rest)
  | brace : Delimits (125 :: rest)

/-! ## Digits -/

def digitByte (d : Nat) : UInt8 :=
  UInt8.ofNat (48 + d)

theorem encode_digitChar {d : Nat} (h : d < 10) : encode [d.digitChar] = [digitByte d] := by
  interval_cases d <;> rfl

theorem isDigit_digitByte {d : Nat} (h : d < 10) : isDigit (digitByte d) = true := by
  interval_cases d <;> rfl

theorem digitValue_digitByte {d : Nat} (h : d < 10) : digitValue (digitByte d) = d := by
  interval_cases d <;> rfl

theorem encode_toDigits_of_lt {n : Nat} (h : n < 10) :
    encode (Nat.toDigits 10 n) = [digitByte n] := by
  rw [Nat.toDigits_of_lt_base h, encode_digitChar h]

theorem encode_toDigits_of_le {n : Nat} (h : 10 ≤ n) :
    encode (Nat.toDigits 10 n) = encode (Nat.toDigits 10 (n / 10)) ++ [digitByte (n % 10)] := by
  rw [Nat.toDigits_of_base_le (by decide) h, encode_append,
    encode_digitChar (Nat.mod_lt n (by decide))]

theorem exists_encode_toDigits (n : Nat) :
    ∃ b digits, encode (Nat.toDigits 10 n) = b :: digits ∧ isDigit b = true ∧
      (n ≠ 0 → b ≠ 48) := by
  induction n using Nat.strong_induction_on with
  | _ n ih =>
    by_cases hlt : n < 10
    · refine ⟨digitByte n, [], encode_toDigits_of_lt hlt, isDigit_digitByte hlt, ?_⟩
      interval_cases n <;> decide
    · obtain ⟨b, digits, hdigits, hb, hzero⟩ := ih (n / 10) (by omega)
      refine ⟨b, digits ++ [digitByte (n % 10)], ?_, hb, fun _ => hzero (by omega)⟩
      rw [encode_toDigits_of_le (Nat.le_of_not_lt hlt), hdigits, List.cons_append]

namespace Number

theorem takeDigits_digitByte (value : Nat) {d : Nat} (hd : d < 10)
    (hvalue : value * 10 + d < wordLimit) (count : Nat) (rest : List UInt8) :
    takeDigits value count (digitByte d :: rest) =
      takeDigits (value * 10 + d) (count + 1) rest := by
  rw [takeDigits, isDigit_digitByte hd, digitValue_digitByte hd, Bool.true_and,
    if_pos (decide_eq_true hvalue)]

theorem exists_takeDigits_toDigits {n : Nat} (hn : n < wordLimit) (rest : List UInt8) :
    ∃ count, takeDigits 0 0 (encode (Nat.toDigits 10 n) ++ rest) = takeDigits n count rest := by
  induction n using Nat.strong_induction_on generalizing rest with
  | _ n ih =>
    by_cases hlt : n < 10
    · have hstep := takeDigits_digitByte 0 hlt (by omega) 0 rest
      rw [Nat.zero_mul, Nat.zero_add] at hstep
      exact ⟨1, by rw [encode_toDigits_of_lt hlt]; exact hstep⟩
    · have hdivide : n / 10 * 10 + n % 10 = n := Nat.div_add_mod' n 10
      obtain ⟨count, hcount⟩ :=
        ih (n / 10) (by omega) (by omega) (digitByte (n % 10) :: rest)
      have hstep := takeDigits_digitByte (n / 10) (Nat.mod_lt n (by decide))
        (by rw [hdivide]; exact hn) count rest
      rw [hdivide] at hstep
      refine ⟨count + 1, ?_⟩
      rw [encode_toDigits_of_le (Nat.le_of_not_lt hlt), List.append_assoc, List.singleton_append,
        hcount, hstep]

theorem takeDigits_of_delimits {rest : List UInt8} (h : Delimits rest) (value count : Nat) :
    takeDigits value count rest = (value, count, rest) := by
  cases h <;> rfl

theorem readTail_of_delimits {rest : List UInt8} (h : Delimits rest) (negative : Bool)
    (digits : Nat) : readTail negative digits rest = .ok (ofDigits negative digits, rest) := by
  cases h <;> rfl

end Number

theorem readNumber_toDigits {n : Nat} (hn : n < Number.wordLimit) {rest : List UInt8}
    (h : Delimits rest) (negative : Bool) :
    readNumber negative (encode (Nat.toDigits 10 n) ++ rest) =
      .ok (Number.ofDigits negative n, rest) := by
  by_cases hzero : n = 0
  · subst hzero
    rw [Nat.toDigits_zero]
    cases h <;> rfl
  · obtain ⟨b, digits, hdigits, hdigit, hhead⟩ := exists_encode_toDigits n
    obtain ⟨count, htake⟩ := Number.exists_takeDigits_toDigits hn rest
    rw [Number.takeDigits_of_delimits h] at htake
    rw [hdigits, List.cons_append] at htake ⊢
    unfold readNumber
    split
    · next heq => cases heq
    · next heq => exact absurd (List.cons.inj heq).1 (hhead hzero)
    · next heq =>
      cases heq
      rw [if_pos hdigit, htake]
      exact Number.readTail_of_delimits h negative n

/-! ## Signs -/

inductive Numeral.Written (n : Whole) (rest : List UInt8) : Prop
  | negative (digits : List UInt8) :
      encode (wholeText n.val) = 45 :: digits →
      readNumber true (digits ++ rest) = .ok (.whole n, rest) → Written n rest
  | nonnegative (b : UInt8) (digits : List UInt8) :
      encode (wholeText n.val) = b :: digits → isDigit b = true →
      readNumber false (b :: (digits ++ rest)) = .ok (.whole n, rest) → Written n rest

theorem Numeral.written (n : Whole) {rest : List UInt8} (h : Delimits rest) : Written n rest := by
  have hn : Whole.ofInt? n.val = some n := dif_pos ⟨n.lower, n.upper⟩
  have hword : n.val.natAbs < Number.wordLimit := by
    have := n.lower
    have := n.upper
    change n.val.natAbs < 18446744073709551616
    omega
  by_cases hsign : n.val < 0
  · have hval : -(n.val.natAbs : Int) = n.val := by omega
    refine .negative (encode (Nat.toDigits 10 n.val.natAbs)) ?_ ?_
    · rw [wholeText, if_pos hsign]
      rfl
    · have hzero : n.val.natAbs ≠ 0 := by omega
      rw [readNumber_toDigits hword h, Number.ofDigits, if_pos rfl, if_neg hzero, hval, hn]
  · have hval : (n.val.natAbs : Int) = n.val := by omega
    obtain ⟨b, digits, hdigits, hb, -⟩ := exists_encode_toDigits n.val.natAbs
    refine .nonnegative b digits ?_ hb ?_
    · rw [wholeText, if_neg hsign, hdigits]
    · rw [← List.cons_append, ← hdigits, readNumber_toDigits hword h, Number.ofDigits,
        if_neg Bool.false_ne_true, hval, hn]

end Switchboard.Json
