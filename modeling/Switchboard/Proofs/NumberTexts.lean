import Switchboard.Json.Printer
import Switchboard.Proofs.Decimals
import Switchboard.Proofs.Numerals

/-!
# How numbers are written

Every number is written as the grammar of JSON asks: digits that do not begin with a zero unless it
is the only one, with digits after a point or none, and with an exponent or none.
-/

namespace Switchboard

structure Digits (chars : List Char) : Prop where
  ne_nil : chars ≠ []
  digits : ∀ c ∈ chars, c.isDigit = true

/-- The digits of a whole number: they begin with no zero, unless it is the only one. -/
structure WholePart (chars : List Char) : Prop extends Digits chars where
  head : chars.head? = some '0' → chars = ['0']

inductive FractionPart : List Char → Prop
  | absent : FractionPart []
  | present : Digits chars → FractionPart ('.' :: chars)

inductive ExponentPart : List Char → Prop
  | absent : ExponentPart []
  | positive : Digits chars → ExponentPart ('e' :: '+' :: chars)
  | negative : Digits chars → ExponentPart ('e' :: '-' :: chars)

/-- The text of a number without its sign. -/
inductive NumberText : List Char → Prop
  | parts : WholePart whole → FractionPart fraction → ExponentPart exponent →
      NumberText (whole ++ fraction ++ exponent)

namespace Digits

variable {chars : List Char}

theorem append {more : List Char} (h : Digits chars) (hmore : ∀ c ∈ more, c.isDigit = true) :
    Digits (chars ++ more) :=
  ⟨List.append_ne_nil_of_left_ne_nil h.ne_nil more,
    fun c hc => (List.mem_append.1 hc).elim (h.digits c) (hmore c)⟩

theorem wholePart (h : Digits chars) (hhead : chars.head? ≠ some '0') : WholePart chars :=
  ⟨h, fun hzero => absurd hzero hhead⟩

theorem toDigits (n : Nat) : Digits (Nat.toDigits 10 n) :=
  ⟨Nat.toDigits_ne_nil, fun _ hc => Nat.isDigit_of_mem_toDigits (by decide) (by decide) hc⟩

theorem zero : Digits ['0'] :=
  toDigits 0

end Digits

theorem WholePart.zero : WholePart ['0'] :=
  ⟨.zero, fun _ => rfl⟩

theorem isDigit_of_mem_zeros {n : Nat} {c : Char} (h : c ∈ DecimalLayout.zeros n) :
    c.isDigit = true :=
  List.eq_of_mem_replicate h ▸ rfl

theorem toDigits_head {n : Nat} (hn : n ≠ 0) : (Nat.toDigits 10 n).head? ≠ some '0' := by
  intro hhead
  obtain ⟨tail, htail⟩ := List.head?_eq_some_iff.1 hhead
  obtain ⟨b, digits, hdigits, -, hzero⟩ := Json.exists_encode_toDigits n
  rw [htail, Json.encode_cons] at hdigits
  exact hzero hn (List.cons.inj hdigits).1.symm

namespace NumberText

theorem toDigits (n : Nat) : NumberText (Nat.toDigits 10 n) := by
  have hwhole : WholePart (Nat.toDigits 10 n) := by
    refine ⟨.toDigits n, fun hhead => ?_⟩
    by_cases hn : n = 0
    · rw [hn, Nat.toDigits_zero]
    · exact absurd hhead (toDigits_head hn)
  simpa using parts hwhole .absent .absent

variable {digits : List Char}

theorem positional (h : Digits digits) (hhead : digits.head? ≠ some '0') (leading : Int) :
    NumberText (DecimalLayout.positional digits leading) := by
  rw [DecimalLayout.positional]
  split
  · have hfraction : Digits (DecimalLayout.zeros ((-leading).toNat - 1) ++ digits) :=
      ⟨List.append_ne_nil_of_right_ne_nil _ h.ne_nil,
        fun c hc => (List.mem_append.1 hc).elim isDigit_of_mem_zeros (h.digits c)⟩
    simpa using parts .zero (.present hfraction) .absent
  dsimp only
  split
  · have hdigits := h.append (fun c hc => isDigit_of_mem_zeros hc :
      ∀ c ∈ DecimalLayout.zeros (leading.toNat + 1 - digits.length), c.isDigit = true)
    have hwhole := hdigits.wholePart (by rwa [List.head?_append_of_ne_nil _ h.ne_nil])
    simpa using parts hwhole (.present .zero) .absent
  · next hlong =>
    have htake : Digits (digits.take (leading.toNat + 1)) :=
      ⟨by simpa using h.ne_nil, fun c hc => h.digits c (List.mem_of_mem_take hc)⟩
    have hdrop : Digits (digits.drop (leading.toNat + 1)) :=
      ⟨by simpa using hlong, fun c hc => h.digits c (List.mem_of_mem_drop hc)⟩
    have hwhole := htake.wholePart (by rwa [List.head?_take, if_neg (Nat.succ_ne_zero _)])
    simpa using parts hwhole (.present hdrop) .absent

theorem scientific (h : Digits digits) (hhead : digits.head? ≠ some '0') (leading : Int) :
    NumberText (DecimalLayout.scientific digits leading) := by
  have hexponent : ExponentPart
      ('e' :: (if leading < 0 then '-' else '+') :: Nat.toDigits 10 leading.natAbs) := by
    split
    · exact .negative (.toDigits _)
    · exact .positive (.toDigits _)
  match digits with
  | [] => exact absurd rfl h.ne_nil
  | [d] =>
    simpa [DecimalLayout.scientific] using parts (h.wholePart hhead) .absent hexponent
  | d :: e :: rest =>
    obtain ⟨hd, hmore⟩ := List.forall_mem_cons.1 h.digits
    have hwhole : WholePart [d] :=
      Digits.wholePart ⟨List.cons_ne_nil d [], by simpa using hd⟩ hhead
    have hfraction : Digits (e :: rest) := ⟨List.cons_ne_nil e rest, hmore⟩
    simpa [DecimalLayout.scientific] using parts hwhole (.present hfraction) hexponent

theorem decimal (layout : DecimalLayout) {d : Decimal} (h : d.digits ≠ 0) :
    NumberText (layout.decimal d) := by
  rw [DecimalLayout.decimal]
  split
  · exact positional (.toDigits _) (toDigits_head h) _
  · exact scientific (.toDigits _) (toDigits_head h) _

end NumberText

inductive NumeralText : List Char → Prop
  | unsigned : NumberText chars → NumeralText chars
  | negative : NumberText chars → NumeralText ('-' :: chars)
  | null : NumeralText Json.nullText

namespace NumeralText

theorem wholeText (n : Int) : NumeralText (Json.wholeText n) := by
  rw [Json.wholeText]
  split
  · exact .negative (.toDigits _)
  · exact .unsigned (.toDigits _)

theorem floatText (layout : DecimalLayout) (format : FloatFormat) (x : Floating) :
    NumeralText (Json.floatText layout format x) := by
  rw [Json.floatText]
  cases x with
  | infinite | nan => exact .null
  | finite negative mantissa exponent =>
    have hdigits : NumberText (if mantissa = 0 then ['0', '.', '0']
        else layout.decimal (Decimal.shortest format mantissa exponent)) := by
      split
      · exact .parts .zero (.present .zero) .absent
      · next hmantissa =>
        exact .decimal layout (Decimal.shortest_ne_zero format hmantissa exponent)
    rw [DecimalLayout.floating?, Option.getD_some]
    split
    · exact .negative hdigits
    · exact .unsigned hdigits

end NumeralText

end Switchboard
