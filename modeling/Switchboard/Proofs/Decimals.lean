import Mathlib.Tactic
import Switchboard.Decimal.Shortest

/-!
# Decimals of positive numbers

The shortest decimal of a number other than zero is not zero: the grids on which it is looked for
are never coarser than the number is large.
-/

namespace Switchboard.Decimal

theorem strip_digits_ne_zero (n : Nat) {d : Decimal} (h : d.digits ≠ 0) :
    (strip n d).digits ≠ 0 := by
  induction n generalizing d with
  | zero => exact h
  | succ n ih =>
    rw [strip]
    split
    · next hzero =>
      apply ih
      change d.digits / 10 ≠ 0
      omega
    · exact h

theorem pow_width_le {n : Nat} (h : n ≠ 0) : 10 ^ (width n - 1) ≤ n := by
  by_cases hwidth : width n - 1 = 0
  · rw [hwidth]
    exact Nat.one_le_iff_ne_zero.2 h
  · by_contra hlt
    have hlength : width n ≤ width n - 1 :=
      (Nat.length_toDigits_le_iff (by decide) (Nat.pos_of_ne_zero hwidth)).2
        (Nat.lt_of_not_le hlt)
    omega

theorem le_mul_pow_tensBelow (fuel count : Nat) {num den : Nat} (h : den ≤ num * 10 ^ fuel) :
    count ≤ tensBelow fuel count num den ∧
      den ≤ num * 10 ^ (tensBelow fuel count num den - count) := by
  induction fuel generalizing count num with
  | zero => exact ⟨Nat.le_refl _, by simpa [tensBelow] using h⟩
  | succ fuel ih =>
    rw [tensBelow]
    split
    · next hle => exact ⟨Nat.le_refl _, by simpa using hle⟩
    · have hmore : den ≤ num * 10 * 10 ^ fuel := by
        rwa [Nat.mul_assoc, ← Nat.pow_succ']
      obtain ⟨hcount, hden⟩ := ih (count + 1) hmore
      refine ⟨by omega, ?_⟩
      rw [Nat.mul_assoc, ← Nat.pow_succ'] at hden
      rwa [show tensBelow fuel (count + 1) (num * 10) den - count =
        tensBelow fuel (count + 1) (num * 10) den - (count + 1) + 1 by omega]

theorem den_mul_le_of_leadingExponent {num den : Nat} (hnum : num ≠ 0) (hden : den ≠ 0) :
    den * 10 ^ (leadingExponent num den).toNat ≤ num * 10 ^ (-leadingExponent num den).toNat := by
  rw [leadingExponent]
  split
  · next hle =>
    have hquotient : num / den ≠ 0 := Nat.div_ne_zero_iff.2 ⟨hden, hle⟩
    have hwidth : 0 < width (num / den) := Nat.length_toDigits_pos
    have hpow := pow_width_le hquotient
    have hexponent : ((width (num / den) : Int) - 1).toNat = width (num / den) - 1 := by omega
    have hnegative : (-((width (num / den) : Int) - 1)).toNat = 0 := by omega
    rw [hexponent, hnegative, Nat.pow_zero, Nat.mul_one]
    calc den * 10 ^ (width (num / den) - 1) ≤ den * (num / den) := Nat.mul_le_mul_left den hpow
      _ ≤ num := Nat.mul_div_le num den
  · have hlog : den < 2 ^ (den.log2 + 1) := Nat.lt_log2_self
    have hfuel : den ≤ num * 10 ^ (den.log2 + 1) :=
      calc den ≤ 2 ^ (den.log2 + 1) := hlog.le
        _ ≤ 10 ^ (den.log2 + 1) := Nat.pow_le_pow_left (by decide) _
        _ ≤ num * 10 ^ (den.log2 + 1) := Nat.le_mul_of_pos_left _ (Nat.pos_of_ne_zero hnum)
    have htens := (le_mul_pow_tensBelow (den.log2 + 1) 0 hfuel).2
    simpa using htens

namespace Interval

/-- A grid that is not coarser than the number is large. -/
def Reaches (interval : Interval) (grid : Int) : Prop :=
  (interval.scaled grid interval.middle).2 ≤ (interval.scaled grid interval.middle).1

theorem Reaches.pred {interval : Interval} {grid : Int} (h : interval.Reaches grid) :
    interval.Reaches (grid - 1) := by
  have hup : (-grid).toNat ≤ (-(grid - 1)).toNat := by omega
  have hdown : (grid - 1).toNat ≤ grid.toNat := by omega
  calc (interval.scaled (grid - 1) interval.middle).2
      ≤ (interval.scaled grid interval.middle).2 :=
        Nat.mul_le_mul_left _ (Nat.pow_le_pow_right (by decide) hdown)
    _ ≤ (interval.scaled grid interval.middle).1 := h
    _ ≤ (interval.scaled (grid - 1) interval.middle).1 :=
        Nat.mul_le_mul_left _ (Nat.pow_le_pow_right (by decide) hup)

theorem scaled_den_pos (interval : Interval) (grid : Int) (n : Nat) :
    0 < (interval.scaled grid n).2 := by
  rw [scaled, Nat.one_shiftLeft]
  exact Nat.mul_pos (Nat.pow_pos (by decide)) (Nat.pow_pos (by decide))

theorem scaled_num_ne_zero (interval : Interval) (grid : Int) {n : Nat} (hn : n ≠ 0) :
    (interval.scaled grid n).1 ≠ 0 := by
  rw [scaled, Nat.shiftLeft_eq]
  exact Nat.mul_ne_zero (Nat.mul_ne_zero hn (Nat.pow_pos (by decide)).ne')
    (Nat.pow_pos (by decide)).ne'

variable {interval : Interval}

theorem not_holds_zero (hlow : interval.low ≠ 0) (hhigh : interval.high ≠ 0) (grid : Int) :
    interval.holds grid 0 = false := by
  have hlow := (scaled_num_ne_zero interval grid hlow).symm
  have hhigh := (scaled_num_ne_zero interval grid hhigh).symm
  simp [holds, hlow, hhigh]

theorem onGrid?_ne_zero (hlow : interval.low ≠ 0) (hhigh : interval.high ≠ 0) {grid : Int}
    {digits : Nat} (h : interval.onGrid? grid = some digits) : digits ≠ 0 := by
  have hpick : ∀ first second : Nat, (if interval.holds grid first then some first
      else if interval.holds grid second then some second else none) = some digits →
      interval.holds grid digits = true := by
    intro first second h
    split at h
    · next hfirst => exact Option.some.inj h ▸ hfirst
    split at h
    · next hsecond => exact Option.some.inj h ▸ hsecond
    · cases h
  have hholds := hpick _ _ h
  rintro rfl
  exact Bool.false_ne_true ((not_holds_zero hlow hhigh grid).symm.trans hholds)

theorem search_ne_zero (hlow : interval.low ≠ 0) (hhigh : interval.high ≠ 0) (fuel : Nat)
    {grid : Int} (h : interval.Reaches grid) : (interval.search fuel grid).digits ≠ 0 := by
  induction fuel generalizing grid with
  | zero =>
    -- at the end the quotient itself is taken
    exact Nat.div_ne_zero_iff.2 ⟨(scaled_den_pos _ _ interval.middle).ne', h⟩
  | succ fuel ih =>
    rw [search]
    split
    · next hdigits => exact strip_digits_ne_zero _ (onGrid?_ne_zero hlow hhigh hdigits)
    · exact ih h.pred

theorem exists_ratio_factor (mantissa : Nat) (exponent : Int) :
    ∃ factor,
      (4 * mantissa) <<< (exponent - 2).toNat = factor * (Floating.ratio mantissa exponent).1 ∧
      1 <<< (-(exponent - 2)).toNat = factor * (Floating.ratio mantissa exponent).2 := by
  simp only [Floating.ratio, Nat.shiftLeft_eq]
  rcases (by omega : exponent ≤ 0 ∨ exponent = 1 ∨ 2 ≤ exponent) with h | rfl | h
  · have hleft : (exponent - 2).toNat = 0 := by omega
    have hright : (-(exponent - 2)).toNat = (-exponent).toNat + 2 := by omega
    have hzero : exponent.toNat = 0 := by omega
    exact ⟨4, by rw [hleft, hzero]; ring, by rw [hright]; ring⟩
  · refine ⟨2, ?_, rfl⟩
    change 4 * mantissa * 2 ^ 0 = 2 * (mantissa * 2 ^ 1)
    ring
  · have hleft : exponent.toNat = (exponent - 2).toNat + 2 := by omega
    have hright : (-(exponent - 2)).toNat = 0 := by omega
    have hzero : (-exponent).toNat = 0 := by omega
    exact ⟨1, by rw [hleft]; ring, by rw [hright, hzero]⟩

theorem reaches_leadingExponent (format : FloatFormat) {mantissa : Nat} (hmantissa : mantissa ≠ 0)
    (exponent : Int) :
    (intervalOf format mantissa exponent).Reaches
      (leadingExponent (Floating.ratio mantissa exponent).1
        (Floating.ratio mantissa exponent).2) := by
  obtain ⟨factor, hnum, hden⟩ := exists_ratio_factor mantissa exponent
  have hnonzero : (Floating.ratio mantissa exponent).1 ≠ 0 := by
    rw [Floating.ratio, Nat.shiftLeft_eq]
    exact Nat.mul_ne_zero hmantissa (Nat.pow_pos (by decide)).ne'
  have hpositive : (Floating.ratio mantissa exponent).2 ≠ 0 := by
    rw [Floating.ratio, Nat.one_shiftLeft]
    exact (Nat.pow_pos (by decide)).ne'
  have hratio := den_mul_le_of_leadingExponent hnonzero hpositive
  generalize leadingExponent _ _ = grid at hratio ⊢
  simp only [Reaches, scaled, intervalOf]
  rw [hnum, hden, Nat.mul_assoc, Nat.mul_assoc]
  exact Nat.mul_le_mul_left factor hratio

end Interval

theorem shortest_ne_zero (format : FloatFormat) {mantissa : Nat} (hmantissa : mantissa ≠ 0)
    (exponent : Int) : (shortest format mantissa exponent).digits ≠ 0 := by
  have hlow : (intervalOf format mantissa exponent).low ≠ 0 := by
    simp only [intervalOf]
    split <;> omega
  have hhigh : (intervalOf format mantissa exponent).high ≠ 0 := by
    simp [intervalOf]
  exact Interval.search_ne_zero hlow hhigh _
    (Interval.reaches_leadingExponent format hmantissa exponent)

end Switchboard.Decimal
