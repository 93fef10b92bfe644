import Mathlib.Tactic
import Switchboard.Text.LetterCase

/-!
# Capitals and their lower-case forms

No character is both a capital and a small letter. The lower-case form of a capital is a small
letter, except that one capital has a form of two characters, and that many have none: an unpaired
capital is its own lower-case form.
-/

namespace Switchboard

namespace CodePointRun

variable {run other : CodePointRun} {n image : Nat}

theorem covers_iff :
    run.covers n = true ↔ run.first ≤ n ∧ n ≤ run.last ∧ (n - run.first) % run.step = 0 := by
  simp [covers, and_assoc]

/-- A run that is moved, so that its first member is the image, is part of another one. -/
def lands (run : CodePointRun) (image : Nat) (other : CodePointRun) : Bool :=
  other.first ≤ image && image + (run.last - run.first) ≤ other.last &&
    (image - other.first) % other.step == 0 &&
    (run.first == run.last || run.step % other.step == 0)

theorem covers_of_lands (h : run.lands image other = true) (hn : run.covers n = true) :
    other.covers (image + (n - run.first)) = true := by
  simp only [lands, Bool.and_eq_true, Bool.or_eq_true, decide_eq_true_eq, beq_iff_eq] at h
  obtain ⟨⟨⟨hfirst, hlast⟩, hplace⟩, hsteps⟩ := h
  obtain ⟨hn, hn', hstep⟩ := covers_iff.1 hn
  have hdistance : other.step ∣ n - run.first := by
    rcases hsteps with hsingle | hsteps
    · have hzero : n - run.first = 0 := by omega
      rw [hzero]
      exact dvd_zero _
    · exact (Nat.dvd_of_mod_eq_zero hsteps).trans (Nat.dvd_of_mod_eq_zero hstep)
  have hsplit : image + (n - run.first) - other.first =
      (image - other.first) + (n - run.first) := by
    omega
  refine covers_iff.2 ⟨by omega, by omega, Nat.mod_eq_zero_of_dvd ?_⟩
  rw [hsplit]
  exact (Nat.dvd_of_mod_eq_zero hplace).add hdistance

def isAlternating (run : CodePointRun) : Bool :=
  run.step == 2 || run.first == run.last

theorem mod_two_of_covers (h : run.isAlternating = true) (hn : run.covers n = true) :
    n % 2 = run.first % 2 := by
  simp only [isAlternating, Bool.or_eq_true, beq_iff_eq] at h
  obtain ⟨hfirst, hlast, hstep⟩ := covers_iff.1 hn
  rcases h with htwo | hsingle
  · rw [htwo] at hstep
    omega
  · have : n = run.first := by omega
    rw [this]

def isApart (run other : CodePointRun) : Bool :=
  run.last.blt other.first || other.last.blt run.first ||
    (run.isAlternating && other.isAlternating && run.first % 2 != other.first % 2)

theorem not_covers_of_isApart (h : run.isApart other = true) (hn : run.covers n = true) :
    other.covers n = false := by
  rw [← Bool.not_eq_true]
  intro hother
  have hparity (h : run.isAlternating = true) := mod_two_of_covers h hn
  have hparity' (h : other.isAlternating = true) := mod_two_of_covers h hother
  obtain ⟨hfirst, hlast, -⟩ := covers_iff.1 hn
  obtain ⟨hfirst', hlast', -⟩ := covers_iff.1 hother
  simp only [isApart, Bool.or_eq_true, Bool.and_eq_true, Nat.blt_eq, bne_iff_ne] at h
  rcases h with (hbefore | hbehind) | ⟨⟨hrun, hother⟩, hne⟩
  · omega
  · omega
  · exact hne ((hparity hrun).symm.trans (hparity' hother))

end CodePointRun

namespace LetterCase

/-! ## The tables -/

private theorem upperRuns_isApart :
    upperRuns.all (fun upper => lowerRuns.all upper.isApart) = true := by
  decide +kernel

private theorem loweringRuns_lands :
    loweringRuns.all (fun (run, image) => lowerRuns.any (run.lands image)) = true := by
  decide +kernel

private theorem lowerRuns_valid :
    lowerRuns.all (fun run =>
      run.last < 0xD800 || (0xDFFF < run.first && run.last < 0x110000)) = true := by
  decide +kernel

private theorem isValidChar_of_lower {run : CodePointRun} {n : Nat} (hrun : run ∈ lowerRuns)
    (hn : run.covers n = true) : n.isValidChar := by
  have hvalid := List.all_eq_true.1 lowerRuns_valid run hrun
  simp only [Bool.or_eq_true, Bool.and_eq_true, decide_eq_true_eq] at hvalid
  obtain ⟨hfirst, hlast, -⟩ := CodePointRun.covers_iff.1 hn
  rcases hvalid with hlow | ⟨hhigh, hmax⟩
  · exact .inl (by omega)
  · exact .inr ⟨by omega, by omega⟩

/-! ## Characters -/

theorem toNat_ofNat {n : Nat} (h : n.isValidChar) : (Char.ofNat n).toNat = n := by
  rw [Char.ofNat, dif_pos h]
  rfl

theorem isLower_of_isUpper {c : Char} (h : isUpper c = true) : isLower c = false := by
  obtain ⟨upper, hupper, hcovers⟩ := List.any_eq_true.1 h
  rw [isLower, List.any_eq_false]
  intro lower hlower
  have hapart := List.all_eq_true.1 (List.all_eq_true.1 upperRuns_isApart upper hupper) lower hlower
  rw [CodePointRun.not_covers_of_isApart hapart hcovers]
  exact Bool.false_ne_true

theorem isUpper_of_isLower {c : Char} (h : isLower c = true) : isUpper c = false := by
  rw [← Bool.not_eq_true]
  intro hupper
  rw [isLower_of_isUpper hupper] at h
  cases h

/-- A capital with a lower-case form of one character. -/
def Paired (c : Char) : Prop :=
  isUpper c = true ∧ ∃ d, toLower c = [d] ∧ isLower d = true

/-- A capital without a lower-case form. -/
def Unpaired (c : Char) : Prop :=
  isUpper c = true ∧ toLower c = [c]

theorem toLower_dotted : toLower 'İ' = ['i', Char.ofNat 0x307] := by decide

/-- A capital has a lower-case form of one character or none, but for the one whose form has two. -/
theorem cases_of_isUpper {c : Char} (h : isUpper c = true) : Paired c ∨ Unpaired c ∨ c = 'İ' := by
  by_cases hdotted : c.toNat = 0x130
  · have hc : c = 'İ' := by
      rw [← Char.ofNat_toNat c, hdotted]
    exact .inr (.inr hc)
  · cases hfound : loweringRuns.find? (·.1.covers c.toNat) with
    | none =>
      refine .inr (.inl ⟨h, ?_⟩)
      rw [toLower, if_neg hdotted, hfound]
    | some row =>
      obtain ⟨run, image⟩ := row
      have hcovers : run.covers c.toNat = true := by simpa using List.find?_some hfound
      have hmem := List.mem_of_find?_eq_some hfound
      obtain ⟨lower, hlower, hlands⟩ :=
        List.any_eq_true.1 (List.all_eq_true.1 loweringRuns_lands _ hmem)
      have hlowered := CodePointRun.covers_of_lands hlands hcovers
      refine .inl ⟨h, Char.ofNat (image + (c.toNat - run.first)), ?_, ?_⟩
      · rw [toLower, if_neg hdotted, hfound]
      · rw [isLower, toNat_ofNat (isValidChar_of_lower hlower hlowered)]
        exact List.any_eq_true.2 ⟨lower, hlower, hlowered⟩

theorem Paired.not_unpaired {c : Char} (h : Paired c) : ¬Unpaired c := by
  rintro ⟨hupper, hself⟩
  obtain ⟨-, d, hform, hlower⟩ := h
  obtain rfl : c = d := by simpa [hself] using hform
  rw [isLower_of_isUpper hupper] at hlower
  cases hlower

theorem not_unpaired_dotted : ¬Unpaired 'İ' := by
  rintro ⟨-, hself⟩
  rw [toLower_dotted] at hself
  cases hself

theorem isUpper_of_mem_toLower {c d : Char} (hc : isUpper c = true)
    (hpaired : ¬Unpaired c) (hd : d ∈ toLower c) : isUpper d = false := by
  rcases cases_of_isUpper hc with ⟨-, lower, hform, hlower⟩ | hunpaired | rfl
  · rw [hform, List.mem_singleton] at hd
    rw [hd]
    exact isUpper_of_isLower hlower
  · exact absurd hunpaired hpaired
  · have hletter : isUpper 'i' = false := by decide +kernel
    have hdot : isUpper (Char.ofNat 0x307) = false := by decide +kernel
    rw [toLower_dotted] at hd
    rcases List.mem_cons.1 hd with rfl | hd
    · exact hletter
    · rw [List.mem_singleton.1 hd]
      exact hdot

end LetterCase

end Switchboard
