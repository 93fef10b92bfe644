import Mathlib.Tactic
import Switchboard.Naming
import Switchboard.Proofs.LetterCases

/-!
# Folded names

What folding leaves alone: separators, and names without upper-case characters. The only ones of a
folded name are unpaired and stood in the name. In ASCII there are none, so that folding a folded
name again changes nothing.
-/

namespace Switchboard

namespace LetterCase

private theorem upperRuns_tail : upperRuns.tail.all (128 ≤ ·.first) = true := by decide +kernel

theorem isUpper_iff_of_ascii {c : Char} (hc : c.toNat < 128) :
    isUpper c = true ↔ 'A'.toNat ≤ c.toNat ∧ c.toNat ≤ 'Z'.toNat := by
  have hsplit : upperRuns = ⟨0x41, 0x5A, 1⟩ :: upperRuns.tail := rfl
  have htail : upperRuns.tail.any (·.covers c.toNat) = false := by
    rw [List.any_eq_false]
    intro run hrun hcovers
    have hfirst : 128 ≤ run.first := by simpa using List.all_eq_true.1 upperRuns_tail run hrun
    simp only [CodePointRun.covers, Bool.and_eq_true, decide_eq_true_eq] at hcovers
    omega
  rw [isUpper, hsplit, List.any_cons, htail, Bool.or_false]
  simp [CodePointRun.covers, Nat.mod_one]

theorem isUpper_underscore : isUpper '_' = false := by
  rw [← Bool.not_eq_true, isUpper_iff_of_ascii (by decide)]
  decide

theorem isLower_underscore : isLower '_' = false := by decide +kernel

theorem isUpper_separator : isUpper separator = false := by
  rw [← Bool.not_eq_true, isUpper_iff_of_ascii (by decide)]
  decide

theorem toLower_of_ascii {c : Char} (hc : c.toNat < 128) (h : isUpper c = true) :
    toLower c = [Char.ofNat (c.toNat + 32)] := by
  obtain ⟨hfirst, hlast⟩ := (isUpper_iff_of_ascii hc).1 h
  have hcovers : CodePointRun.covers ⟨0x41, 0x5A, 1⟩ c.toNat = true := by
    simp only [CodePointRun.covers, Nat.mod_one, Bool.and_eq_true, decide_eq_true_eq,
      beq_self_eq_true, and_true]
    exact ⟨hfirst, hlast⟩
  have hsplit : loweringRuns = (⟨0x41, 0x5A, 1⟩, 0x61) :: loweringRuns.tail := rfl
  have hshift : 0x61 + (c.toNat - 0x41) = c.toNat + 32 := by
    change 65 ≤ c.toNat at hfirst
    omega
  rw [toLower, if_neg (by omega), hsplit, List.find?_cons_of_pos (by exact hcovers)]
  simp only [hshift]

theorem not_unpaired_of_ascii {c : Char} (hc : c.toNat < 128) : ¬Unpaired c := by
  rintro ⟨hupper, hself⟩
  have hvalid : (c.toNat + 32).isValidChar := .inl (by omega)
  rw [toLower_of_ascii hc hupper] at hself
  have hnat := congrArg Char.toNat (List.cons.inj hself).1
  rw [toNat_ofNat hvalid] at hnat
  omega

end LetterCase

namespace Naming

open LetterCase

def IsAscii (name : String) : Prop :=
  ∀ c ∈ name.toList, c.toNat < 128

theorem snakeAfter_cons_of_not_isUpper {c : Char} (hc : isUpper c = false)
    (previous : Option Char) (rest : List Char) :
    snakeAfter previous (c :: rest) = c :: snakeAfter (some c) rest := by
  rw [snakeAfter, if_neg (by simp [hc])]

theorem snakeAfter_cons_of_isUpper {c : Char} (hc : isUpper c = true) (previous : Option Char)
    (rest : List Char) :
    snakeAfter previous (c :: rest) =
      (if startsWord previous rest.head? then ['_'] else []) ++ toLower c ++
        snakeAfter (some c) rest := by
  rw [snakeAfter, if_pos hc]
  split <;> simp

theorem snakeAfter_eq_self {name : List Char} (h : ∀ c ∈ name, isUpper c = false)
    (previous : Option Char) : snakeAfter previous name = name := by
  induction name generalizing previous with
  | nil => rfl
  | cons c rest ih =>
    obtain ⟨hc, hrest⟩ := List.forall_mem_cons.1 h
    rw [snakeAfter_cons_of_not_isUpper hc, ih hrest]

theorem mem_snakeAfter_of_not_upper {name : List Char} {c : Char} (hc : isUpper c = false)
    (hmem : c ∈ name) (previous : Option Char) : c ∈ snakeAfter previous name := by
  induction name generalizing previous with
  | nil => cases hmem
  | cons d rest ih =>
    by_cases hd : isUpper d = true
    · have hrest : c ∈ rest := by
        rcases List.mem_cons.1 hmem with rfl | hrest
        · simp [hc] at hd
        · exact hrest
      rw [snakeAfter_cons_of_isUpper hd]
      exact List.mem_append_right _ (ih hrest (some d))
    · rw [snakeAfter_cons_of_not_isUpper (by simpa using hd), List.mem_cons]
      exact (List.mem_cons.1 hmem).imp id fun hrest => ih hrest (some d)

theorem unpaired_of_mem_snakeAfter {name : List Char} {previous : Option Char} {c : Char}
    (hmem : c ∈ snakeAfter previous name) (hc : isUpper c = true) : c ∈ name ∧ Unpaired c := by
  induction name generalizing previous with
  | nil => cases hmem
  | cons d rest ih =>
    by_cases hd : isUpper d = true
    · rw [snakeAfter_cons_of_isUpper hd, List.mem_append, List.mem_append] at hmem
      rcases hmem with (hmem | hmem) | hmem
      · have hunderscore : c = '_' := by
          split at hmem
          · exact List.mem_singleton.1 hmem
          · cases hmem
        rw [hunderscore, isUpper_underscore] at hc
        cases hc
      · by_cases hunpaired : Unpaired d
        · rw [hunpaired.2, List.mem_singleton] at hmem
          rw [hmem]
          exact ⟨List.mem_cons_self, hunpaired⟩
        · rw [isUpper_of_mem_toLower hd hunpaired hmem] at hc
          cases hc
      · exact (ih hmem).imp_left (List.mem_cons_of_mem d)
    · rw [Bool.not_eq_true] at hd
      rw [snakeAfter_cons_of_not_isUpper hd, List.mem_cons] at hmem
      rcases hmem with rfl | hmem
      · rw [hd] at hc
        cases hc
      · exact (ih hmem).imp_left (List.mem_cons_of_mem d)

theorem toList_fold (naming : Naming) (name : String) :
    (naming.fold name).toList = naming.foldChars name.toList := by
  rw [fold, String.toList_ofList]

theorem separator_notMem_of_fold {naming : Naming} {name : String}
    (h : separator ∉ (naming.fold name).toList) : separator ∉ name.toList := by
  rw [toList_fold] at h
  cases naming with
  | verbatim => exact h
  | snake => exact fun hmem => h (mem_snakeAfter_of_not_upper isUpper_separator hmem none)

theorem fold_fold_of_isAscii (naming : Naming) {name : String} (h : IsAscii name) :
    naming.fold (naming.fold name) = naming.fold name := by
  rw [← String.toList_inj, toList_fold, toList_fold]
  cases naming with
  | verbatim => rfl
  | snake =>
    refine snakeAfter_eq_self (fun c hc => ?_) none
    rw [← Bool.not_eq_true]
    intro hupper
    obtain ⟨hmem, hunpaired⟩ := unpaired_of_mem_snakeAfter hc hupper
    exact not_unpaired_of_ascii (h c hmem) hunpaired

end Naming

end Switchboard
