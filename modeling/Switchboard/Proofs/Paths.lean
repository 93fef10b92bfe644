import Mathlib.Tactic
import Switchboard.Server.Dispatch

/-!
# Paths and their parts

A path is split at its first separator, and joined from a namespace and a method. The split undoes
the join for every namespace without a separator, whatever the method holds.
-/

namespace Switchboard

namespace Naming

theorem splitPath_eq_none_iff (text : List Char) :
    splitPath text = none ↔ separator ∉ text := by
  induction text with
  | nil => simp [splitPath]
  | cons c rest ih =>
    rw [splitPath]
    by_cases hc : c = separator
    · simp [hc]
    · rw [if_neg hc, Option.map_eq_none_iff, ih, List.mem_cons, not_or]
      exact ⟨fun h => ⟨Ne.symm hc, h⟩, fun h => h.2⟩

theorem splitPath_append {first : List Char} (second : List Char)
    (hfirst : separator ∉ first) :
    splitPath (first ++ separator :: second) = some (first, second) := by
  induction first with
  | nil => simp [splitPath]
  | cons c rest ih =>
    rw [List.mem_cons, not_or] at hfirst
    rw [List.cons_append, splitPath, if_neg (Ne.symm hfirst.1), ih hfirst.2]
    rfl

theorem splitPath_eq_some_iff (text first second : List Char) :
    splitPath text = some (first, second) ↔
      text = first ++ separator :: second ∧ separator ∉ first := by
  constructor
  · intro h
    induction text generalizing first with
    | nil => simp [splitPath] at h
    | cons c rest ih =>
      rw [splitPath] at h
      by_cases hc : c = separator
      · rw [if_pos hc] at h
        obtain ⟨rfl, rfl⟩ : [] = first ∧ rest = second := by simpa using h
        simp [hc]
      · rw [if_neg hc, Option.map_eq_some_iff] at h
        obtain ⟨⟨head, tail⟩, hsplit, hparts⟩ := h
        obtain ⟨rfl, rfl⟩ : c :: head = first ∧ tail = second := by simpa using hparts
        obtain ⟨hrest, hhead⟩ := ih head hsplit
        refine ⟨by rw [hrest, List.cons_append], ?_⟩
        rw [List.mem_cons, not_or]
        exact ⟨Ne.symm hc, hhead⟩
  · rintro ⟨rfl, hfirst⟩
    exact splitPath_append second hfirst

end Naming

namespace Address

end Address

end Switchboard
