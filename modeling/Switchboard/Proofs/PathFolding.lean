import Mathlib.Tactic
import Switchboard.Proofs.Folding

/-!
# Folded paths

Folding looks at the neighbours of a character, but not past a separator: a path may be folded in
parts, wherever it is cut, or as a whole.
-/

namespace Switchboard

namespace Naming

open LetterCase

theorem isLower_separator : isLower separator = false := by decide +kernel

theorem startsWord_of_separator (next : Option Char) :
    startsWord (some separator) next = false := by
  have hdigit : separator.isDigit = false := by decide
  rw [startsWord, if_neg (by decide), isLower_separator, hdigit, isUpper_separator]
  rfl

theorem startsWord_separator (previous : Option Char) :
    startsWord previous (some separator) = startsWord previous none := by
  cases previous with
  | none => rfl
  | some p =>
    rw [startsWord, startsWord, Option.any_some, Option.any_none, isLower_separator]

theorem snakeAfter_of_separator (name : List Char) :
    snakeAfter (some separator) name = snakeAfter none name := by
  cases name with
  | nil => rfl
  | cons c rest => rw [snakeAfter, snakeAfter, startsWord_of_separator]; rfl

theorem snakeAfter_append_separator (previous : Option Char) (first second : List Char) :
    snakeAfter previous (first ++ separator :: second) =
      snakeAfter previous first ++ separator :: snakeAfter none second := by
  induction first generalizing previous with
  | nil =>
    rw [List.nil_append, snakeAfter_cons_of_not_isUpper isUpper_separator,
      snakeAfter_of_separator]
    rfl
  | cons c rest ih =>
    -- the last character before the separator has no successor to look at
    have hnext : startsWord previous (rest ++ separator :: second).head? =
        startsWord previous rest.head? := by
      cases rest with
      | nil => exact startsWord_separator previous
      | cons d more => rfl
    rw [List.cons_append, snakeAfter, snakeAfter, hnext, ih]
    split
    · split <;> simp
    · rfl

theorem foldChars_append_separator (naming : Naming) (first second : List Char) :
    naming.foldChars (first ++ separator :: second) =
      naming.foldChars first ++ separator :: naming.foldChars second := by
  cases naming with
  | verbatim => rfl
  | snake => exact snakeAfter_append_separator none first second

theorem components_ne_nil (path : List Char) : components path ≠ [] := by
  cases path with
  | nil => exact List.cons_ne_nil _ _
  | cons c rest =>
    rw [components]
    split
    · exact List.cons_ne_nil _ _
    · split <;> exact List.cons_ne_nil _ _

theorem joinComponents_cons (part : List Char) {parts : List (List Char)} (h : parts ≠ []) :
    joinComponents (part :: parts) = part ++ separator :: joinComponents parts := by
  cases parts with
  | nil => exact absurd rfl h
  | cons next more => rfl

theorem joinComponents_components (path : List Char) : joinComponents (components path) = path := by
  induction path with
  | nil => rfl
  | cons c rest ih =>
    rw [components]
    by_cases hc : c = separator
    · rw [if_pos hc, joinComponents_cons [] (components_ne_nil rest), ih, hc]
      rfl
    · rw [if_neg hc]
      cases hparts : components rest with
      | nil => exact absurd hparts (components_ne_nil rest)
      | cons part parts =>
        rw [hparts] at ih
        -- the character joins the first component, whatever follows that
        have hjoin : joinComponents ((c :: part) :: parts) =
            c :: joinComponents (part :: parts) := by
          cases parts <;> rfl
        rw [← ih]
        exact hjoin

theorem foldChars_joinComponents (naming : Naming) (parts : List (List Char)) :
    naming.foldChars (joinComponents parts) = joinComponents (parts.map naming.foldChars) := by
  induction parts with
  | nil => cases naming <;> rfl
  | cons part parts ih =>
    by_cases hparts : parts = []
    · rw [hparts]
      rfl
    · have hmap : parts.map naming.foldChars ≠ [] := by simpa using hparts
      rw [joinComponents_cons part hparts, foldChars_append_separator, ih, List.map_cons,
        joinComponents_cons _ hmap]

/-- A path is folded as a whole when its components are. -/
theorem foldPath_eq_fold (naming : Naming) (path : String) :
    naming.foldPath path = naming.fold path := by
  rw [foldPath, ← foldChars_joinComponents, joinComponents_components, fold]

theorem path_fold_eq_fold (naming : Naming) {path : String} {first second : List Char}
    (h : path.toList = first ++ separator :: second) :
    naming.fold (String.ofList first) ++ separator.toString ++
      naming.fold (String.ofList second) = naming.fold path := by
  rw [← String.toList_inj, toList_fold, h, foldChars_append_separator]
  simp [toList_fold, Char.toString]

end Naming

end Switchboard
