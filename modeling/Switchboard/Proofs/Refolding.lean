import Mathlib.Tactic
import Switchboard.Proofs.PathFolding

/-!
# Folding folded names

What folding does to a name that is folded already. It lowers nothing any more, but it may start a
word at an unpaired capital, which stays a capital: the neighbours that it has now are small letters
where they were capitals. A name is settled if that happens nowhere in it.
-/

namespace Switchboard

namespace Naming

open LetterCase

/-! ## Where words start -/

theorem isUpper_of_isDigit {c : Char} (h : c.isDigit = true) : isUpper c = false := by
  have hrange : '0'.toNat ≤ c.toNat ∧ c.toNat ≤ '9'.toNat := by
    simpa [Char.isDigit, UInt32.le_iff_toNat_le] using h
  change 48 ≤ c.toNat ∧ c.toNat ≤ 57 at hrange
  rw [← Bool.not_eq_true, isUpper_iff_of_ascii (by omega)]
  change ¬(65 ≤ c.toNat ∧ c.toNat ≤ 90)
  omega

theorem startsWord_of_isUpper {p : Char} (hp : isUpper p = true) (next : Option Char) :
    startsWord (some p) next = next.any isLower := by
  have hunderscore : p ≠ '_' := by
    rintro rfl
    rw [isUpper_underscore] at hp
    cases hp
  have hdigit : p.isDigit = false := by
    rw [← Bool.not_eq_true]
    intro hdigit
    rw [isUpper_of_isDigit hdigit] at hp
    cases hp
  rw [startsWord, if_neg hunderscore, isLower_of_isUpper hp, hdigit, hp]
  rfl

theorem startsWord_of_isLower {p : Char} (hp : isLower p = true) (next : Option Char) :
    startsWord (some p) next = true := by
  have hunderscore : p ≠ '_' := by
    rintro rfl
    rw [isLower_underscore] at hp
    cases hp
  rw [startsWord, if_neg hunderscore, hp]
  rfl

theorem startsWord_of_not_isUpper {p : Char} (hp : isUpper p = false) (next other : Option Char) :
    startsWord (some p) next = startsWord (some p) other := by
  rw [startsWord, startsWord, hp]
  rfl

/-! ## The folded form, character by character -/

theorem snakeAfter_cons_of_unpaired {c : Char} (hc : Unpaired c) (previous : Option Char)
    (rest : List Char) :
    snakeAfter previous (c :: rest) =
      if startsWord previous rest.head? then '_' :: c :: snakeAfter (some c) rest
      else c :: snakeAfter (some c) rest := by
  rw [snakeAfter, if_pos hc.1, hc.2]
  rfl

theorem snakeAfter_append_of_not_isUpper {first : List Char}
    (h : ∀ c ∈ first, isUpper c = false) (previous : Option Char) (rest : List Char) :
    snakeAfter previous (first ++ rest) =
      first ++ snakeAfter (first.getLast?.or previous) rest := by
  induction first generalizing previous with
  | nil => rfl
  | cons c first ih =>
    obtain ⟨hc, hfirst⟩ := List.forall_mem_cons.1 h
    have hlast : (c :: first).getLast?.or previous = first.getLast?.or (some c) := by
      rw [List.getLast?_cons]
      cases first.getLast? <;> rfl
    rw [List.cons_append, snakeAfter_cons_of_not_isUpper hc, ih hfirst, hlast]
    rfl

/-! ## Settled names -/

/-- At the unpaired capital `c`, between its predecessor and the characters that follow, a word
starts in the folded name but not in the name: the predecessor becomes a small letter, or stays a
capital while a successor becomes a small letter. -/
inductive SplitsLate (p c : Char) : List Char → Prop
  | predecessor : Unpaired c → Paired p → rest.head?.any isLower = false → SplitsLate p c rest
  | successor : Unpaired c → Unpaired p → isUpper n = true → ¬Unpaired n →
      rest.head?.any isLower = false → SplitsLate p c (n :: rest)

/-- No word starts late in a name. -/
def Settled (name : List Char) : Prop :=
  ∀ front p c rest, name = front ++ p :: c :: rest → ¬SplitsLate p c rest

theorem SplitsLate.unpaired {p c : Char} {rest : List Char} (h : SplitsLate p c rest) :
    Unpaired c := by
  cases h <;> assumption

theorem SplitsLate.startsWord {p c : Char} {rest : List Char} (h : SplitsLate p c rest) :
    startsWord (some p) rest.head? = false := by
  cases h with
  | predecessor _ hp hrest => rwa [startsWord_of_isUpper hp.1]
  | successor _ hp hn _ _ =>
    rw [startsWord_of_isUpper hp.1, List.head?_cons, Option.any_some, isLower_of_isUpper hn]

theorem settled_cons_iff (previous : Option Char) (c : Char) (rest : List Char) :
    Settled (previous.toList ++ c :: rest) ↔
      (∀ p, previous = some p → ¬SplitsLate p c rest) ∧ Settled (c :: rest) := by
  cases previous with
  | none => simp
  | some p =>
    constructor
    · intro h
      refine ⟨?_, fun front q d more hname => h (p :: front) q d more (by simp [hname])⟩
      rintro _ ⟨⟩
      exact h [] p c rest rfl
    · rintro ⟨hfirst, hrest⟩ front q d more hname
      cases front with
      | nil =>
        obtain ⟨rfl, rfl, rfl⟩ : p = q ∧ c = d ∧ rest = more := by simpa using hname
        exact hfirst p rfl
      | cons e front =>
        have htail : c :: rest = front ++ q :: d :: more := by simpa using (List.cons.inj hname).2
        exact hrest front q d more htail

theorem settled_of_unpaired {name : List Char}
    (h : ∀ c ∈ name, isUpper c = true → Unpaired c) : Settled name := by
  rintro front p c rest rfl hsplits
  cases hsplits with
  | predecessor _ hp _ => exact hp.not_unpaired (h p (by simp) hp.1)
  | successor _ _ hn hpaired _ => exact hpaired (h _ (by simp) hn)

/-! ## Folding once more -/

/-- What stands in the folded name where a character stood in the name; of two characters, the
last. -/
def lastFolded (c : Char) : Char :=
  if isUpper c then (toLower c).getLastD c else c

theorem lastFolded_of_unpaired {c : Char} (h : Unpaired c) : lastFolded c = c := by
  rw [lastFolded, if_pos h.1, h.2]
  rfl

theorem getLast?_toLower {c : Char} (h : isUpper c = true) (previous : Option Char) :
    (toLower c).getLast?.or previous = some (lastFolded c) := by
  have hform : toLower c ≠ [] := by
    rcases cases_of_isUpper h with ⟨-, d, hform, -⟩ | hunpaired | rfl
    · simp [hform]
    · simp [hunpaired.2]
    · simp [toLower_dotted]
  rw [lastFolded, if_pos h, List.getLast?_eq_some_getLast hform, List.getLastD_eq_getLast?,
    List.getLast?_eq_some_getLast hform]
  rfl

theorem isLower_head?_snakeAfter_iff {c : Char} (hc : Unpaired c) (rest : List Char) :
    (snakeAfter (some c) rest).head?.any isLower = true ↔
      rest.head?.any isLower = true ∨
        ∃ n more, rest = n :: more ∧ isUpper n = true ∧ ¬Unpaired n ∧
          more.head?.any isLower = false := by
  cases rest with
  | nil => simp [snakeAfter]
  | cons n more =>
    by_cases hn : isUpper n = true
    · rw [snakeAfter_cons_of_isUpper hn, startsWord_of_isUpper hc.1]
      cases hmore : more.head?.any isLower with
      | true => simp [isLower_underscore, isLower_of_isUpper hn, hmore]
      | false =>
        rcases cases_of_isUpper hn with hpaired | hunpaired | rfl
        · obtain ⟨d, hform, hlower⟩ := hpaired.2
          simp [hform, hlower, hn, hpaired.not_unpaired, hmore]
        · simp [hunpaired.2, isLower_of_isUpper hn, hunpaired]
        · have hlower : isLower 'i' = true := by decide +kernel
          simp [toLower_dotted, hlower, hn, not_unpaired_dotted, hmore]
    · rw [Bool.not_eq_true] at hn
      rw [snakeAfter_cons_of_not_isUpper hn]
      simp [hn]

theorem startsWord_lastFolded_iff {previous : Option Char} {c : Char} {rest : List Char}
    (hc : Unpaired c) (h : startsWord previous rest.head? = false) :
    startsWord (previous.map lastFolded) (snakeAfter (some c) rest).head? = true ↔
      ∃ p, previous = some p ∧ SplitsLate p c rest := by
  cases previous with
  | none => simp [startsWord]
  | some p =>
    simp only [Option.map_some, Option.some.injEq, exists_eq_left']
    by_cases hp : isUpper p = true
    · rw [startsWord_of_isUpper hp] at h
      rcases cases_of_isUpper hp with hpaired | hunpaired | rfl
      · obtain ⟨-, d, hform, hlower⟩ := id hpaired
        have hlast : lastFolded p = d := by
          rw [lastFolded, if_pos hp, hform]
          rfl
        rw [hlast, startsWord_of_isLower hlower]
        exact iff_of_true rfl (.predecessor hc hpaired h)
      · rw [lastFolded_of_unpaired hunpaired, startsWord_of_isUpper hp,
          isLower_head?_snakeAfter_iff hc, h, or_iff_right Bool.false_ne_true]
        constructor
        · rintro ⟨n, more, rfl, hn, hpaired, hmore⟩
          exact .successor hc hunpaired hn hpaired hmore
        · rintro (⟨-, hpaired, -⟩ | ⟨-, -, hn, hpaired, hmore⟩)
          · exact absurd hunpaired hpaired.not_unpaired
          · exact ⟨_, _, rfl, hn, hpaired, hmore⟩
      · -- the dot above the small letter is of no case, so that no word starts after it
        have hlast : lastFolded 'İ' = Char.ofNat 0x307 := by decide +kernel
        have hdot : isUpper (Char.ofNat 0x307) = false := by decide +kernel
        have hstart : startsWord (some (Char.ofNat 0x307)) none = false := by decide +kernel
        rw [hlast, startsWord_of_not_isUpper hdot _ none, hstart]
        refine iff_of_false Bool.false_ne_true ?_
        rintro (⟨-, ⟨-, d, hform, -⟩, -⟩ | ⟨-, hunpaired, -⟩)
        · rw [toLower_dotted] at hform
          cases hform
        · exact not_unpaired_dotted hunpaired
    · have hkept : lastFolded p = p := if_neg hp
      rw [hkept, startsWord_of_not_isUpper (by simpa using hp) _ rest.head?, h]
      refine iff_of_false Bool.false_ne_true ?_
      rintro (⟨-, hpaired, -⟩ | ⟨-, hunpaired, -⟩)
      · exact hp hpaired.1
      · exact hp hunpaired.1

/-- Folding the folded form again changes nothing exactly if the name is settled. The invariant is
that the second folding looks back at what stands where the predecessor stood. -/
theorem snakeAfter_snakeAfter_iff (name : List Char) (previous : Option Char) :
    snakeAfter (previous.map lastFolded) (snakeAfter previous name) = snakeAfter previous name ↔
      Settled (previous.toList ++ name) := by
  induction name generalizing previous with
  | nil =>
    refine iff_of_true rfl ?_
    rintro front p c rest hname
    cases previous <;> cases front <;> simp at hname
  | cons c rest ih =>
    have hrest := ih (some c)
    rw [Option.map_some, Option.toList_some, List.singleton_append] at hrest
    rw [settled_cons_iff, ← hrest]
    by_cases hc : isUpper c = true
    · by_cases hunpaired : Unpaired c
      · rw [lastFolded_of_unpaired hunpaired, snakeAfter_cons_of_unpaired hunpaired]
        by_cases hstart : startsWord previous rest.head? = true
        · have hnone : ∀ p, previous = some p → ¬SplitsLate p c rest := by
            rintro p rfl hsplits
            rw [hsplits.startsWord] at hstart
            cases hstart
          rw [if_pos hstart, snakeAfter_cons_of_not_isUpper isUpper_underscore,
            snakeAfter_cons_of_unpaired hunpaired, if_neg (by simp [startsWord]),
            List.cons_inj_right, List.cons_inj_right, and_iff_right hnone]
        · have hlate := startsWord_lastFolded_iff hunpaired (by simpa using hstart)
          rw [if_neg hstart, snakeAfter_cons_of_unpaired hunpaired]
          by_cases hagain :
              startsWord (previous.map lastFolded) (snakeAfter (some c) rest).head? = true
          · obtain ⟨p, hp, hsplits⟩ := hlate.1 hagain
            rw [if_pos hagain]
            refine iff_of_false (fun hsame => ?_) (fun h => h.1 p hp hsplits)
            rw [← (List.cons.inj hsame).1, isUpper_underscore] at hc
            cases hc
          · have hnone : ∀ p, previous = some p → ¬SplitsLate p c rest :=
              fun p hp hsplits => hagain (hlate.2 ⟨p, hp, hsplits⟩)
            rw [if_neg hagain, List.cons_inj_right, and_iff_right hnone]
      · -- what the capital becomes has no capitals, with the sign of a word or without
        have hform : ∀ d ∈ (if startsWord previous rest.head? then ['_'] else []) ++ toLower c,
            isUpper d = false := by
          intro d hd
          rcases List.mem_append.1 hd with hd | hd
          · split at hd
            · rw [List.mem_singleton.1 hd]
              exact isUpper_underscore
            · cases hd
          · exact isUpper_of_mem_toLower hc hunpaired hd
        have hlast : ((if startsWord previous rest.head? then ['_'] else []) ++
            toLower c).getLast?.or (previous.map lastFolded) = some (lastFolded c) := by
          rw [List.getLast?_append, Option.or_assoc, getLast?_toLower hc]
        rw [snakeAfter_cons_of_isUpper hc, snakeAfter_append_of_not_isUpper hform, hlast,
          List.append_cancel_left_eq]
        exact (and_iff_right fun p _ hsplits => hunpaired hsplits.unpaired).symm
    · have hkept : lastFolded c = c := if_neg hc
      have hnone : ∀ p, previous = some p → ¬SplitsLate p c rest :=
        fun p _ hsplits => hc hsplits.unpaired.1
      rw [Bool.not_eq_true] at hc
      rw [hkept, snakeAfter_cons_of_not_isUpper hc, snakeAfter_cons_of_not_isUpper hc,
        List.cons_inj_right, and_iff_right hnone]

theorem snakeCase_snakeCase_iff (name : List Char) :
    snakeCase (snakeCase name) = snakeCase name ↔ Settled name :=
  snakeAfter_snakeAfter_iff name none

theorem settled_snakeCase (name : List Char) : Settled (snakeCase name) :=
  settled_of_unpaired fun _ hmem hc => (unpaired_of_mem_snakeAfter hmem hc).2

/-- A folded name or path folds to itself exactly if the name is settled, and one that is folded
twice always does. -/
theorem folds_again_iff (naming : Naming) (name : String) :
    (naming.fold (naming.fold name) = naming.fold name ↔
      (naming = .snake → Settled name.toList)) ∧
    (naming.foldPath (naming.foldPath name) = naming.foldPath name ↔
      (naming = .snake → Settled name.toList)) ∧
    naming.fold (naming.fold (naming.fold name)) = naming.fold (naming.fold name) := by
  have hfolds : ∀ name : String, naming.fold (naming.fold name) = naming.fold name ↔
      (naming = .snake → Settled name.toList) := by
    intro name
    rw [← String.toList_inj, toList_fold, toList_fold]
    cases naming with
    | verbatim => exact iff_of_true rfl nofun
    | snake => exact (snakeCase_snakeCase_iff name.toList).trans ⟨fun h _ => h, fun h => h rfl⟩
  refine ⟨hfolds name, ?_, (hfolds _).2 ?_⟩
  · rw [foldPath_eq_fold, foldPath_eq_fold]
    exact hfolds name
  · rintro rfl
    rw [toList_fold]
    exact settled_snakeCase name.toList

/-- No word starts at the second capital until the first is a small letter. -/
theorem unpaired_capital_folds_again :
    Naming.snake.fold "A𝐀" = "a𝐀" ∧ Naming.snake.fold "a𝐀" = "a_𝐀" ∧
      Naming.snake.fold (Naming.snake.fold "A𝐀") ≠ Naming.snake.fold "A𝐀" := by
  decide +kernel

end Naming

end Switchboard
