import Mathlib.Tactic
import Switchboard.Proofs.Refolding

/-!
# Underscores in folded names

A folded name is its name with capitals lowered and underscores put in. Taken apart, it shows the
characters of the name in their order, separators included, and between them the underscores that
were put in: each stands after a character of the name and before a capital, and next to no other
underscore.
-/

namespace Switchboard

namespace Naming

open LetterCase

/-! ## Lowered characters -/

/-- What folding makes of a character: the lower-case form of a capital. -/
def lowered (c : Char) : List Char :=
  if isUpper c then toLower c else [c]

theorem mem_toLower {c d : Char} (hc : isUpper c = true) (hd : d ∈ toLower c) :
    isLower d = true ∨ isUpper d = true ∨ d = Char.ofNat 0x307 := by
  rcases cases_of_isUpper hc with ⟨-, lower, hform, hlower⟩ | ⟨hupper, hform⟩ | rfl
  · rw [hform, List.mem_singleton] at hd
    exact .inl (hd ▸ hlower)
  · rw [hform, List.mem_singleton] at hd
    exact .inr (.inl (hd ▸ hupper))
  · have hletter : isLower 'i' = true := by decide +kernel
    rw [toLower_dotted, List.mem_cons, List.mem_singleton] at hd
    rcases hd with rfl | hd
    · exact .inl hletter
    · exact .inr (.inr hd)

theorem mem_lowered_iff_of_caseless {mark : Char} (hupper : isUpper mark = false)
    (hlower : isLower mark = false) (hdot : mark ≠ Char.ofNat 0x307) {c : Char} :
    mark ∈ lowered c ↔ mark = c := by
  unfold lowered
  split
  · rename_i hc
    have hne : mark ≠ c := by
      rintro rfl
      simp [hupper] at hc
    refine iff_of_false (fun hmem => ?_) hne
    rcases mem_toLower hc hmem with h | h | h
    · simp [hlower] at h
    · simp [hupper] at h
    · exact hdot h
  · exact List.mem_singleton

theorem underscore_mem_lowered_iff {c : Char} : '_' ∈ lowered c ↔ '_' = c :=
  mem_lowered_iff_of_caseless isUpper_underscore isLower_underscore (by decide)

theorem separator_mem_lowered_iff {c : Char} : separator ∈ lowered c ↔ separator = c :=
  mem_lowered_iff_of_caseless isUpper_separator isLower_separator (by decide)

theorem lowered_separator : lowered separator = [separator] := by
  unfold lowered
  rw [isUpper_separator]
  rfl

theorem getLast?_lowered (c : Char) : (lowered c).getLast? = some (lastFolded c) := by
  unfold lowered
  split
  · rename_i hc
    rw [← getLast?_toLower hc none, Option.or_none]
  · rename_i hc
    rw [lastFolded, if_neg hc]
    rfl

theorem lowered_ne_nil (c : Char) : lowered c ≠ [] := by
  intro hnil
  have hlast := getLast?_lowered c
  rw [hnil] at hlast
  cases hlast

/-! ## The pieces of a folded name -/

/-- A piece of a folded name. -/
inductive Piece
  | kept (c : Char)
  | mark
deriving DecidableEq, Repr

namespace Piece

def source? : Piece → Option Char
  | kept c => some c
  | mark => none

def text : Piece → List Char
  | kept c => lowered c
  | mark => ['_']

theorem filterMap_source?_kept (c : Char) (pieces : List Piece) :
    (kept c :: pieces).filterMap source? = c :: pieces.filterMap source? := rfl

theorem filterMap_source?_mark (pieces : List Piece) :
    (mark :: pieces).filterMap source? = pieces.filterMap source? := rfl

end Piece

/-- The pieces that folding makes of the characters that follow `previous`. -/
def pieces : Option Char → List Char → List Piece
  | _, [] => []
  | previous, c :: rest =>
    (if isUpper c && startsWord previous rest.head? then [.mark] else []) ++
      .kept c :: pieces (some c) rest

theorem filterMap_source?_pieces (previous : Option Char) (name : List Char) :
    (pieces previous name).filterMap Piece.source? = name := by
  induction name generalizing previous with
  | nil => rfl
  | cons c rest ih =>
    have hmark : (if isUpper c && startsWord previous rest.head? then [Piece.mark]
        else []).filterMap Piece.source? = [] := by
      split <;> rfl
    rw [pieces, List.filterMap_append, hmark, List.nil_append, Piece.filterMap_source?_kept, ih]

theorem flatMap_text_pieces (previous : Option Char) (name : List Char) :
    (pieces previous name).flatMap Piece.text = snakeAfter previous name := by
  induction name generalizing previous with
  | nil => rfl
  | cons c rest ih =>
    rw [pieces, List.flatMap_append, List.flatMap_cons, ih]
    by_cases hc : isUpper c = true
    · have hkept : Piece.text (.kept c) = toLower c := if_pos hc
      rw [snakeAfter_cons_of_isUpper hc, hc, Bool.true_and, hkept, List.append_assoc]
      congr 1
      split <;> rfl
    · have hkept : Piece.text (.kept c) = [c] := if_neg hc
      rw [Bool.not_eq_true] at hc
      rw [snakeAfter_cons_of_not_isUpper hc, hc, hkept]
      rfl

theorem neighbours_of_mark {previous : Option Char} {name : List Char} {front back : List Piece}
    (h : pieces previous name = front ++ .mark :: back) :
    ∃ p c more, (front.getLast?).or (previous.map .kept) = some (.kept p) ∧ p ≠ '_' ∧
      back = .kept c :: more ∧ isUpper c = true := by
  induction name generalizing previous front with
  | nil => simp [pieces] at h
  | cons c rest ih =>
    -- a mark behind the piece of the character is one of the rest, whose predecessor it is
    have hrest : ∀ {ahead : List Piece},
        .kept c :: pieces (some c) rest = ahead ++ .mark :: back →
        ∃ p d more, ahead.getLast? = some (.kept p) ∧ p ≠ '_' ∧
          back = .kept d :: more ∧ isUpper d = true := by
      intro ahead hahead
      cases ahead with
      | nil => simp at hahead
      | cons piece ahead =>
        obtain ⟨rfl, htail⟩ := List.cons.inj hahead
        obtain ⟨p, d, more, hlast, hp⟩ := ih htail
        refine ⟨p, d, more, ?_, hp⟩
        rw [List.getLast?_cons, ← hlast]
        cases ahead.getLast? <;> rfl
    rw [pieces] at h
    by_cases hmark : (isUpper c && startsWord previous rest.head?) = true
    · rw [if_pos hmark, List.singleton_append] at h
      obtain ⟨hc, hstart⟩ := Bool.and_eq_true_iff.1 hmark
      cases front with
      | nil =>
        obtain ⟨-, hback⟩ := List.cons.inj h
        cases previous with
        | none => cases hstart
        | some p =>
          refine ⟨p, c, _, rfl, ?_, hback.symm, hc⟩
          rintro rfl
          cases hstart
      | cons piece ahead =>
        obtain ⟨-, htail⟩ := List.cons.inj h
        obtain ⟨p, d, more, hlast, hp⟩ := hrest htail
        refine ⟨p, d, more, ?_, hp⟩
        rw [List.getLast?_cons, hlast]
        rfl
    · rw [if_neg hmark, List.nil_append] at h
      obtain ⟨p, d, more, hlast, hp⟩ := hrest h
      refine ⟨p, d, more, ?_, hp⟩
      rw [hlast]
      rfl

/-- No mark is first or last in the text, or next to another underscore. -/
def SetApart (pieces : List Piece) : Prop :=
  ∀ front back, pieces = front ++ .mark :: back →
    ∃ before after, (front.flatMap Piece.text).getLast? = some before ∧ before ≠ '_' ∧
      (back.flatMap Piece.text).head? = some after ∧ after ≠ '_'

theorem setApart_pieces (name : List Char) : SetApart (pieces none name) := by
  intro front back h
  obtain ⟨p, c, more, hlast, hp, rfl, hc⟩ := neighbours_of_mark h
  rw [Option.map_none, Option.or_none] at hlast
  obtain ⟨ahead, rfl⟩ := List.getLast?_eq_some_iff.1 hlast
  have hbefore : ((ahead ++ [Piece.kept p]).flatMap Piece.text).getLast? =
      some (lastFolded p) := by
    rw [List.flatMap_append, List.flatMap_singleton, List.getLast?_append, Piece.text,
      getLast?_lowered]
    rfl
  obtain ⟨after, tail, hform⟩ := List.exists_cons_of_ne_nil (lowered_ne_nil c)
  have hafter : ((Piece.kept c :: more).flatMap Piece.text).head? = some after := by
    rw [List.flatMap_cons, Piece.text, hform]
    rfl
  refine ⟨_, after, hbefore, ?_, hafter, ?_⟩
  · have hmem : lastFolded p ∈ lowered p := List.mem_of_getLast? (getLast?_lowered p)
    intro hunderscore
    rw [hunderscore, underscore_mem_lowered_iff] at hmem
    exact hp hmem.symm
  · have hmem : after ∈ lowered c := hform ▸ List.mem_cons_self
    rintro rfl
    rw [underscore_mem_lowered_iff] at hmem
    rw [← hmem, isUpper_underscore] at hc
    cases hc

/-! ## What is left without underscores -/

def withoutUnderscores (name : List Char) : List Char :=
  name.filter (· ≠ '_')

theorem withoutUnderscores_text (pieces : List Piece) :
    withoutUnderscores (pieces.flatMap Piece.text) =
      withoutUnderscores ((pieces.filterMap Piece.source?).flatMap lowered) := by
  induction pieces with
  | nil => rfl
  | cons piece pieces ih =>
    unfold withoutUnderscores at ih ⊢
    cases piece with
    | kept c =>
      rw [Piece.filterMap_source?_kept, List.flatMap_cons, List.flatMap_cons,
        List.filter_append, List.filter_append, ih]
      rfl
    | mark =>
      rw [Piece.filterMap_source?_mark, List.flatMap_cons, List.filter_append, ih]
      rfl

theorem withoutUnderscores_snakeCase (name : List Char) :
    withoutUnderscores (snakeCase name) = withoutUnderscores (name.flatMap lowered) := by
  rw [snakeCase, ← flatMap_text_pieces, withoutUnderscores_text, filterMap_source?_pieces]

/-! ## Separators -/

theorem separator_mem_snakeAfter_iff {previous : Option Char} {name : List Char} :
    separator ∈ snakeAfter previous name ↔ separator ∈ name := by
  refine ⟨fun hmem => ?_, fun hmem => mem_snakeAfter_of_not_upper isUpper_separator hmem previous⟩
  rw [← flatMap_text_pieces, List.mem_flatMap] at hmem
  obtain ⟨piece, hpiece, hmem⟩ := hmem
  cases piece with
  | kept c =>
    obtain rfl := separator_mem_lowered_iff.1 hmem
    have hsource : separator ∈ (pieces previous name).filterMap Piece.source? :=
      List.mem_filterMap.2 ⟨_, hpiece, rfl⟩
    rwa [filterMap_source?_pieces] at hsource
  | mark => exact absurd hmem (by decide)

theorem components_of_notMem {part : List Char} (h : separator ∉ part) :
    components part = [part] := by
  induction part with
  | nil => rfl
  | cons c part ih =>
    obtain ⟨hc, hpart⟩ := not_or.1 (mt List.mem_cons.2 h)
    rw [components, if_neg (Ne.symm hc), ih hpart]

theorem components_append_separator {part : List Char} (h : separator ∉ part)
    (rest : List Char) :
    components (part ++ separator :: rest) = part :: components rest := by
  induction part with
  | nil => rw [List.nil_append, components, if_pos rfl]
  | cons c part ih =>
    obtain ⟨hc, hpart⟩ := not_or.1 (mt List.mem_cons.2 h)
    rw [List.cons_append, components, if_neg (Ne.symm hc), ih hpart]

theorem components_joinComponents {parts : List (List Char)} (hparts : parts ≠ [])
    (h : ∀ part ∈ parts, separator ∉ part) : components (joinComponents parts) = parts := by
  induction parts with
  | nil => exact absurd rfl hparts
  | cons part parts ih =>
    obtain ⟨hpart, hrest⟩ := List.forall_mem_cons.1 h
    by_cases hnil : parts = []
    · rw [hnil]
      exact components_of_notMem hpart
    · rw [joinComponents_cons part hnil, components_append_separator hpart, ih hnil hrest]

theorem separator_notMem_of_mem_components {name part : List Char} (h : part ∈ components name) :
    separator ∉ part := by
  induction name generalizing part with
  | nil =>
    rw [components, List.mem_singleton] at h
    rw [h]
    exact List.not_mem_nil
  | cons c rest ih =>
    rw [components] at h
    by_cases hc : c = separator
    · rw [if_pos hc, List.mem_cons] at h
      rcases h with rfl | h
      · exact List.not_mem_nil
      · exact ih h
    · rw [if_neg hc] at h
      cases hparts : components rest with
      | nil => exact absurd hparts (components_ne_nil rest)
      | cons first others =>
        rw [hparts] at h ih
        rcases List.mem_cons.1 h with rfl | h
        · intro hmem
          rcases List.mem_cons.1 hmem with hmem | hmem
          · exact hc hmem.symm
          · exact ih List.mem_cons_self hmem
        · exact ih (List.mem_cons_of_mem _ h)

theorem components_snakeCase (name : List Char) :
    components (snakeCase name) = (components name).map snakeCase := by
  have hfold : snakeCase name = joinComponents ((components name).map snakeCase) := by
    have hjoin := foldChars_joinComponents .snake (components name)
    rw [joinComponents_components] at hjoin
    exact hjoin
  have hparts : (components name).map snakeCase ≠ [] := by
    simpa using components_ne_nil name
  rw [hfold, components_joinComponents hparts]
  intro part hpart
  obtain ⟨source, hsource, rfl⟩ := List.mem_map.1 hpart
  exact mt separator_mem_snakeAfter_iff.1 (separator_notMem_of_mem_components hsource)

theorem count_separator_lowered (c : Char) : (lowered c).count separator = [c].count separator := by
  by_cases hc : separator = c
  · rw [← hc, lowered_separator]
  · rw [List.count_eq_zero.2 (mt separator_mem_lowered_iff.1 hc),
      List.count_eq_zero.2 (mt List.mem_singleton.1 hc)]

theorem count_separator_flatMap_lowered (name : List Char) :
    (name.flatMap lowered).count separator = name.count separator := by
  induction name with
  | nil => rfl
  | cons c rest ih =>
    rw [List.flatMap_cons, List.count_append, ih, count_separator_lowered, ← List.count_append]
    rfl

theorem count_separator_withoutUnderscores (name : List Char) :
    (withoutUnderscores name).count separator = name.count separator :=
  List.count_filter (by decide)

theorem count_separator_snakeCase (name : List Char) :
    (snakeCase name).count separator = name.count separator :=
  calc (snakeCase name).count separator
      = (withoutUnderscores (snakeCase name)).count separator :=
        (count_separator_withoutUnderscores _).symm
    _ = (withoutUnderscores (name.flatMap lowered)).count separator := by
        rw [withoutUnderscores_snakeCase]
    _ = (name.flatMap lowered).count separator := count_separator_withoutUnderscores _
    _ = name.count separator := count_separator_flatMap_lowered name

/-! ## The law -/

/-- Folding lowers capitals and puts underscores in, and nothing else. Without underscores a folded
name is the lowered name; it has the separators of the name, with the same characters between them;
its pieces are the characters of the name and underscores that are set apart; and without capitals
it is the name itself. -/
theorem fold_lowers_and_marks (name : String) :
    let chars := name.toList
    let folded := (Naming.snake.fold name).toList
    withoutUnderscores folded = withoutUnderscores (chars.flatMap lowered) ∧
    folded.count separator = chars.count separator ∧
    (components folded).map withoutUnderscores =
      (components chars).map (fun part => withoutUnderscores (part.flatMap lowered)) ∧
    (∃ pieces : List Piece, pieces.filterMap Piece.source? = chars ∧
      pieces.flatMap Piece.text = folded ∧ SetApart pieces) ∧
    ((∀ c ∈ chars, isUpper c = false) → Naming.snake.fold name = name) := by
  intro chars folded
  have hfolded : folded = snakeCase chars := toList_fold .snake name
  refine ⟨?_, ?_, ?_, ?_, ?_⟩
  · rw [hfolded]
    exact withoutUnderscores_snakeCase chars
  · rw [hfolded]
    exact count_separator_snakeCase chars
  · rw [hfolded, components_snakeCase, List.map_map]
    exact List.map_congr_left fun part _ => withoutUnderscores_snakeCase part
  · refine ⟨pieces none chars, filterMap_source?_pieces none chars, ?_, setApart_pieces chars⟩
    rw [hfolded]
    exact flatMap_text_pieces none chars
  · intro hsmall
    rw [← String.toList_inj]
    change folded = chars
    rw [hfolded]
    exact snakeAfter_eq_self hsmall none

theorem small_path_stays :
    (∀ c ∈ "tea_pot.pour2".toList, isUpper c = false) ∧
      Naming.snake.fold "tea_pot.pour2" = "tea_pot.pour2" := by
  have hall : "tea_pot.pour2".toList.all (!isUpper ·) = true := by decide +kernel
  have hsmall : ∀ c ∈ "tea_pot.pour2".toList, isUpper c = false := by
    intro c hc
    rw [← Bool.not_eq_true']
    exact List.all_eq_true.1 hall c hc
  obtain ⟨-, -, -, -, hself⟩ := fold_lowers_and_marks "tea_pot.pour2"
  exact ⟨hsmall, hself hsmall⟩

end Naming

end Switchboard
