import Mathlib.Tactic
import Switchboard.Proofs.Refolding
import Switchboard.Proofs.Spellings

/-!
# Styles of names

A name of several words is spelt in one of three styles. Folding brings all of them to the words
with underscores between them, since a word ends in a small letter or a digit and the next one
begins with a capital or an underscore.
-/

namespace Switchboard

namespace Naming

open LetterCase

def IsSmall (c : Char) : Prop :=
  'a'.toNat ≤ c.toNat ∧ c.toNat ≤ 'z'.toNat

instance (c : Char) : Decidable (IsSmall c) :=
  inferInstanceAs (Decidable (_ ∧ _))

/-- A word of a name: a small letter, and after it at least one small letter or digit. -/
structure Word where
  initial : Char
  tail : List Char
  small : IsSmall initial
  long : tail ≠ []
  plain : ∀ c ∈ tail, IsSmall c ∨ c.isDigit = true

namespace Word

def chars (word : Word) : List Char :=
  word.initial :: word.tail

def capitalized (word : Word) : List Char :=
  word.initial.toUpper :: word.tail

end Word

def joinWords (words : List Word) : List Char :=
  ['_'].intercalate (words.map Word.chars)

inductive Style
  | pascal
  | camel
  | snake

def Style.spell : Style → List Word → List Char
  | pascal, words => words.flatMap Word.capitalized
  | camel, [] => []
  | camel, word :: words => word.chars ++ words.flatMap Word.capitalized
  | snake, words => joinWords words

def Style.name (style : Style) (words : List Word) : String :=
  String.ofList (style.spell words)

/-! ## Characters of words -/

theorem IsSmall.bounds {c : Char} (h : IsSmall c) : 97 ≤ c.toNat ∧ c.toNat ≤ 122 :=
  h

theorem IsSmall.toNat_toUpper {c : Char} (h : IsSmall c) : c.toUpper.toNat = c.toNat - 32 := by
  have hletters : ∀ n < 26, (Char.ofNat (97 + n)).toUpper.toNat = 65 + n := by decide
  obtain ⟨hfirst, hlast⟩ := h.bounds
  have hletter := hletters (c.toNat - 97) (by omega)
  rw [Nat.add_sub_cancel' hfirst, Char.ofNat_toNat] at hletter
  omega

theorem IsSmall.isUpper_toUpper {c : Char} (h : IsSmall c) : isUpper c.toUpper = true := by
  have hnat := h.toNat_toUpper
  obtain ⟨hfirst, hlast⟩ := h.bounds
  rw [isUpper_iff_of_ascii (by omega)]
  change 65 ≤ _ ∧ _ ≤ 90
  omega

theorem IsSmall.toLower_toUpper {c : Char} (h : IsSmall c) : toLower c.toUpper = [c] := by
  have hnat := h.toNat_toUpper
  have hupper := h.isUpper_toUpper
  obtain ⟨hfirst, hlast⟩ := h.bounds
  rw [toLower_of_ascii (by omega) hupper, hnat, Nat.sub_add_cancel (by omega), Char.ofNat_toNat]

theorem IsSmall.isLower {c : Char} (h : IsSmall c) : isLower c = true := by
  have hrun : (⟨0x61, 0x7A, 1⟩ : CodePointRun) ∈ lowerRuns := List.mem_cons_self
  exact List.any_eq_true.2 ⟨_, hrun, CodePointRun.covers_iff.2 ⟨h.1, h.2, Nat.mod_one _⟩⟩

theorem startsWord_of_plain {p : Char} (h : IsSmall p ∨ p.isDigit = true) (next : Option Char) :
    startsWord (some p) next = true := by
  rcases h with hsmall | hdigit
  · exact startsWord_of_isLower hsmall.isLower next
  · have hunderscore : p ≠ '_' := by
      rintro rfl
      cases hdigit
    rw [startsWord, if_neg hunderscore, hdigit, Bool.or_true]
    rfl

theorem isUpper_of_plain {c : Char} (h : IsSmall c ∨ c.isDigit = true) : isUpper c = false := by
  rcases h with hsmall | hdigit
  · exact isUpper_of_isLower hsmall.isLower
  · exact isUpper_of_isDigit hdigit

/-! ## Words -/

namespace Word

theorem plain_of_mem_chars (word : Word) : ∀ c ∈ word.chars, IsSmall c ∨ c.isDigit = true :=
  List.forall_mem_cons.2 ⟨.inl word.small, word.plain⟩

theorem getLast?_tail (word : Word) : ∃ last ∈ word.tail, word.tail.getLast? = some last :=
  ⟨_, List.getLast_mem word.long, List.getLast?_eq_some_getLast word.long⟩

theorem startsWord_getLast?_tail (word : Word) (next : Option Char) :
    startsWord word.tail.getLast? next = true := by
  obtain ⟨last, hmem, hlast⟩ := word.getLast?_tail
  rw [hlast, startsWord_of_plain (word.plain last hmem)]

theorem snakeAfter_capitalized_append (word : Word) (previous : Option Char) (rest : List Char) :
    snakeAfter previous (word.capitalized ++ rest) =
      (if startsWord previous word.tail.head? then ['_'] else []) ++ word.chars ++
        snakeAfter word.tail.getLast? rest := by
  have hnext : (word.tail ++ rest).head? = word.tail.head? := by
    rw [List.head?_append, List.head?_eq_some_head word.long]
    rfl
  have hlast : word.tail.getLast?.or (some word.initial.toUpper) = word.tail.getLast? := by
    obtain ⟨last, -, hlast⟩ := word.getLast?_tail
    rw [hlast]
    rfl
  have hplain : ∀ c ∈ word.tail, isUpper c = false := fun c hc => isUpper_of_plain (word.plain c hc)
  rw [capitalized, List.cons_append, snakeAfter_cons_of_isUpper word.small.isUpper_toUpper,
    word.small.toLower_toUpper, snakeAfter_append_of_not_isUpper hplain, hnext, hlast, chars]
  simp

end Word

/-- Where a word starts at any capital, capitalized words are folded with an underscore before each
of them. -/
theorem snakeAfter_flatMap_capitalized (words : List Word) {previous : Option Char}
    (h : ∀ next, startsWord previous next = true) :
    snakeAfter previous (words.flatMap Word.capitalized) = words.flatMap ('_' :: ·.chars) := by
  induction words generalizing previous with
  | nil => rfl
  | cons word words ih =>
    rw [List.flatMap_cons, word.snakeAfter_capitalized_append, h,
      ih word.startsWord_getLast?_tail]
    rfl

theorem joinWords_cons (word : Word) (words : List Word) :
    joinWords (word :: words) = word.chars ++ words.flatMap ('_' :: ·.chars) := by
  induction words generalizing word with
  | nil => simp [joinWords]
  | cons next words ih =>
    have hnext := ih next
    rw [joinWords, List.map_cons] at hnext
    rw [joinWords, List.map_cons, List.map_cons, List.intercalate_cons_cons, hnext]
    simp

theorem isUpper_of_mem_joinWords {words : List Word} {c : Char} (h : c ∈ joinWords words) :
    isUpper c = false := by
  cases words with
  | nil => cases h
  | cons word words =>
    rw [joinWords_cons, List.mem_append, List.mem_flatMap] at h
    rcases h with h | ⟨other, -, h⟩
    · exact isUpper_of_plain (word.plain_of_mem_chars c h)
    · rcases List.mem_cons.1 h with rfl | h
      · exact isUpper_underscore
      · exact isUpper_of_plain (other.plain_of_mem_chars c h)

/-- Every style of a name is folded to its words with underscores between them. -/
theorem snakeCase_spell (style : Style) (words : List Word) :
    snakeCase (style.spell words) = joinWords words := by
  cases style with
  | pascal =>
    cases words with
    | nil => rfl
    | cons word words =>
      have hrest := snakeAfter_flatMap_capitalized words word.startsWord_getLast?_tail
      rw [Style.spell, List.flatMap_cons, snakeCase, word.snakeAfter_capitalized_append, hrest,
        joinWords_cons]
      rfl
  | camel =>
    cases words with
    | nil => rfl
    | cons word words =>
      have hplain : ∀ c ∈ word.chars, isUpper c = false :=
        fun c hc => isUpper_of_plain (word.plain_of_mem_chars c hc)
      have hlast : word.chars.getLast?.or none = word.tail.getLast? := by
        obtain ⟨last, -, hlast⟩ := word.getLast?_tail
        rw [Word.chars, List.getLast?_cons, hlast]
        rfl
      rw [Style.spell, snakeCase, snakeAfter_append_of_not_isUpper hplain, hlast,
        snakeAfter_flatMap_capitalized words word.startsWord_getLast?_tail, joinWords_cons]
  | snake => exact snakeAfter_eq_self (fun _ => isUpper_of_mem_joinWords) none

theorem fold_styleName (style : Style) (words : List Word) :
    Naming.snake.fold (style.name words) = String.ofList (joinWords words) := by
  rw [fold, Style.name, String.toList_ofList]
  exact congrArg String.ofList (snakeCase_spell style words)

end Naming

namespace Enrolment

open Deployment Registry Naming

/-- Under the snake convention, services and methods are kept under their words with underscores
between them, in whichever style they were declared, and calls reach them in every style. -/
theorem styles_reach_one_method (enrolments : List (Enrolment σ)) {options : Options}
    (hsnake : options.naming = .snake) (world : World σ) (log : List Event) :
    let operations := history enrolments ⟨fresh options world, log⟩
    let server := (enrolAll enrolments ⟨fresh options world, log⟩).state.server
    let wireName (words : List Word) := String.ofList (joinWords words)
    (∀ (style : Style) words, snakeCase (style.spell words) = joinWords words) ∧
    ∀ (space : List Word) (declaredStyle : Style) earlier registration after,
      earlier ++ [.add registration] <+: operations →
      (replay options.naming earlier).add registration = .ok (true, after) →
      registration.name = declaredStyle.name space →
      ∃ entry, (wireName space, entry) ∈ server.registry.services ∧
        ∀ (method : List Word) (methodStyle : Style), ∀ declared ∈ registration.plans,
          declared.name = methodStyle.name method →
          (∀ hidden ∈ reservedNames ++ registration.excluded ++
            (replay options.naming earlier).globalExcludes,
            options.naming.fold hidden ≠ wireName method) →
          ∃ kept, (wireName method, kept) ∈ entry.methods.entries ∧
            registration.plans.find? (options.naming.fold ·.name == wireName method) = some kept ∧
            ∀ (first second : Style) (message : Message), message.Identified →
              message.method = first.name space ++ "." ++ second.name method →
              server.DispatchesTo message kept := by
  intro operations server wireName
  have hregistry : server.registry = replay options.naming operations :=
    enrolAll_fresh_registry enrolments options world log
  have hnaming : server.options.naming = options.naming :=
    congrArg Options.naming (enrolAll_fresh_options enrolments options world log)
  have hfold : ∀ (style : Style) words,
      options.naming.fold (style.name words) = wireName words := by
    rw [hsnake]
    exact fold_styleName
  refine ⟨snakeCase_spell, ?_⟩
  intro space declaredStyle earlier registration after hhappens hadd hspace
  have horigin : Origin options.naming operations _ earlier registration :=
    ⟨hhappens, accepts_of_add hadd, rfl⟩
  have hname := horigin.name_eq
  rw [hspace, hfold] at hname
  have hmem := horigin.mem
  rw [hname, ← hregistry] at hmem
  refine ⟨_, hmem, ?_⟩
  intro method methodStyle declared hdeclared hmethod hshown
  have hmethodFold : options.naming.fold declared.name = wireName method := by
    rw [hmethod, hfold]
  rw [← hmethodFold] at hshown
  obtain ⟨kept, hkept, hfound⟩ := horigin.exists_kept hdeclared hshown
  have hplan := MethodTable.mem_of_get? hfound
  rw [hmethodFold] at hkept hplan
  refine ⟨kept, hplan, hkept, ?_⟩
  intro first second message hid hspelling
  exact horigin.dispatchesTo hnaming hregistry ((hfold first space).trans hname.symm)
    ((hfold second method).symm ▸ hplan) hid hspelling

def tea : Word := ⟨'t', ['e', 'a'], by decide, by decide, by simp [IsSmall]⟩

def pot : Word := ⟨'p', ['o', 't'], by decide, by decide, by simp [IsSmall]⟩

def pour2 : Word := ⟨'p', ['o', 'u', 'r', '2'], by decide, by decide, by simp [IsSmall]⟩

def kettle : Definition Unit where
  name := "TeaPot"
  plans := [.ofHandler "pour2Tea" (.pure [] .nothing fun _ => ())]

def kettleServer : Server Unit :=
  (enrolAll [.ofDefinition kettle] ⟨fresh {} { host := () }, []⟩).state.server

theorem kettle_styles_reach_one_method :
    ({} : Options).naming = .snake ∧
    ∀ first second : Style,
      (∀ message : Message, message.Identified →
        message.method = first.name [tea, pot] ++ "." ++ second.name [pour2, tea] →
        kettleServer.DispatchesTo message
          (.ofHandler "pour2Tea" (.pure [] .nothing fun _ => ()))) ∧
      ∀ visit,
        kettleServer.runs
            (teaPotBody (first.name [tea, pot] ++ "." ++ second.name [pour2, tea])) visit =
          [.method "tea_pot" "pour2_tea" "tea_pot.pour2_tea"] := by
  refine ⟨rfl, fun first second => ?_⟩
  obtain ⟨-, hstyles⟩ :=
    @styles_reach_one_method _ [.ofDefinition kettle] {} rfl { host := () } []
  obtain ⟨entry, -, hmethods⟩ := hstyles [tea, pot] .pascal [] kettle.registration _
    List.prefix_rfl rfl (by decide +kernel)
  obtain ⟨kept, -, hfirst, hreaches⟩ := hmethods [pour2, tea] .camel _ List.mem_cons_self
    (by decide +kernel) (by decide +kernel)
  obtain rfl : _ = kept :=
    Option.some.inj ((List.find?_cons_of_pos (by decide +kernel)).symm.trans hfirst)
  have hnaming : kettleServer.options.naming = .snake := by
    rw [kettleServer, enrolAll_fresh_options]
  have hchain : kettleServer.chain.entries = [] := by
    rw [kettleServer, enrolAll_server]
    rfl
  have hspace : separator ∉ (first.name [tea, pot]).toList := by
    cases first <;> decide +kernel
  have hcheck : (Message.parse (teaPotBody
      (first.name [tea, pot] ++ "." ++ second.name [pour2, tea]))).toOption.any (fun message =>
        message.hasValidId &&
          message.method == first.name [tea, pot] ++ "." ++ second.name [pour2, tea] &&
          message.params.isNone) = true := by
    cases first <;> cases second <;> decide +kernel
  refine ⟨hreaches first second, fun visit => ?_⟩
  have hruns := Server.runs_of_spelling hchain hspace hcheck (hreaches first second) rfl visit
  rw [hnaming, fold_styleName, fold_styleName] at hruns
  rw [hruns]
  decide +kernel

end Enrolment

end Switchboard
