import Mathlib.Data.List.TakeWhile
import Mathlib.Tactic
import Switchboard.Server.Admission

/-!
# What the head of a request declares

The length that the first length of a head is a numeral of, and the type that is left of the first
type of a head without its parameters and the blanks around it.
-/

namespace Switchboard

namespace Headers

def First (headers : Headers) (name value : String) : Prop :=
  ∃ before after, headers.entries = before ++ (lowerName name, value) :: after ∧
    ∀ entry ∈ before, entry.1 ≠ lowerName name

theorem get?_eq_some_iff {headers : Headers} {name value : String} :
    headers.get? name = some value ↔ headers.First name value := by
  rw [get?, Option.map_eq_some_iff]
  constructor
  · rintro ⟨⟨key, _⟩, hfind, rfl⟩
    obtain ⟨hkey, before, after, hentries, hbefore⟩ := List.find?_eq_some_iff_append.1 hfind
    obtain rfl : key = lowerName name := by simpa using hkey
    exact ⟨before, after, hentries, fun entry hentry => by simpa using hbefore entry hentry⟩
  · rintro ⟨before, after, hentries, hbefore⟩
    refine ⟨(lowerName name, value), List.find?_eq_some_iff_append.2 ⟨by simp, before, after,
      hentries, fun entry hentry => by simpa using hbefore entry hentry⟩, rfl⟩

theorem text?_eq_some_iff {headers : Headers} {name value : String} :
    headers.text? name = some value ↔ headers.First name value ∧ isText value := by
  rw [text?, Option.filter_eq_some_iff, get?_eq_some_iff]

end Headers

/-! ## Numerals -/

def decimal (digits : List Char) : Nat :=
  Nat.ofDigits 10 (digits.reverse.map fun c => c.toNat - '0'.toNat)

theorem decimal_cons (c : Char) (digits : List Char) :
    decimal (c :: digits) = (c.toNat - '0'.toNat) * 10 ^ digits.length + decimal digits := by
  rw [decimal, List.reverse_cons, List.map_append, Nat.ofDigits_append]
  simp only [List.map_cons, List.map_nil, Nat.ofDigits_singleton, List.length_map,
    List.length_reverse, decimal]
  ring

theorem digitsValue?_eq_some_iff {read n : Nat} {digits : List Char} :
    digitsValue? read digits = some n ↔
      (∀ c ∈ digits, c.isDigit) ∧ read * 10 ^ digits.length + decimal digits = n := by
  induction digits generalizing read with
  | nil => simp [digitsValue?, decimal]
  | cons c rest ih =>
    by_cases hc : c.isDigit
    · rw [digitsValue?, if_pos hc, ih, decimal_cons, List.forall_mem_cons, List.length_cons]
      have hvalue : read * 10 ^ (rest.length + 1) +
            ((c.toNat - '0'.toNat) * 10 ^ rest.length + decimal rest) =
          (10 * read + (c.toNat - '0'.toNat)) * 10 ^ rest.length + decimal rest := by
        ring
      rw [hvalue]
      simp [hc]
    · simp [digitsValue?, hc]

structure IsWord (text : String) (n : Nat) : Prop where
  fits : n ≤ maxWord
  spelt : ∃ digits, (text.toList = digits ∨ text.toList = '+' :: digits) ∧ digits ≠ [] ∧
    (∀ c ∈ digits, c.isDigit) ∧ decimal digits = n

private theorem filter_digitsValue?_eq_some_iff {n : Nat} {digits : List Char} :
    (if digits.isEmpty then none else (digitsValue? 0 digits).filter (· ≤ maxWord)) = some n ↔
      n ≤ maxWord ∧ digits ≠ [] ∧ (∀ c ∈ digits, c.isDigit) ∧ decimal digits = n := by
  cases digits with
  | nil => simp
  | cons c rest =>
    rw [if_neg (by simp), Option.filter_eq_some_iff, digitsValue?_eq_some_iff]
    simp only [Nat.zero_mul, Nat.zero_add, decide_eq_true_eq, ne_eq, reduceCtorEq,
      not_false_eq_true, true_and]
    exact and_comm

theorem word?_eq_some_iff {text : String} {n : Nat} : word? text = some n ↔ IsWord text n := by
  have hplus : ¬('+').isDigit := by decide
  rw [word?]
  split
  · rename_i rest htext
    rw [filter_digitsValue?_eq_some_iff]
    constructor
    · rintro ⟨hfits, hdigits⟩
      exact ⟨hfits, rest, .inr htext, hdigits⟩
    · rintro ⟨hfits, digits, hspelt | hspelt, hne, hdigits, hvalue⟩
      · rw [← hspelt, htext] at hdigits
        exact absurd (hdigits '+' List.mem_cons_self) hplus
      · rw [htext] at hspelt
        obtain rfl : rest = digits := (List.cons.inj hspelt).2
        exact ⟨hfits, hne, hdigits, hvalue⟩
  · rename_i htext
    rw [filter_digitsValue?_eq_some_iff]
    constructor
    · rintro ⟨hfits, hdigits⟩
      exact ⟨hfits, text.toList, .inl rfl, hdigits⟩
    · rintro ⟨hfits, digits, hspelt | hspelt, hdigits⟩
      · exact ⟨hfits, hspelt ▸ hdigits⟩
      · exact absurd hspelt (htext digits)

theorem IsWord.isText {text : String} {n : Nat} (h : IsWord text n) : Headers.isText text := by
  obtain ⟨digits, hspelt, -, hdigits, -⟩ := h.spelt
  have hdigit : ∀ c : Char, c.isDigit → 0x20 ≤ c.toNat ∧ c.toNat ≤ 0x7e := by
    intro c hc
    simp only [Char.isDigit, Bool.and_eq_true, decide_eq_true_eq, ge_iff_le, UInt32.le_iff_toNat_le]
      at hc
    change 48 ≤ c.toNat ∧ c.toNat ≤ 57 at hc
    omega
  rw [Headers.isText, List.all_eq_true]
  intro c hc
  have hrange : 0x20 ≤ c.toNat ∧ c.toNat ≤ 0x7e := by
    rcases hspelt with hspelt | hspelt <;> rw [hspelt] at hc
    · exact hdigit c (hdigits c hc)
    · rcases List.mem_cons.1 hc with rfl | hc
      · decide
      · exact hdigit c (hdigits c hc)
  simp [hrange]

/-! ## Blanks -/

def isBlank (c : Char) : Bool :=
  c == ' ' || c == '\t'

structure Trims (text core : List Char) : Prop where
  padded : ∃ left right, text = left ++ (core ++ right) ∧
    (∀ c ∈ left, isBlank c) ∧ ∀ c ∈ right, isBlank c
  first : ∀ c ∈ core.head?, ¬isBlank c
  last : ∀ c ∈ core.getLast?, ¬isBlank c

private theorem trimBlanks_eq (text : List Char) :
    RequestHead.trimBlanks text =
      ((text.dropWhile isBlank).reverse.dropWhile isBlank).reverse :=
  rfl

private theorem isBlank_of_mem_takeWhile {text : List Char} {c : Char}
    (h : c ∈ text.takeWhile isBlank) : isBlank c :=
  List.all_eq_true.1 List.all_takeWhile c h

private theorem not_isBlank_of_head?_dropWhile {text : List Char} {c : Char}
    (h : c ∈ (text.dropWhile isBlank).head?) : ¬isBlank c := by
  have hhead := List.head?_dropWhile_not isBlank text
  rw [Option.mem_def.1 h] at hhead
  simpa using hhead

theorem trims_trimBlanks (text : List Char) : Trims text (RequestHead.trimBlanks text) := by
  let middle := text.dropWhile isBlank
  have hmiddle : (middle.reverse.dropWhile isBlank).reverse ++
      (middle.reverse.takeWhile isBlank).reverse = middle := by
    rw [← List.reverse_append, List.takeWhile_append_dropWhile, List.reverse_reverse]
  rw [trimBlanks_eq]
  refine ⟨⟨text.takeWhile isBlank, (middle.reverse.takeWhile isBlank).reverse, ?_, ?_, ?_⟩, ?_, ?_⟩
  · rw [hmiddle, List.takeWhile_append_dropWhile]
  · exact fun c hc => isBlank_of_mem_takeWhile hc
  · exact fun c hc => isBlank_of_mem_takeWhile (List.mem_reverse.1 hc)
  · intro c hc
    have hmem : c ∈ middle.head? := by
      rw [← hmiddle, List.head?_append, Option.mem_def.1 hc]
      rfl
    exact not_isBlank_of_head?_dropWhile hmem
  · intro c hc
    rw [List.getLast?_reverse] at hc
    exact not_isBlank_of_head?_dropWhile hc

private theorem dropWhile_eq_self {text : List Char} (h : ∀ c ∈ text.head?, ¬isBlank c) :
    text.dropWhile isBlank = text := by
  cases text with
  | nil => rfl
  | cons c rest => rw [List.dropWhile_cons_of_neg (h c rfl)]

theorem Trims.trimBlanks_eq {text core : List Char} (h : Trims text core) :
    RequestHead.trimBlanks text = core := by
  obtain ⟨left, right, rfl, hleft, hright⟩ := h.padded
  rw [Switchboard.trimBlanks_eq, List.dropWhile_append_of_pos hleft]
  cases hcore : core with
  | nil =>
    rw [List.nil_append, List.dropWhile_eq_nil_iff.2 hright]
    rfl
  | cons c rest =>
    have hfirst : ∀ d ∈ (core ++ right).head?, ¬isBlank d := by
      rw [hcore]
      exact fun d hd => h.first d (by rw [hcore]; exact hd)
    have hlast : ∀ d ∈ core.reverse.head?, ¬isBlank d := by
      rw [List.head?_reverse]
      exact h.last
    rw [← hcore, dropWhile_eq_self hfirst, List.reverse_append,
      List.dropWhile_append_of_pos (fun d hd => hright d (List.mem_reverse.1 hd)),
      dropWhile_eq_self hlast, List.reverse_reverse]

/-! ## Declarations -/

namespace RequestHead

/-- The length that a head declares: the word that its first length is, and zero if it is none. -/
def Declares (head : RequestHead) (length : Nat) : Prop :=
  (∃ value, head.headers.First "content-length" value ∧ IsWord value length) ∨
    (length = 0 ∧ ∀ value, head.headers.First "content-length" value → ∀ n, ¬IsWord value n)

theorem declares_iff {head : RequestHead} {length : Nat} :
    head.Declares length ↔ head.declaredLength = length := by
  have hread : ∀ n, (head.headers.text? "content-length").bind word? = some n ↔
      ∃ value, head.headers.First "content-length" value ∧ IsWord value n := by
    intro n
    simp only [Option.bind_eq_some_iff, Headers.text?_eq_some_iff, word?_eq_some_iff]
    exact ⟨fun ⟨value, hvalue, hword⟩ => ⟨value, hvalue.1, hword⟩,
      fun ⟨value, hvalue, hword⟩ => ⟨value, ⟨hvalue, hword.isText⟩, hword⟩⟩
  rw [declaredLength, Declares]
  cases hnumber : (head.headers.text? "content-length").bind word? with
  | none =>
    have hnone : ∀ n, ¬∃ value, head.headers.First "content-length" value ∧ IsWord value n := by
      intro n hn
      rw [← hread n, hnumber] at hn
      cases hn
    constructor
    · rintro (hsome | ⟨rfl, -⟩)
      · exact absurd hsome (hnone length)
      · rfl
    · rintro rfl
      exact .inr ⟨rfl, fun value hvalue n hword => hnone n ⟨value, hvalue, hword⟩⟩
  | some n =>
    obtain ⟨value, hvalue, hword⟩ := (hread n).1 hnumber
    constructor
    · rintro (hsome | ⟨-, hnone⟩)
      · rw [← hread length, hnumber] at hsome
        exact Option.some.inj hsome
      · exact absurd hword (hnone value hvalue n)
    · rintro rfl
      exact .inl ⟨value, hvalue, hword⟩

/-- The type that a head declares: its first type, if that is a text, up to the first semicolon,
without the blanks around it and in lower case. -/
def HasType (head : RequestHead) (type : String) : Prop :=
  ∃ value before rest core, head.headers.First "content-type" value ∧ Headers.isText value ∧
    value.toList = before ++ rest ∧ ';' ∉ before ∧ (∀ c ∈ rest.head?, c = ';') ∧
    Trims before core ∧ type = String.ofList (core.map Char.toLower)

private theorem takeWhile_eq_of_split {before rest : List Char} (hbefore : ';' ∉ before)
    (hrest : ∀ c ∈ rest.head?, c = ';') : (before ++ rest).takeWhile (· != ';') = before := by
  rw [List.takeWhile_append_of_pos fun c hc => by
    rw [bne_iff_ne]
    rintro rfl
    exact hbefore hc]
  cases rest with
  | nil => simp
  | cons c rest =>
    obtain rfl : c = ';' := hrest c rfl
    simp

theorem hasType_iff {head : RequestHead} {type : String} :
    head.HasType type ↔
      (head.headers.text? "content-type").isSome ∧ head.mediaType = type := by
  constructor
  · rintro ⟨value, before, rest, core, hvalue, htext, hsplit, hbefore, hrest, hcore, rfl⟩
    rw [mediaType, Headers.text?_eq_some_iff.2 ⟨hvalue, htext⟩]
    refine ⟨rfl, ?_⟩
    simp only [hsplit, takeWhile_eq_of_split hbefore hrest, hcore.trimBlanks_eq]
  · rintro ⟨hsome, rfl⟩
    obtain ⟨value, hvalue⟩ := Option.isSome_iff_exists.1 hsome
    obtain ⟨hfirst, htext⟩ := Headers.text?_eq_some_iff.1 hvalue
    rw [mediaType, hvalue]
    refine ⟨value, value.toList.takeWhile (· != ';'), value.toList.dropWhile (· != ';'), _, hfirst,
      htext, (List.takeWhile_append_dropWhile).symm, ?_, ?_, trims_trimBlanks _, rfl⟩
    · intro hmem
      simpa using List.all_eq_true.1 List.all_takeWhile _ hmem
    · intro c hc
      have hhead := List.head?_dropWhile_not (· != ';') value.toList
      rw [Option.mem_def.1 hc] at hhead
      simpa using hhead

theorem acceptedContentTypes_contains_iff {head : RequestHead} :
    acceptedContentTypes.contains head.mediaType = true ↔
      ∃ type ∈ acceptedContentTypes, head.HasType type := by
  rw [List.contains_iff_mem]
  constructor
  · intro hmem
    refine ⟨head.mediaType, hmem, hasType_iff.2 ⟨?_, rfl⟩⟩
    by_contra hnone
    rw [Bool.not_eq_true, Option.isSome_eq_false_iff, Option.isNone_iff_eq_none] at hnone
    rw [mediaType, hnone] at hmem
    exact absurd hmem (by decide)
  · rintro ⟨type, hmem, htype⟩
    rwa [(hasType_iff.1 htype).2]

end RequestHead

end Switchboard
