import Mathlib.Tactic
import Switchboard.Declaration.Method

/-!
# What attributes say of a method's exposure

The attributes of a method are read if all their items are, and then say what the items say, in
their order: one mark is enough to skip the method, and the last name counts.
-/

namespace Switchboard

inductive AttributeItem.Exposes : AttributeItem → Prop
  | skip : Exposes { key := "skip", assigned := .nothing }
  | name (text : String) : Exposes { key := "name", assigned := .value (.string text) }

def AttributeItem.givenName? (item : AttributeItem) : Option String :=
  match item.assigned with
  | .value (.string text) => if item.key = "name" then some text else none
  | _ => none

def Attribute.Exposes (attr : Attribute) : Prop :=
  ∃ items, attr.items = some items ∧ ∀ item ∈ items, item.Exposes

namespace ExposureOptions

def andThen (options : ExposureOptions) (items : List AttributeItem) : ExposureOptions where
  skip := options.skip || items.any (·.key == "skip")
  name := (items.filterMap AttributeItem.givenName?).getLast?.or options.name

theorem andThen_nil (options : ExposureOptions) : options.andThen [] = options := by
  simp [andThen]

theorem andThen_append (options : ExposureOptions) (first second : List AttributeItem) :
    options.andThen (first ++ second) = (options.andThen first).andThen second := by
  simp only [andThen, List.any_append, List.filterMap_append, List.getLast?_append, Bool.or_assoc,
    Option.or_assoc]

theorem readItem_eq_ok_iff {isLast : Bool} {item : AttributeItem}
    {options read : ExposureOptions} :
    readItem isLast item options = .ok read ↔ item.Exposes ∧ read = options.andThen [item] := by
  constructor
  · intro h
    obtain ⟨key, assigned⟩ := item
    rw [readItem] at h
    split at h
    · rename_i hkey
      obtain rfl : key = "skip" := hkey
      cases assigned with
      | nothing =>
        cases h
        exact ⟨.skip, by simp [andThen, AttributeItem.givenName?]⟩
      | value | group => cases h
    · rename_i hkey
      obtain rfl : key = "name" := hkey
      rcases assigned with _ | (text | _) | _
      · cases h
      · cases h
        exact ⟨.name text, by simp [andThen, AttributeItem.givenName?]⟩
      · cases h
      · cases h
    · cases h
  · rintro ⟨_ | text, rfl⟩
    · simp only [readItem, Assigned.nothing?, andThen, AttributeItem.givenName?]
      simp
      rfl
    · simp only [readItem, Assigned.string?, Literal.string?, andThen, AttributeItem.givenName?]
      simp
      rfl

theorem readItems_eq_ok_iff {items : List AttributeItem} {options read : ExposureOptions} :
    Attribute.readItems readItem items options = .ok read ↔
      (∀ item ∈ items, item.Exposes) ∧ read = options.andThen items := by
  induction items generalizing options with
  | nil =>
    rw [Attribute.readItems, andThen_nil]
    simp [eq_comm]
  | cons item items ih =>
    rw [Attribute.readItems, List.forall_mem_cons, ← List.singleton_append, andThen_append]
    cases hitem : readItem items.isEmpty item options with
    | error error =>
      have hnot : ¬item.Exposes := fun hexposes => by
        simp [readItem_eq_ok_iff.2 ⟨hexposes, rfl⟩] at hitem
      simp [bind, Except.bind, hnot]
    | ok between =>
      obtain ⟨hexposes, rfl⟩ := readItem_eq_ok_iff.1 hitem
      rw [and_iff_right hexposes]
      exact ih

theorem read_eq_ok_iff {attr : Attribute} {options read : ExposureOptions} :
    attr.read readItem options = .ok read ↔
      attr.Exposes ∧ read = options.andThen (attr.items.getD []) := by
  rw [Attribute.read, Attribute.Exposes]
  cases attr.items with
  | none => simp
  | some items => simpa using readItems_eq_ok_iff

def itemsOf (attributes : List Attribute) : List AttributeItem :=
  (attributes.filter (·.path == attributePath)).flatMap fun attr => attr.items.getD []

private theorem foldl_readAttribute (attributes : List Attribute) (options : ExposureOptions)
    (error : Option AttributeError) :
    let after := attributes.foldl (fun before attr => readAttribute attr before) (options, error)
    (after.2 = none ↔ error = none ∧ ∀ attr ∈ attributes, attr.Exposes) ∧
      (after.2 = none →
        after.1 = options.andThen (attributes.flatMap fun attr => attr.items.getD [])) := by
  induction attributes generalizing options error with
  | nil => simp [andThen_nil]
  | cons attr attributes ih =>
    rw [List.foldl_cons, List.forall_mem_cons, List.flatMap_cons, andThen_append]
    cases hread : attr.read readItem options with
    | error fault =>
      have hnot : ¬attr.Exposes := fun hexposes => by
        simp [read_eq_ok_iff.2 ⟨hexposes, rfl⟩] at hread
      have hstep : readAttribute attr (options, error) = (options, some fault) := by
        simp only [readAttribute, hread]
      rw [hstep]
      have hkept := (ih options (some fault)).1
      simp only [reduceCtorEq, false_and, iff_false] at hkept
      simp [hkept, hnot]
    | ok read =>
      obtain ⟨hexposes, rfl⟩ := read_eq_ok_iff.1 hread
      have hstep : readAttribute attr (options, error) =
          (options.andThen (attr.items.getD []), error) := by
        simp only [readAttribute, hread]
      rw [hstep, and_iff_right hexposes]
      exact ih _ error

theorem ofAttributes_eq_ok_iff {attributes : List Attribute} {options : ExposureOptions} :
    ofAttributes attributes = .ok options ↔
      (∀ attr ∈ attributes, attr.path = attributePath → attr.Exposes) ∧
        options = ({} : ExposureOptions).andThen (itemsOf attributes) := by
  have hfold := foldl_readAttribute (attributes.filter (·.path == attributePath)) {} none
  have hall : (∀ attr ∈ attributes.filter (·.path == attributePath), attr.Exposes) ↔
      ∀ attr ∈ attributes, attr.path = attributePath → attr.Exposes := by
    simp [List.mem_filter]
  rw [hall] at hfold
  rw [ofAttributes]
  generalize (attributes.filter (·.path == attributePath)).foldl
    (fun before attr => readAttribute attr before) ({}, none) = after at hfold
  obtain ⟨read, error⟩ := after
  obtain ⟨hnone, hread⟩ := hfold
  cases error with
  | some error => simpa using fun h => by simpa using hnone.2 ⟨rfl, h⟩
  | none =>
    rw [and_iff_right (hnone.1 rfl).2, itemsOf, ← hread rfl]
    simp [eq_comm]

end ExposureOptions

end Switchboard
