import Mathlib.Tactic
import Switchboard.Proofs.MethodTables
import Switchboard.Registry

/-!
# Registries

What a lookup finds was registered under its key, and no namespace that registrations leave holds a
separator.
-/

namespace Switchboard

def Naming.Hides (naming : Naming) (names : List String) (folded : String) : Prop :=
  ∃ hidden ∈ names, naming.fold hidden = folded

theorem Naming.mem_map_fold_iff {naming : Naming} {names : List String} {folded : String} :
    folded ∈ names.map naming.fold ↔ naming.Hides names folded :=
  List.mem_map

namespace Registry

/-! ## Lookups -/

theorem mem_of_service? {registry : Registry σ} {space : String} {entry : Entry σ}
    (h : registry.service? space = some entry) : (space, entry) ∈ registry.services := by
  obtain ⟨⟨key, _⟩, hfind, rfl⟩ := Option.map_eq_some_iff.1 h
  have hkey : key = space := by simpa using List.find?_some hfind
  exact hkey ▸ List.mem_of_find?_eq_some hfind

theorem resolve_of_no_service {registry : Registry σ} {space : String}
    (h : registry.service? space = none) (method : String) :
    registry.resolve space method = .error (.methodNotFound "no namespace") := by
  rw [resolve, h]

theorem resolve_of_no_method {registry : Registry σ} {space method : String} {entry : Entry σ}
    (hservice : registry.service? space = some entry) (h : entry.methods.get? method = none) :
    registry.resolve space method = .error (.methodNotFound "no method") := by
  simp only [resolve, hservice, h]

theorem resolve_of_found {registry : Registry σ} {space method : String} {entry : Entry σ}
    {plan : Plan σ} (hservice : registry.service? space = some entry)
    (h : entry.methods.get? method = some plan) :
    registry.resolve space method = .ok plan := by
  simp only [resolve, hservice, h]

theorem resolve_eq_ok_iff {registry : Registry σ} {space method : String} {plan : Plan σ} :
    registry.resolve space method = .ok plan ↔
      ∃ entry, registry.service? space = some entry ∧ entry.methods.get? method = some plan := by
  constructor
  · intro h
    cases hservice : registry.service? space with
    | none => simp [resolve_of_no_service hservice] at h
    | some entry =>
      cases hmethod : entry.methods.get? method with
      | none => simp [resolve_of_no_method hservice hmethod] at h
      | some found =>
        rw [resolve_of_found hservice hmethod] at h
        exact ⟨entry, rfl, hmethod.trans (congrArg some (Except.ok.inj h))⟩
  · rintro ⟨entry, hservice, hmethod⟩
    exact resolve_of_found hservice hmethod

theorem mem_namespaces_iff {registry : Registry σ} {space : String} :
    space ∈ registry.namespaces ↔ ∃ entry, (space, entry) ∈ registry.services := by
  simp [namespaces]

/-! ## Additions -/

/-- A registry takes a registration in: its name can be a namespace and is not taken, and it has
methods left. -/
structure Accepts (registry : Registry σ) (registration : Registration σ) : Prop where
  isNamespace : Registry.isNamespace (registry.naming.fold registration.name)
  exposes : (registry.exposed registration).isEmpty = false
  free : registry.contains (registry.naming.fold registration.name) = false

def entryOf (registry : Registry σ) (registration : Registration σ) : Entry σ where
  name := registry.naming.fold registration.name
  typeName := registration.typeName
  backing := registration.backing
  methods := registry.exposed registration

def grow (registry : Registry σ) (registration : Registration σ) : Registry σ :=
  let entry := registry.entryOf registration
  { registry with services := registry.services ++ [(entry.name, entry)] }

theorem add_of_accepts {registry : Registry σ} {registration : Registration σ}
    (h : registry.Accepts registration) :
    registry.add registration = .ok (true, registry.grow registration) := by
  have hname := h.isNamespace
  have hmethods := h.exposes
  have hfree := h.free
  simp [add, judge, grow, entryOf, hname, hmethods, hfree]

theorem add_of_not_isNamespace {registry : Registry σ} {registration : Registration σ}
    (h : Registry.isNamespace (registry.naming.fold registration.name) = false) :
    registry.add registration =
      .error (.invalidNamespace (registry.naming.fold registration.name)) := by
  simp [add, judge, h]

theorem add_of_hollow {registry : Registry σ} {registration : Registration σ}
    (hname : Registry.isNamespace (registry.naming.fold registration.name) = true)
    (h : (registry.exposed registration).isEmpty = true) :
    registry.add registration = .ok (false, registry) := by
  simp [add, judge, hname, h]

theorem add_of_contains {registry : Registry σ} {registration : Registration σ}
    (hname : Registry.isNamespace (registry.naming.fold registration.name) = true)
    (hmethods : (registry.exposed registration).isEmpty = false)
    (h : registry.contains (registry.naming.fold registration.name) = true) :
    registry.add registration =
      .error (.duplicateNamespace (registry.naming.fold registration.name)) := by
  simp [add, judge, hname, hmethods, h]

theorem add_of_not_accepts {registry : Registry σ} {registration : Registration σ}
    (h : ¬registry.Accepts registration) :
    (∃ error, registry.add registration = .error error) ∨
      registry.add registration = .ok (false, registry) := by
  cases hname : Registry.isNamespace (registry.naming.fold registration.name) with
  | false => exact .inl ⟨_, add_of_not_isNamespace hname⟩
  | true =>
    cases hmethods : (registry.exposed registration).isEmpty with
    | true => exact .inr (add_of_hollow hname hmethods)
    | false =>
      cases hfree : registry.contains (registry.naming.fold registration.name) with
      | true => exact .inl ⟨_, add_of_contains hname hmethods hfree⟩
      | false => exact absurd ⟨hname, hmethods, hfree⟩ h

theorem accepts_of_add {registry after : Registry σ} {registration : Registration σ}
    (h : registry.add registration = .ok (true, after)) : registry.Accepts registration := by
  by_contra hrefused
  rcases add_of_not_accepts hrefused with ⟨error, herror⟩ | hsame
  · simp [herror] at h
  · simp [hsame] at h

/-- The registries that registrations make of an empty one. -/
inductive Reachable : Registry σ → Prop
  | empty (naming : Naming) : Reachable { naming }
  | exclude (names : List String) : Reachable registry →
      Reachable (registry.setGlobalExcludes names)
  | add : Reachable registry → registry.add registration = .ok (added, after) → Reachable after

theorem Reachable.isNamespace {registry : Registry σ} (h : registry.Reachable) :
    ∀ space entry, (space, entry) ∈ registry.services → Registry.isNamespace space := by
  induction h with
  | empty => intro _ _ hmem; cases hmem
  | exclude _ _ ih => exact ih
  | @add registry registration added after _ hadd ih =>
    intro space entry hmem
    by_cases haccepts : registry.Accepts registration
    · rw [add_of_accepts haccepts] at hadd
      cases hadd
      rcases List.mem_append.1 hmem with hmem | hmem
      · exact ih space entry hmem
      · cases List.mem_singleton.1 hmem
        exact haccepts.isNamespace
    · rcases add_of_not_accepts haccepts with ⟨error, herror⟩ | hsame
      · simp [herror] at hadd
      · rw [hsame] at hadd
        cases hadd
        exact ih space entry hmem

theorem separator_notMem_of_isNamespace {space : String} (h : isNamespace space) :
    separator ∉ space.toList := by
  simp only [isNamespace, Bool.and_eq_true, Bool.not_eq_true', List.contains_eq_mem,
    decide_eq_false_iff_not] at h
  exact h.2

end Registry

end Switchboard
