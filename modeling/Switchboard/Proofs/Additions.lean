import Mathlib.Tactic
import Switchboard.Proofs.Histories

/-!
# Additions one by one

Registrations are added to a registry in order, and one that is refused does not stop the others.
The entries that are added stand behind those there were, and each is made under the names that are
hidden all along.
-/

namespace Switchboard

namespace Registry

def addAll (registry : Registry σ) (registrations : List (Registration σ)) : Registry σ :=
  (registrations.map .add).foldl operate registry

def taken : Registry σ → List (Registration σ) → List (Registration σ)
  | _, [] => []
  | registry, registration :: rest =>
    match registry.add registration with
    | .ok (true, after) => registration :: after.taken rest
    | .ok (false, _) | .error _ => registry.taken rest

def row (registry : Registry σ) (registration : Registration σ) : String × Entry σ :=
  (registry.naming.fold registration.name, registry.entryOf registration)

variable {registry other : Registry σ} {registration : Registration σ}

theorem addAll_cons (registry : Registry σ) (registration : Registration σ)
    (rest : List (Registration σ)) :
    registry.addAll (registration :: rest) =
      (registry.operate (.add registration)).addAll rest :=
  rfl

theorem taken_of_accepts (h : registry.Accepts registration) (rest : List (Registration σ)) :
    registry.taken (registration :: rest) =
      registration :: (registry.grow registration).taken rest := by
  rw [taken, add_of_accepts h]

theorem taken_of_not_accepts (h : ¬registry.Accepts registration)
    (rest : List (Registration σ)) :
    registry.taken (registration :: rest) = registry.taken rest := by
  rcases add_of_not_accepts h with ⟨error, herror⟩ | hsame
  · rw [taken, herror]
  · rw [taken, hsame]

/-! ## What an entry depends on -/

structure Agrees (registry other : Registry σ) : Prop where
  naming : registry.naming = other.naming
  globalExcludes : registry.globalExcludes = other.globalExcludes

theorem Agrees.exposed_eq (h : registry.Agrees other) (registration : Registration σ) :
    registry.exposed registration = other.exposed registration := by
  rw [exposed, exposed, skippedNames, skippedNames, h.naming, h.globalExcludes]

theorem Agrees.entryOf_eq (h : registry.Agrees other) (registration : Registration σ) :
    registry.entryOf registration = other.entryOf registration := by
  rw [entryOf, entryOf, h.naming, h.exposed_eq]

theorem Agrees.row_eq (h : registry.Agrees other) : registry.row = other.row := by
  funext registration
  rw [row, row, h.naming, h.entryOf_eq]

theorem operate_add_agrees (registry : Registry σ) (registration : Registration σ) :
    (registry.operate (.add registration)).Agrees registry := by
  by_cases h : registry.Accepts registration
  · rw [operate_add_of_accepts h]
    exact ⟨rfl, rfl⟩
  · rw [operate_add_of_not_accepts h]
    exact ⟨rfl, rfl⟩

theorem addAll_agrees (registry : Registry σ) (registrations : List (Registration σ)) :
    (registry.addAll registrations).Agrees registry := by
  induction registrations generalizing registry with
  | nil => exact ⟨rfl, rfl⟩
  | cons registration rest ih =>
    have hfirst := registry.operate_add_agrees registration
    have hrest := ih (registry.operate (.add registration))
    exact ⟨hrest.naming.trans hfirst.naming, hrest.globalExcludes.trans hfirst.globalExcludes⟩

/-! ## What is taken in -/

/-- All that additions do is to put the entries of what is taken in at the end. -/
theorem services_addAll (registry : Registry σ) (registrations : List (Registration σ)) :
    (registry.addAll registrations).services =
      registry.services ++ (registry.taken registrations).map registry.row := by
  induction registrations generalizing registry with
  | nil => exact (List.append_nil _).symm
  | cons registration rest ih =>
    rw [addAll_cons]
    by_cases h : registry.Accepts registration
    · have hrow : (registry.grow registration).row = registry.row :=
        Agrees.row_eq ⟨rfl, rfl⟩
      have hservices : (registry.grow registration).services =
          registry.services ++ [registry.row registration] := rfl
      rw [operate_add_of_accepts h, ih, taken_of_accepts h, hrow, hservices, List.map_cons,
        List.append_assoc, List.singleton_append]
    · rw [operate_add_of_not_accepts h, ih, taken_of_not_accepts h]

theorem addAll_eq (registry : Registry σ) (registrations : List (Registration σ)) :
    registry.addAll registrations =
      { registry with
        services := registry.services ++ (registry.taken registrations).map registry.row } := by
  have hagrees := registry.addAll_agrees registrations
  have hservices := registry.services_addAll registrations
  cases hall : registry.addAll registrations
  rw [hall] at hagrees hservices
  cases hagrees.naming
  cases hagrees.globalExcludes
  cases hservices
  rfl

/-- A registration that a registry takes in unless its name is taken. -/
structure Suits (registry : Registry σ) (registration : Registration σ) : Prop where
  isNamespace : Registry.isNamespace (registry.naming.fold registration.name)
  exposes : (registry.exposed registration).isEmpty = false

theorem Agrees.suits_iff (h : registry.Agrees other) :
    registry.Suits registration ↔ other.Suits registration := by
  constructor
  · rintro ⟨hname, hexposes⟩
    rw [h.naming] at hname
    rw [h.exposed_eq] at hexposes
    exact ⟨hname, hexposes⟩
  · rintro ⟨hname, hexposes⟩
    rw [← h.naming] at hname
    rw [← h.exposed_eq] at hexposes
    exact ⟨hname, hexposes⟩

theorem Suits.accepts_iff (h : registry.Suits registration) :
    registry.Accepts registration ↔
      registry.contains (registry.naming.fold registration.name) = false :=
  ⟨fun haccepts => haccepts.free, fun hfree => ⟨h.isNamespace, h.exposes, hfree⟩⟩

theorem mem_taken {registrations : List (Registration σ)}
    (h : registration ∈ registry.taken registrations) :
    registration ∈ registrations ∧ registry.Suits registration ∧
      registry.contains (registry.naming.fold registration.name) = false := by
  induction registrations generalizing registry with
  | nil => cases h
  | cons first rest ih =>
    by_cases haccepts : registry.Accepts first
    · rw [taken_of_accepts haccepts] at h
      rcases List.mem_cons.1 h with rfl | h
      · exact ⟨List.mem_cons_self, ⟨haccepts.isNamespace, haccepts.exposes⟩, haccepts.free⟩
      · obtain ⟨hmem, hsuits, hfree⟩ := ih h
        have hagrees : (registry.grow first).Agrees registry := ⟨rfl, rfl⟩
        refine ⟨List.mem_cons_of_mem _ hmem, hagrees.suits_iff.1 hsuits, ?_⟩
        -- a name that is free in the larger registry was free before
        rw [contains, List.any_eq_false] at hfree ⊢
        exact fun taken htaken => hfree taken (List.mem_append_left _ htaken)
    · rw [taken_of_not_accepts haccepts] at h
      obtain ⟨hmem, hrest⟩ := ih h
      exact ⟨List.mem_cons_of_mem _ hmem, hrest⟩

theorem contains_iff_mem_keys {space : String} :
    registry.contains space = true ↔ space ∈ registry.services.map (·.1) := by
  rw [contains, List.any_eq_true]
  simp

end Registry

end Switchboard
