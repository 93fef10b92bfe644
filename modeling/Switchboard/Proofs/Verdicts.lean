import Mathlib.Tactic
import Switchboard.Proofs.Additions

/-!
# Verdicts on registrations

What a registry answers to a registration: a bad name is told first, then that no method is left,
and then that the name is taken. An entry has the first plan of every folded name that is not
hidden, wherever the plans stand that it leaves out.
-/

namespace Switchboard

namespace Registry

/-! ## What there is to find -/

def Misnamed (registry : Registry σ) (registration : Registration σ) : Prop :=
  registry.naming.fold registration.name = "" ∨
    separator ∈ (registry.naming.fold registration.name).toList

/-- A folded name is that of a hook, of a method that the service hides, or of one that is hidden
from all services. -/
def Conceals (registry : Registry σ) (registration : Registration σ) (folded : String) : Prop :=
  registry.naming.Hides (reservedNames ++ registration.excluded ++ registry.globalExcludes) folded

def Hollow (registry : Registry σ) (registration : Registration σ) : Prop :=
  ∀ plan ∈ registration.plans, registry.Conceals registration (registry.naming.fold plan.name)

def Taken (registry : Registry σ) (registration : Registration σ) : Prop :=
  registry.naming.fold registration.name ∈ registry.services.map (·.1)

variable {registry : Registry σ} {registration : Registration σ}

theorem mem_skippedNames_iff {folded : String} :
    folded ∈ registry.skippedNames registration ↔ registry.Conceals registration folded :=
  Naming.mem_map_fold_iff

theorem isNamespace_eq_false_iff :
    isNamespace (registry.naming.fold registration.name) = false ↔
      registry.Misnamed registration := by
  rw [isNamespace, Bool.and_eq_false_iff, Misnamed]
  simp

theorem isEmpty_exposed_iff :
    (registry.exposed registration).isEmpty = true ↔ registry.Hollow registration := by
  simp only [exposed, MethodTable.isEmpty_ofPlans_iff, mem_skippedNames_iff, Hollow]

theorem contains_fold_iff :
    registry.contains (registry.naming.fold registration.name) = true ↔
      registry.Taken registration :=
  contains_iff_mem_keys

/-! ## Verdicts -/

/-- All that can come of an addition. -/
theorem add_cases (registry : Registry σ) (registration : Registration σ) :
    registry.Misnamed registration ∧ registry.add registration =
        .error (.invalidNamespace (registry.naming.fold registration.name)) ∨
      ¬registry.Misnamed registration ∧ registry.Hollow registration ∧
        registry.add registration = .ok (false, registry) ∨
      ¬registry.Misnamed registration ∧ ¬registry.Hollow registration ∧
        registry.Taken registration ∧ registry.add registration =
          .error (.duplicateNamespace (registry.naming.fold registration.name)) ∨
      ¬registry.Misnamed registration ∧ ¬registry.Hollow registration ∧
        ¬registry.Taken registration ∧
        registry.add registration = .ok (true, registry.grow registration) := by
  rw [← isNamespace_eq_false_iff, ← isEmpty_exposed_iff, ← contains_fold_iff]
  cases hname : isNamespace (registry.naming.fold registration.name) with
  | false => exact .inl ⟨rfl, add_of_not_isNamespace hname⟩
  | true =>
    cases hmethods : (registry.exposed registration).isEmpty with
    | true => exact .inr (.inl ⟨by simp, rfl, add_of_hollow hname hmethods⟩)
    | false =>
      cases hfree : registry.contains (registry.naming.fold registration.name) with
      | true =>
        exact .inr (.inr (.inl ⟨by simp, by simp, rfl, add_of_contains hname hmethods hfree⟩))
      | false =>
        exact .inr (.inr (.inr ⟨by simp, by simp, by simp,
          add_of_accepts ⟨hname, hmethods, hfree⟩⟩))

theorem mem_entryOf_iff {folded : String} {plan : Plan σ} :
    (folded, plan) ∈ (registry.entryOf registration).methods.entries ↔
      ¬registry.Conceals registration folded ∧
        registration.plans.find? (registry.naming.fold ·.name == folded) = some plan := by
  have hget : (registry.entryOf registration).methods.get? folded =
      if folded ∈ registry.skippedNames registration then none
      else registration.plans.find? (registry.naming.fold ·.name == folded) :=
    MethodTable.get?_ofPlans _ _ _ _
  have hmem : (folded, plan) ∈ (registry.entryOf registration).methods.entries ↔
      (registry.entryOf registration).methods.get? folded = some plan :=
    ⟨MethodTable.get?_ofPlans_of_mem, MethodTable.mem_of_get?⟩
  rw [hmem, hget, ← mem_skippedNames_iff]
  split <;> simp [*]

theorem add_without {front back : List (Plan σ)} {plan : Plan σ}
    (hplans : registration.plans = front ++ plan :: back)
    (h : registry.Conceals registration (registry.naming.fold plan.name) ∨
      ∃ earlier ∈ front, registry.naming.fold earlier.name = registry.naming.fold plan.name) :
    registry.add { registration with plans := front ++ back } = registry.add registration := by
  have hexposed : registry.exposed { registration with plans := front ++ back } =
      registry.exposed registration := by
    rw [← mem_skippedNames_iff] at h
    rw [exposed, exposed, hplans, MethodTable.ofPlans_append_cons back h]
    rfl
  simp only [add, judge, hexposed]

/-- The verdict on a registration, and what a registry is after it took one in. The entry has one
method for every folded name that is not concealed, whatever else is declared. -/
theorem add_tells_verdict (registry : Registry σ) (registration : Registration σ) :
    let fold := registry.naming.fold
    let name := fold registration.name
    let entry := registry.entryOf registration
    (∀ text, registry.add registration = .error (.invalidNamespace text) ↔
      text = name ∧ registry.Misnamed registration) ∧
    (∀ after, registry.add registration = .ok (false, after) ↔
      after = registry ∧ ¬registry.Misnamed registration ∧ registry.Hollow registration) ∧
    (∀ text, registry.add registration = .error (.duplicateNamespace text) ↔
      text = name ∧ ¬registry.Misnamed registration ∧ ¬registry.Hollow registration ∧
        registry.Taken registration) ∧
    (∀ after, registry.add registration = .ok (true, after) ↔
      after = { registry with services := registry.services ++ [(name, entry)] } ∧
        ¬registry.Misnamed registration ∧ ¬registry.Hollow registration ∧
        ¬registry.Taken registration) ∧
    (entry.methods.entries.map (·.1)).Nodup ∧
    (∀ folded plan, (folded, plan) ∈ entry.methods.entries ↔
      ¬registry.Conceals registration folded ∧
        registration.plans.find? (fold ·.name == folded) = some plan) ∧
    ∀ front plan back, registration.plans = front ++ plan :: back →
      (registry.Conceals registration (fold plan.name) ∨
        ∃ earlier ∈ front, fold earlier.name = fold plan.name) →
      registry.add { registration with plans := front ++ back } = registry.add registration := by
  intro fold name entry
  have hgrow : registry.grow registration =
      { registry with services := registry.services ++ [(name, entry)] } := rfl
  rw [← hgrow]
  refine ⟨fun text => ?_, fun after => ?_, fun text => ?_, fun after => ?_,
    MethodTable.nodup_ofPlans _ _ _, fun folded plan => mem_entryOf_iff,
    fun front plan back => add_without⟩
  -- each verdict is the one of its case, and none of the others
  all_goals
    rcases registry.add_cases registration with ⟨hname, hadd⟩ | ⟨hname, hhollow, hadd⟩ |
      ⟨hname, hhollow, htaken, hadd⟩ | ⟨hname, hhollow, htaken, hadd⟩
    all_goals
      rw [hadd]
      simp [name, fold, *, eq_comm]

end Registry

end Switchboard
