import Mathlib.Tactic
import Switchboard.Proofs.Additions

/-!
# The order of additions

Registrations that a registry takes in unless their name is taken leave the same namespaces in every
order, and one is refused for every one too many. If all their names differ, no lookup can tell in
which order they were added.
-/

namespace Switchboard

namespace Registry

def isDuplicate : Except RegistryError Bool → Bool
  | .error (.duplicateNamespace _) => true
  | .error (.invalidNamespace _) | .ok _ => false

def verdicts : Registry σ → List (Registration σ) → List (Except RegistryError Bool)
  | _, [] => []
  | registry, registration :: rest =>
    (registry.add registration).map (·.1) ::
      (registry.operate (.add registration)).verdicts rest

variable {registry other : Registry σ} {registration : Registration σ}
  {registrations : List (Registration σ)}

def namesOf (naming : Naming) (registrations : List (Registration σ)) : List String :=
  registrations.map fun registration => naming.fold registration.name

/-! ## One addition -/

theorem Suits.add_of_contains (h : registry.Suits registration)
    (htaken : registry.contains (registry.naming.fold registration.name) = true) :
    registry.add registration =
      .error (.duplicateNamespace (registry.naming.fold registration.name)) :=
  Registry.add_of_contains h.isNamespace h.exposes htaken

theorem Suits.contains_of_not_accepts (h : registry.Suits registration)
    (hrefused : ¬registry.Accepts registration) :
    registry.contains (registry.naming.fold registration.name) = true := by
  rw [h.accepts_iff, Bool.not_eq_false] at hrefused
  exact hrefused

private theorem suits_operate {registrations : List (Registration σ)}
    (h : ∀ other ∈ registrations, registry.Suits other) (registration : Registration σ) :
    ∀ other ∈ registrations, (registry.operate (.add registration)).Suits other :=
  fun other hother => (registry.operate_add_agrees registration).suits_iff.2 (h other hother)

/-! ## Counting -/

theorem countP_verdicts_add_length_taken
    (hsuits : ∀ registration ∈ registrations, registry.Suits registration) :
    (registry.verdicts registrations).countP isDuplicate +
      (registry.taken registrations).length = registrations.length := by
  induction registrations generalizing registry with
  | nil => rfl
  | cons registration rest ih =>
    obtain ⟨hfirst, hrest⟩ := List.forall_mem_cons.1 hsuits
    have hcount := ih (suits_operate hrest registration)
    rw [verdicts]
    by_cases haccepts : registry.Accepts registration
    · have hverdict : isDuplicate ((registry.add registration).map (·.1)) = false := by
        rw [add_of_accepts haccepts]
        rfl
      rw [operate_add_of_accepts haccepts] at hcount ⊢
      rw [List.countP_cons_of_neg (by simp [hverdict]), taken_of_accepts haccepts,
        List.length_cons, List.length_cons]
      omega
    · have htaken := hfirst.contains_of_not_accepts haccepts
      have hverdict : isDuplicate ((registry.add registration).map (·.1)) = true := by
        rw [hfirst.add_of_contains htaken]
        rfl
      rw [operate_add_of_not_accepts haccepts] at hcount ⊢
      rw [List.countP_cons_of_pos hverdict, taken_of_not_accepts haccepts, List.length_cons]
      omega

/-! ## Names -/

theorem nodup_addAll (h : (registry.services.map (·.1)).Nodup)
    (registrations : List (Registration σ)) :
    ((registry.addAll registrations).services.map (·.1)).Nodup := by
  induction registrations generalizing registry with
  | nil => exact h
  | cons registration rest ih => exact ih (nodup_operate h (.add registration))

theorem mem_keys_addAll_iff
    (hsuits : ∀ registration ∈ registrations, registry.Suits registration) {space : String} :
    space ∈ (registry.addAll registrations).services.map (·.1) ↔
      space ∈ registry.services.map (·.1) ∨ space ∈ namesOf registry.naming registrations := by
  induction registrations generalizing registry with
  | nil => simp [addAll, namesOf]
  | cons registration rest ih =>
    obtain ⟨hfirst, hrest⟩ := List.forall_mem_cons.1 hsuits
    have hnaming := (registry.operate_add_agrees registration).naming
    rw [addAll_cons, ih (suits_operate hrest registration), hnaming, namesOf, namesOf,
      List.map_cons, List.mem_cons, ← or_assoc]
    apply or_congr_left
    by_cases haccepts : registry.Accepts registration
    · rw [operate_add_of_accepts haccepts]
      simp [grow, entryOf]
    · rw [operate_add_of_not_accepts haccepts]
      have htaken := contains_iff_mem_keys.1 (hfirst.contains_of_not_accepts haccepts)
      refine ⟨.inl, ?_⟩
      rintro (hmem | rfl)
      · exact hmem
      · exact htaken

theorem taken_eq_self (hsuits : ∀ registration ∈ registrations, registry.Suits registration)
    (hnodup : (namesOf registry.naming registrations).Nodup)
    (hfree : ∀ name ∈ namesOf registry.naming registrations, registry.contains name = false) :
    registry.taken registrations = registrations := by
  induction registrations generalizing registry with
  | nil => rfl
  | cons registration rest ih =>
    obtain ⟨hfirst, hrest⟩ := List.forall_mem_cons.1 hsuits
    rw [namesOf, List.map_cons] at hnodup hfree
    obtain ⟨hnew, hnodup⟩ := List.nodup_cons.1 hnodup
    obtain ⟨hname, hfree⟩ := List.forall_mem_cons.1 hfree
    have haccepts : registry.Accepts registration := hfirst.accepts_iff.2 hname
    have hgrown : ∀ name ∈ namesOf registry.naming rest,
        (registry.grow registration).contains name = false := by
      intro name hmem
      have hother : name ≠ registry.naming.fold registration.name := by
        rintro rfl
        exact hnew hmem
      have hold := hfree name hmem
      rw [contains] at hold ⊢
      rw [grow, List.any_append, hold, Bool.false_or]
      simpa [entryOf] using hother.symm
    have hsuited := suits_operate hrest registration
    rw [operate_add_of_accepts haccepts] at hsuited
    rw [taken_of_accepts haccepts, ih hsuited hnodup hgrown]

/-! ## From a registry without entries -/

theorem keys_addAll_perm (hempty : registry.services = [])
    (hsuits : ∀ registration ∈ registrations, registry.Suits registration) :
    ((registry.addAll registrations).services.map (·.1)).Perm
      (namesOf registry.naming registrations).dedup := by
  have hstart : (registry.services.map (·.1)).Nodup := by
    rw [hempty]
    exact List.nodup_nil
  rw [List.perm_ext_iff_of_nodup (nodup_addAll hstart registrations) (List.nodup_dedup _)]
  intro space
  rw [mem_keys_addAll_iff hsuits, List.mem_dedup, hempty]
  simp

theorem services_addAll_of_nodup (hempty : registry.services = [])
    (hsuits : ∀ registration ∈ registrations, registry.Suits registration)
    (hnodup : (namesOf registry.naming registrations).Nodup) :
    (registry.addAll registrations).services = registrations.map registry.row := by
  have hfree : ∀ name, registry.contains name = false := by
    intro name
    rw [contains, hempty, List.any_nil]
  have htaken : registry.taken registrations = registrations :=
    taken_eq_self hsuits hnodup fun name _ => hfree name
  rw [services_addAll, htaken, hempty, List.nil_append]

/-! ## Registries with the same entries -/

/-- Registries hold the same entries, whatever their order, and no lookup tells them apart. -/
structure Alike (registry other : Registry σ) : Prop extends registry.Agrees other where
  services : registry.services.Perm other.services
  service? : ∀ space, registry.service? space = other.service? space
  resolve : ∀ space method, registry.resolve space method = other.resolve space method

theorem service?_eq_some_iff (h : (registry.services.map (·.1)).Nodup) {space : String}
    {entry : Entry σ} :
    registry.service? space = some entry ↔ (space, entry) ∈ registry.services := by
  constructor
  · exact mem_of_service?
  · intro hmem
    rw [service?, find?_of_mem_nodup h hmem]
    rfl

theorem alike_of_perm (hagrees : registry.Agrees other)
    (hnodup : (registry.services.map (·.1)).Nodup)
    (hperm : registry.services.Perm other.services) : registry.Alike other := by
  have hnodup' : (other.services.map (·.1)).Nodup := (hperm.map _).nodup_iff.1 hnodup
  have hservice : ∀ space, registry.service? space = other.service? space := by
    intro space
    apply Option.ext
    intro entry
    rw [service?_eq_some_iff hnodup, service?_eq_some_iff hnodup', hperm.mem_iff]
  refine ⟨hagrees, hperm, hservice, fun space method => ?_⟩
  rw [resolve, resolve, hservice]

theorem pairwise_namespaces (registry : Registry σ) :
    registry.namespaces.Pairwise fun a b => decide (a ≤ b) = true := by
  apply List.pairwise_mergeSort
  · intro a b c hab hbc
    rw [decide_eq_true_eq] at hab hbc ⊢
    exact String.le_trans hab hbc
  · intro a b
    simpa using String.le_total a b

theorem namespaces_eq_of_perm
    (h : (registry.services.map (·.1)).Perm (other.services.map (·.1))) :
    registry.namespaces = other.namespaces := by
  have hleft : registry.namespaces.Perm (registry.services.map (·.1)) := List.mergeSort_perm _ _
  have hright : other.namespaces.Perm (other.services.map (·.1)) := List.mergeSort_perm _ _
  apply List.Perm.eq_of_pairwise _ registry.pairwise_namespaces other.pairwise_namespaces
    ((hleft.trans h).trans hright.symm)
  intro a b _ _ hab hba
  rw [decide_eq_true_eq] at hab hba
  exact String.le_antisymm hab hba

/-! ## Any order -/

/-- Registrations that a registry without entries takes in unless their names collide leave the same
namespaces in any order, and as many of them are refused as there are more of them than names. If no
names collide, the registries that different orders leave cannot be told apart. -/
theorem additions_in_any_order {naming : Naming} {excludes : List String}
    {registrations others : List (Registration σ)} (hperm : registrations.Perm others)
    (hsuits : ∀ registration ∈ registrations,
      ({ naming, globalExcludes := excludes } : Registry σ).Suits registration) :
    let blank : Registry σ := { naming, globalExcludes := excludes }
    let names := namesOf naming registrations
    (blank.addAll others).namespaces = (blank.addAll registrations).namespaces ∧
    (∀ space, space ∈ (blank.addAll others).namespaces ↔ space ∈ names) ∧
    (blank.verdicts others).countP isDuplicate + names.dedup.length = registrations.length ∧
    (names.Nodup → (blank.addAll others).Alike (blank.addAll registrations)) := by
  intro blank names
  have hothers : ∀ registration ∈ others, blank.Suits registration :=
    fun registration hmem => hsuits registration (hperm.mem_iff.2 hmem)
  have hnames : names.Perm (namesOf naming others) := hperm.map _
  have hkeys : ((blank.addAll registrations).services.map (·.1)).Perm names.dedup :=
    keys_addAll_perm rfl hsuits
  have hkeysOthers : ((blank.addAll others).services.map (·.1)).Perm names.dedup :=
    (keys_addAll_perm rfl hothers).trans hnames.dedup.symm
  refine ⟨namespaces_eq_of_perm (hkeysOthers.trans hkeys.symm), fun space => ?_, ?_, ?_⟩
  · rw [namespaces, List.mem_mergeSort, hkeysOthers.mem_iff, List.mem_dedup]
  · have hlength : (blank.taken others).length = names.dedup.length := by
      rw [← hkeysOthers.length_eq, services_addAll]
      simp [blank]
    calc (blank.verdicts others).countP isDuplicate + names.dedup.length
        = (blank.verdicts others).countP isDuplicate + (blank.taken others).length := by
          rw [hlength]
      _ = others.length := countP_verdicts_add_length_taken hothers
      _ = registrations.length := hperm.length_eq.symm
  · intro hnodup
    have hagrees : (blank.addAll others).Agrees (blank.addAll registrations) := by
      rw [addAll_eq, addAll_eq]
      exact ⟨rfl, rfl⟩
    apply alike_of_perm hagrees (hkeysOthers.nodup_iff.2 (List.nodup_dedup names))
    rw [services_addAll_of_nodup rfl hsuits hnodup,
      services_addAll_of_nodup rfl hothers (hnames.nodup_iff.1 hnodup)]
    exact hperm.symm.map _

def pouring (name : String) : Registration Unit where
  name := name
  typeName := "Pot"
  plans := [.ofHandler "pour" (.pure [] .nothing fun _ => ())]

theorem pouring_in_any_order :
    let blank : Registry Unit := { naming := .snake, globalExcludes := ["stir"] }
    (blank.verdicts [pouring "cup", pouring "tea_pot", pouring "TeaPot"]).countP isDuplicate = 1 ∧
      (blank.addAll [pouring "cup", pouring "TeaPot"]).Alike
        (blank.addAll [pouring "TeaPot", pouring "cup"]) := by
  intro blank
  have hcup : blank.Suits (pouring "cup") := ⟨by decide +kernel, by decide +kernel⟩
  have hcamel : blank.Suits (pouring "TeaPot") := ⟨by decide +kernel, by decide +kernel⟩
  have hsnake : blank.Suits (pouring "tea_pot") := ⟨by decide +kernel, by decide +kernel⟩
  have hreverse : [pouring "TeaPot", pouring "tea_pot", pouring "cup"].Perm
      [pouring "cup", pouring "tea_pot", pouring "TeaPot"] :=
    (List.reverse_perm _).symm
  have hswap : [pouring "TeaPot", pouring "cup"].Perm [pouring "cup", pouring "TeaPot"] :=
    List.Perm.swap _ _ _
  obtain ⟨-, -, hcount, -⟩ := additions_in_any_order hreverse
    (List.forall_mem_cons.2 ⟨hcamel, List.forall_mem_cons.2 ⟨hsnake,
      List.forall_mem_singleton.2 hcup⟩⟩)
  obtain ⟨-, -, -, halike⟩ := additions_in_any_order hswap
    (List.forall_mem_cons.2 ⟨hcamel, List.forall_mem_singleton.2 hcup⟩)
  have hnames : (namesOf .snake [pouring "TeaPot", pouring "tea_pot", pouring "cup"]).dedup.length =
      2 := by
    decide +kernel
  refine ⟨?_, halike (by decide +kernel)⟩
  rw [hnames] at hcount
  exact Nat.add_right_cancel hcount

end Registry

end Switchboard
