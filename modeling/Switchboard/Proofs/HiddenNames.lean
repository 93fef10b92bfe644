import Mathlib.Tactic
import Switchboard.Proofs.Effects

/-!
# Hidden names

A name that an app hides is looked for in the list of names in force when a service is added, and
that is the last list that was brought. The name stays hidden from every service that is added after
the app just as long as those lists name it again.
-/

namespace Switchboard

/-- A registration has a method of a folded name, and does not hide it itself. -/
structure Registration.Offers (naming : Naming) (registration : Registration σ)
    (folded : String) : Prop where
  declares : ∃ plan ∈ registration.plans, naming.fold plan.name = folded
  keeps : ¬naming.Hides (reservedNames ++ registration.excluded) folded

namespace Registry

theorem get?_entryOf_eq_none_iff {registry : Registry σ} {registration : Registration σ}
    {folded : String} :
    (registry.entryOf registration).methods.get? folded = none ↔
      (registration.Offers registry.naming folded →
        registry.naming.Hides registry.globalExcludes folded) := by
  have hskipped : folded ∈ registry.skippedNames registration ↔
      registry.naming.Hides (reservedNames ++ registration.excluded) folded ∨
        registry.naming.Hides registry.globalExcludes folded := by
    unfold skippedNames
    rw [List.map_append, List.mem_append, Naming.mem_map_fold_iff, Naming.mem_map_fold_iff]
  have hplans : registration.plans.find? (registry.naming.fold ·.name == folded) = none ↔
      ¬∃ plan ∈ registration.plans, registry.naming.fold plan.name = folded := by
    simp
  rw [entryOf, exposed, MethodTable.get?_ofPlans]
  by_cases hfolded : folded ∈ registry.skippedNames registration
  · rw [if_pos hfolded]
    refine ⟨fun _ hoffers => ?_, fun _ => rfl⟩
    exact (hskipped.1 hfolded).resolve_left hoffers.keeps
  · rw [if_neg hfolded, hplans]
    rw [hskipped, not_or] at hfolded
    constructor
    · exact fun hnone hoffers => absurd hoffers.declares hnone
    · exact fun h hdeclares => hfolded.2 (h ⟨hdeclares, hfolded.1⟩)

/-- No entry that was not there before has a method of a folded name. -/
def HidesFromNew (before after : Registry σ) (folded : String) : Prop :=
  ∀ space entry, (space, entry) ∈ after.services → (space, entry) ∉ before.services →
    entry.methods.get? folded = none

end Registry

namespace Enrolment

open Deployment

/-! ## Entries and the enrolments they come from -/

def registryAt (logged : Logged (Deployment σ)) (passed : List (Enrolment σ))
    (enrolment : Enrolment σ) : Registry σ :=
  (enrolAll passed logged).state.server.registry.hiding enrolment.brings

/-- A registration is taken in at an enrolment, after others. -/
structure Enters (enrolments : List (Enrolment σ)) (logged : Logged (Deployment σ))
    (passed : List (Enrolment σ)) (enrolment : Enrolment σ) (registration : Registration σ) :
    Prop where
  happens : passed ++ [enrolment] <+: enrolments
  taken : registration ∈ (registryAt logged passed enrolment).taken
    (enrolment.registrations (enrolAll passed logged))

theorem services_task (enrolment : Enrolment σ) (logged : Logged (Deployment σ)) :
    (enrolment.task logged).2.state.server.registry.services =
      logged.state.server.registry.services ++
        ((registryAt logged [] enrolment).taken (enrolment.registrations logged)).map
          (registryAt logged [] enrolment).row := by
  rw [task_registry, Registry.services_addAll]
  rfl

theorem naming_enrolAll (enrolments : List (Enrolment σ)) (logged : Logged (Deployment σ)) :
    (enrolAll enrolments logged).state.server.registry.naming =
      logged.state.server.registry.naming := by
  induction enrolments generalizing logged with
  | nil => rfl
  | cons enrolment enrolments ih =>
    rw [enrolAll, ih, task_registry, (Registry.addAll_agrees _ _).naming]
    rfl

theorem services_isPrefix_enrolAll (enrolments : List (Enrolment σ))
    (logged : Logged (Deployment σ)) :
    logged.state.server.registry.services <+:
      (enrolAll enrolments logged).state.server.registry.services := by
  rw [enrolAll_server]
  exact Registry.services_isPrefix_foldl _ _

theorem mem_services_enrolAll_iff {enrolments : List (Enrolment σ)}
    {logged : Logged (Deployment σ)} {row : String × Entry σ} :
    row ∈ (enrolAll enrolments logged).state.server.registry.services ↔
      row ∈ logged.state.server.registry.services ∨
        ∃ passed enrolment registration, Enters enrolments logged passed enrolment registration ∧
          row = (registryAt logged passed enrolment).row registration := by
  induction enrolments generalizing logged with
  | nil =>
    refine ⟨.inl, ?_⟩
    rintro (hmem | ⟨passed, enrolment, -, ⟨hfront, -⟩, -⟩)
    · exact hmem
    · simp at hfront
  | cons first enrolments ih =>
    rw [enrolAll, ih, services_task, List.mem_append, or_assoc]
    apply or_congr_right
    constructor
    · rintro (hfirst | ⟨passed, enrolment, registration, ⟨hfront, htaken⟩, hrow⟩)
      · obtain ⟨registration, htaken, rfl⟩ := List.mem_map.1 hfirst
        exact ⟨[], first, registration, ⟨⟨enrolments, rfl⟩, htaken⟩, rfl⟩
      · exact ⟨first :: passed, enrolment, registration,
          ⟨(List.prefix_cons_inj first).2 hfront, htaken⟩, hrow⟩
    · rintro ⟨passed, enrolment, registration, ⟨hfront, htaken⟩, rfl⟩
      cases passed with
      | nil =>
        obtain rfl : enrolment = first := (List.cons_prefix_cons.1 hfront).1
        exact .inl (List.mem_map_of_mem htaken)
      | cons earlier passed =>
        obtain ⟨rfl, hrest⟩ := List.cons_prefix_cons.1 hfront
        exact .inr ⟨passed, enrolment, registration, ⟨hrest, htaken⟩, rfl⟩

theorem Enters.row_notMem {enrolments passed : List (Enrolment σ)} {enrolment : Enrolment σ}
    {logged : Logged (Deployment σ)} {registration : Registration σ}
    (h : Enters enrolments logged passed enrolment registration) :
    (registryAt logged passed enrolment).row registration ∉
      logged.state.server.registry.services := by
  intro hmem
  obtain ⟨-, -, hfree⟩ := Registry.mem_taken h.taken
  have hkept := (services_isPrefix_enrolAll passed logged).subset hmem
  rw [Registry.contains, List.any_eq_false] at hfree
  exact hfree _ hkept (beq_self_eq_true _)

/-- Enrolments hide a name from new entries just if each entry was made without it. -/
theorem hidesFromNew_enrolAll_iff {enrolments : List (Enrolment σ)}
    {logged : Logged (Deployment σ)} {folded : String} :
    logged.state.server.registry.HidesFromNew (enrolAll enrolments logged).state.server.registry
        folded ↔
      ∀ passed enrolment registration, Enters enrolments logged passed enrolment registration →
        ((registryAt logged passed enrolment).entryOf registration).methods.get? folded = none := by
  constructor
  · intro hhides passed enrolment registration henters
    apply hhides _ _ _ henters.row_notMem
    exact mem_services_enrolAll_iff.2 (.inr ⟨passed, enrolment, registration, henters, rfl⟩)
  · intro hentries space entry hmem hnew
    obtain hold | ⟨passed, enrolment, registration, henters, hrow⟩ :=
      mem_services_enrolAll_iff.1 hmem
    · exact absurd hold hnew
    · cases hrow
      exact hentries passed enrolment registration henters

/-! ## The list in force -/

theorem naming_registryAt (logged : Logged (Deployment σ)) (passed : List (Enrolment σ))
    (enrolment : Enrolment σ) :
    (registryAt logged passed enrolment).naming = logged.state.server.registry.naming :=
  naming_enrolAll passed logged

theorem globalExcludes_registryAt (logged : Logged (Deployment σ))
    (passed : List (Enrolment σ)) (enrolment : Enrolment σ) :
    (registryAt logged passed enrolment).globalExcludes =
      (latest? (passed ++ [enrolment])).getD logged.state.server.registry.globalExcludes := by
  have hbefore := globalExcludes_enrolAll passed logged
  rw [latest?_snoc]
  unfold registryAt Registry.hiding Registry.setGlobalExcludes
  cases enrolment.brings with
  | none => exact hbefore
  | some names => rfl

theorem exists_brings_of_latest? {enrolments : List (Enrolment σ)} {names : List String}
    (h : latest? enrolments = some names) :
    ∃ enrolment ∈ enrolments, enrolment.brings = some names :=
  List.mem_filterMap.1 (List.mem_of_getLast? h)

theorem exists_latest?_of_prefix {app : App σ} {name : String} (h : name ∈ app.excludedMethods)
    {passed later : List (Enrolment σ)} {enrolment : Enrolment σ}
    (hfront : passed ++ [enrolment] <+: .ofApp app :: later) :
    ∃ names, latest? (passed ++ [enrolment]) = some names := by
  obtain ⟨first, rest, hsplit⟩ := List.exists_cons_of_ne_nil
    (List.append_ne_nil_of_right_ne_nil passed (List.cons_ne_nil enrolment []))
  rw [hsplit] at hfront ⊢
  obtain ⟨rfl, -⟩ := List.cons_prefix_cons.1 hfront
  rw [latest?_cons, brings, App.brings_of_mem h]
  cases latest? rest with
  | none => exact ⟨_, rfl⟩
  | some names => exact ⟨names, rfl⟩

theorem get?_entryOf_registryAt_eq_none_iff {logged : Logged (Deployment σ)}
    {passed : List (Enrolment σ)} {enrolment : Enrolment σ} {registration : Registration σ}
    {folded : String} {names : List String} (h : latest? (passed ++ [enrolment]) = some names) :
    ((registryAt logged passed enrolment).entryOf registration).methods.get? folded = none ↔
      (registration.Offers logged.state.server.registry.naming folded →
        logged.state.server.registry.naming.Hides names folded) := by
  rw [Registry.get?_entryOf_eq_none_iff, naming_registryAt, globalExcludes_registryAt, h,
    Option.getD_some]

theorem hides_latest? {app : App σ} {name : String} (hname : name ∈ app.excludedMethods)
    {passed later : List (Enrolment σ)} {naming : Naming} {names : List String}
    (hfront : passed <+: .ofApp app :: later)
    (hlater : ∀ enrolment ∈ later, ∀ names, enrolment.brings = some names →
      naming.Hides names (naming.fold name))
    (hlatest : latest? passed = some names) : naming.Hides names (naming.fold name) := by
  obtain ⟨bringer, hbringer, hbrings⟩ := exists_brings_of_latest? hlatest
  rcases List.mem_cons.1 (hfront.subset hbringer) with rfl | hmem
  · rw [brings, App.brings_of_mem hname] at hbrings
    cases hbrings
    exact ⟨name, hname, rfl⟩
  · exact hlater bringer hmem names hbrings

/-- A name that an app hides stays hidden from all services that are added by the app or after it
just if each of them that offers it is added while the list that was brought last names it. It does
if every list that is brought after the app names it again. -/
theorem stays_hidden_iff {app : App σ} {name : String} (hname : name ∈ app.excludedMethods)
    (later : List (Enrolment σ)) (logged : Logged (Deployment σ)) :
    let enrolments := .ofApp app :: later
    let before := logged.state.server.registry
    let after := (enrolAll enrolments logged).state.server.registry
    let folded := before.naming.fold name
    (before.HidesFromNew after folded ↔
      ∀ passed enrolment registration, Enters enrolments logged passed enrolment registration →
        registration.Offers before.naming folded →
          ∃ names, latest? (passed ++ [enrolment]) = some names ∧
            before.naming.Hides names folded) ∧
    ((∀ enrolment ∈ later, ∀ names, enrolment.brings = some names →
        before.naming.Hides names folded) →
      before.HidesFromNew after folded) := by
  intro enrolments before after folded
  constructor
  · apply hidesFromNew_enrolAll_iff.trans
    constructor
    · intro h passed enrolment registration henters hoffers
      obtain ⟨names, hnames⟩ := exists_latest?_of_prefix hname henters.happens
      have hnone := h passed enrolment registration henters
      exact ⟨names, hnames, (get?_entryOf_registryAt_eq_none_iff hnames).1 hnone hoffers⟩
    · intro h passed enrolment registration henters
      obtain ⟨names, hnames⟩ := exists_latest?_of_prefix hname henters.happens
      rw [get?_entryOf_registryAt_eq_none_iff hnames]
      intro hoffers
      obtain ⟨others, hothers, hhides⟩ := h passed enrolment registration henters hoffers
      cases hnames.symm.trans hothers
      exact hhides
  · intro hlater
    apply hidesFromNew_enrolAll_iff.2
    intro passed enrolment registration henters
    obtain ⟨names, hnames⟩ := exists_latest?_of_prefix hname henters.happens
    rw [get?_entryOf_registryAt_eq_none_iff hnames]
    exact fun _ => hides_latest? hname henters.happens hlater hnames

def teapot : Definition Unit where
  name := "tea"
  plans :=
    [.ofHandler "pour" (.pure [] .nothing fun _ => ()),
      .ofHandler "stir" (.pure [] .nothing fun _ => ())]

def hushing (names : List String) : App Unit where
  excludedMethods := names

/-- What the first app hides is seen again after a second one. -/
theorem later_app_may_unhide :
    ¬∀ (app : App Unit) (name : String) (later : List (Enrolment Unit))
      (logged : Logged (Deployment Unit)), name ∈ app.excludedMethods →
        logged.state.server.registry.HidesFromNew
          (enrolAll (.ofApp app :: later) logged).state.server.registry
          (logged.state.server.registry.naming.fold name) := by
  intro hhides
  have hfinds :
      ((((enrolAll [.ofApp (hushing ["pour"]), .ofApp (hushing ["stir"]), .ofDefinition teapot]
        blank).state.server.registry.service? "tea").bind
          (·.methods.get? (blank.state.server.registry.naming.fold "pour"))).isSome) = true := by
    decide +kernel
  obtain ⟨plan, hplan⟩ := Option.isSome_iff_exists.1 hfinds
  obtain ⟨entry, hentry, hmethod⟩ := Option.bind_eq_some_iff.1 hplan
  have hnone := hhides (hushing ["pour"]) "pour" [.ofApp (hushing ["stir"]), .ofDefinition teapot]
    blank List.mem_cons_self _ entry (Registry.mem_of_service? hentry) List.not_mem_nil
  rw [hnone] at hmethod
  cases hmethod

theorem hushing_hides_pour :
    let after := (enrolAll [.ofApp (hushing ["Pour"]), .ofApp (hushing []), .ofDefinition teapot]
      blank).state.server.registry
    after.contains "tea" = true ∧ blank.state.server.registry.HidesFromNew after "pour" := by
  intro after
  have hfold : blank.state.server.registry.naming.fold "Pour" = "pour" := by decide +kernel
  have hname : "Pour" ∈ (hushing ["Pour"]).excludedMethods := List.mem_cons_self
  have hhides := (stays_hidden_iff hname [.ofApp (hushing []), .ofDefinition teapot] blank).2
  rw [hfold] at hhides
  refine ⟨by decide +kernel, hhides ?_⟩
  intro enrolment hmem names hbrings
  rcases List.mem_cons.1 hmem with rfl | hmem
  · cases hbrings
  · cases List.mem_singleton.1 hmem
    cases hbrings

end Enrolment

end Switchboard
