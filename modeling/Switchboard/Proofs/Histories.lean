import Mathlib.Tactic
import Switchboard.Proofs.Registries

/-!
# Histories of registries

What is done to a registry, one operation after the other. An entry stays as it is once it is there,
and it keeps the rules that were in force when it was added.
-/

namespace Switchboard

inductive Operation (σ : Type)
  | add (registration : Registration σ)
  | exclude (names : List String)

namespace Registry

/-- The registry after an operation. One that fails changes nothing. -/
def operate (registry : Registry σ) : Operation σ → Registry σ
  | .add registration =>
    match registry.add registration with
    | .ok (_, after) => after
    | .error _ => registry
  | .exclude names => registry.setGlobalExcludes names

def replay (naming : Naming) (history : List (Operation σ)) : Registry σ :=
  history.foldl operate { naming }

/-! ## One operation -/

theorem operate_add_of_accepts {registry : Registry σ} {registration : Registration σ}
    (h : registry.Accepts registration) :
    registry.operate (.add registration) = registry.grow registration := by
  rw [operate, add_of_accepts h]

theorem operate_add_of_not_accepts {registry : Registry σ} {registration : Registration σ}
    (h : ¬registry.Accepts registration) :
    registry.operate (.add registration) = registry := by
  rcases add_of_not_accepts h with ⟨error, herror⟩ | hsame
  · rw [operate, herror]
  · rw [operate, hsame]

/-- All that an operation can do: put the entry of a registration that is accepted at the end of the
registry, leave it as it is, or change the names that it hides. -/
theorem operate_cases (registry : Registry σ) (operation : Operation σ) :
    (∃ registration, operation = .add registration ∧ registry.Accepts registration ∧
        registry.operate operation = registry.grow registration) ∨
      registry.operate operation = registry ∨
      ∃ names, operation = .exclude names ∧
        registry.operate operation = registry.setGlobalExcludes names := by
  cases operation with
  | add registration =>
    by_cases haccepts : registry.Accepts registration
    · exact .inl ⟨registration, rfl, haccepts, operate_add_of_accepts haccepts⟩
    · exact .inr (.inl (operate_add_of_not_accepts haccepts))
  | exclude names => exact .inr (.inr ⟨names, rfl, rfl⟩)

@[simp] theorem operate_naming (registry : Registry σ) (operation : Operation σ) :
    (registry.operate operation).naming = registry.naming := by
  rcases registry.operate_cases operation with ⟨_, -, -, h⟩ | h | ⟨_, -, h⟩ <;> rw [h] <;> rfl

theorem services_isPrefix_operate (registry : Registry σ) (operation : Operation σ) :
    registry.services <+: (registry.operate operation).services := by
  rcases registry.operate_cases operation with ⟨_, -, -, h⟩ | h | ⟨_, -, h⟩ <;> rw [h]
  · exact List.prefix_append _ _
  · exact List.prefix_rfl

theorem Reachable.operate {registry : Registry σ} (h : registry.Reachable)
    (operation : Operation σ) : (registry.operate operation).Reachable := by
  rcases registry.operate_cases operation with ⟨registration, rfl, haccepts, heq⟩ | heq |
    ⟨names, rfl, heq⟩ <;> rw [heq]
  · exact h.add (add_of_accepts haccepts)
  · exact h
  · exact h.exclude names

theorem nodup_operate {registry : Registry σ} (h : (registry.services.map (·.1)).Nodup)
    (operation : Operation σ) : ((registry.operate operation).services.map (·.1)).Nodup := by
  rcases registry.operate_cases operation with ⟨registration, -, haccepts, heq⟩ | heq |
    ⟨_, -, heq⟩ <;> rw [heq]
  · exact nodup_keys_snoc _ h haccepts.free
  · exact h
  · exact h

/-! ## Histories -/

theorem services_isPrefix_foldl (registry : Registry σ) (operations : List (Operation σ)) :
    registry.services <+: (operations.foldl operate registry).services := by
  induction operations generalizing registry with
  | nil => exact List.prefix_rfl
  | cons operation operations ih =>
    exact (registry.services_isPrefix_operate operation).trans (ih (registry.operate operation))

theorem replay_append (naming : Naming) (earlier later : List (Operation σ)) :
    replay naming (earlier ++ later) = later.foldl operate (replay naming earlier) :=
  List.foldl_append

theorem replay_snoc (naming : Naming) (earlier : List (Operation σ)) (operation : Operation σ) :
    replay naming (earlier ++ [operation]) = (replay naming earlier).operate operation :=
  replay_append naming earlier [operation]

theorem services_isPrefix_replay (naming : Naming) {earlier history : List (Operation σ)}
    (h : earlier <+: history) :
    (replay naming earlier).services <+: (replay naming history).services := by
  obtain ⟨later, rfl⟩ := h
  rw [replay_append]
  exact services_isPrefix_foldl _ later

@[simp] theorem replay_naming (naming : Naming) (history : List (Operation σ)) :
    (replay naming history).naming = naming := by
  induction history using List.reverseRecOn with
  | nil => rfl
  | append_singleton earlier operation ih => rw [replay_snoc, operate_naming, ih]

theorem reachable_replay (naming : Naming) (history : List (Operation σ)) :
    (replay naming history).Reachable := by
  induction history using List.reverseRecOn with
  | nil => exact .empty naming
  | append_singleton earlier operation ih =>
    rw [replay_snoc]
    exact ih.operate operation

theorem nodup_replay (naming : Naming) (history : List (Operation σ)) :
    ((replay naming history).services.map (·.1)).Nodup := by
  induction history using List.reverseRecOn with
  | nil => exact List.nodup_nil
  | append_singleton earlier operation ih =>
    rw [replay_snoc]
    exact nodup_operate ih operation

theorem service?_replay_of_mem {naming : Naming} {history : List (Operation σ)} {space : String}
    {entry : Entry σ} (h : (space, entry) ∈ (replay naming history).services) :
    (replay naming history).service? space = some entry := by
  rw [service?, find?_of_mem_nodup (nodup_replay naming history) h]
  rfl

/-- The moment of a history at which an entry is added. -/
structure Origin (naming : Naming) (history : List (Operation σ)) (entry : Entry σ)
    (earlier : List (Operation σ)) (registration : Registration σ) : Prop where
  happens : earlier ++ [.add registration] <+: history
  accepts : (replay naming earlier).Accepts registration
  entry_eq : entry = (replay naming earlier).entryOf registration

namespace Origin

variable {naming : Naming} {history earlier : List (Operation σ)} {entry : Entry σ}
  {registration : Registration σ}

theorem weaken {longer : List (Operation σ)} (h : Origin naming history entry earlier registration)
    (hlonger : history <+: longer) : Origin naming longer entry earlier registration :=
  { h with happens := h.happens.trans hlonger }

theorem name_eq (h : Origin naming history entry earlier registration) :
    entry.name = naming.fold registration.name := by
  rw [h.entry_eq, entryOf, replay_naming]

theorem services_eq (h : Origin naming history entry earlier registration) :
    (replay naming (earlier ++ [.add registration])).services =
      (replay naming earlier).services ++ [(entry.name, entry)] := by
  rw [replay_snoc, operate_add_of_accepts h.accepts, h.entry_eq]
  rfl

theorem methods_eq (h : Origin naming history entry earlier registration) :
    entry.methods =
      .ofPlans naming ((replay naming earlier).skippedNames registration) registration.plans := by
  rw [h.entry_eq, entryOf, exposed, replay_naming]

theorem mem (h : Origin naming history entry earlier registration) :
    (entry.name, entry) ∈ (replay naming history).services := by
  apply (services_isPrefix_replay naming h.happens).subset
  rw [h.services_eq]
  simp

end Origin

theorem exists_origin (naming : Naming) (history : List (Operation σ)) :
    ∀ space entry, (space, entry) ∈ (replay naming history).services →
      entry.name = space ∧
        ∃ earlier registration, Origin naming history entry earlier registration := by
  induction history using List.reverseRecOn with
  | nil => intro _ _ hmem; cases hmem
  | append_singleton earlier operation ih =>
    intro space entry hmem
    rw [replay_snoc] at hmem
    have hold (h : (space, entry) ∈ (replay naming earlier).services) :
        entry.name = space ∧ ∃ before registration,
          Origin naming (earlier ++ [operation]) entry before registration := by
      obtain ⟨hname, before, registration, horigin⟩ := ih space entry h
      exact ⟨hname, before, registration, horigin.weaken (List.prefix_append _ _)⟩
    rcases (replay naming earlier).operate_cases operation with
      ⟨registration, rfl, haccepts, heq⟩ | heq | ⟨_, -, heq⟩ <;> rw [heq] at hmem
    · rcases List.mem_append.1 hmem with hmem | hmem
      · exact hold hmem
      · cases List.mem_singleton.1 hmem
        exact ⟨rfl, earlier, registration, List.prefix_rfl, haccepts, rfl⟩
    · exact hold hmem
    · exact hold hmem

end Registry

/-- An entry keeps the rules for its registration, under names that are hidden from all services. -/
structure Entry.Obeys (entry : Entry σ) (naming : Naming) (registration : Registration σ)
    (globalExcludes : List String) : Prop where
  name : entry.name = naming.fold registration.name
  nonempty : entry.name ≠ ""
  whole : separator ∉ entry.name.toList
  exposes : entry.methods.entries ≠ []
  methods : ∀ name plan, (name, plan) ∈ entry.methods.entries →
    plan ∈ registration.plans ∧ name = naming.fold plan.name
  hides : ∀ name plan, (name, plan) ∈ entry.methods.entries →
    ∀ hidden ∈ reservedNames ++ registration.excluded ++ globalExcludes,
      name ≠ naming.fold hidden

theorem Registry.Origin.obeys {naming : Naming} {history earlier : List (Operation σ)}
    {entry : Entry σ} {registration : Registration σ}
    (h : Registry.Origin naming history entry earlier registration) :
    entry.Obeys naming registration (replay naming earlier).globalExcludes := by
  have hspace : isNamespace entry.name := by
    rw [h.entry_eq]
    exact h.accepts.isNamespace
  have hmethod : ∀ name plan, (name, plan) ∈ entry.methods.entries →
      plan ∈ registration.plans ∧ name = naming.fold plan.name ∧
        name ∉ (replay naming earlier).skippedNames registration := by
    intro name plan hmem
    rw [h.methods_eq] at hmem
    exact MethodTable.mem_of_get?_ofPlans (MethodTable.get?_ofPlans_of_mem hmem)
  refine ⟨h.name_eq, ?_, separator_notMem_of_isNamespace hspace, ?_, ?_, ?_⟩
  · rintro hempty
    simp [hempty, isNamespace] at hspace
  · have hexposes := h.accepts.exposes
    rw [h.entry_eq]
    simpa [MethodTable.isEmpty, entryOf] using hexposes
  · intro name plan hmem
    exact ⟨(hmethod name plan hmem).1, (hmethod name plan hmem).2.1⟩
  · rintro name plan hmem hidden hhidden rfl
    refine (hmethod _ plan hmem).2.2 ?_
    rw [skippedNames, replay_naming]
    exact List.mem_map_of_mem hhidden

end Switchboard
