import Mathlib.Tactic
import Switchboard.Proofs.Actions
import Switchboard.Proofs.Histories
import Switchboard.Server.Deployment

/-!
# Enrolments

Hosts register services, definitions and apps, and change the names that are hidden. Whatever comes
of an enrolment, with errors and panics of hooks, its effect on the server is that of a history of
operations on the registry.
-/

namespace Switchboard

def Server.perform (server : Server σ) (operations : List (Operation σ)) : Server σ :=
  { server with registry := operations.foldl Registry.operate server.registry }

theorem Server.perform_append (server : Server σ) (first second : List (Operation σ)) :
    server.perform (first ++ second) = (server.perform first).perform second := by
  simp [perform]

/-- What a host asks of the registry of a deployment. -/
inductive Enrolment (σ : Type)
  | ofService (service : Service σ) (explicit : Option String)
  | ofDefinition (definition : Definition σ)
  | ofApp (app : App σ)
  | exclude (names : List String)
  | insisted (enrolment : Enrolment σ)

namespace Deployment

def fresh (options : Options) (world : World σ) : Deployment σ where
  server := .ofOptions options
  world := world

/-! ## Single tasks -/

theorem add_apply (registration : Registration σ) (logged : Logged (Deployment σ)) :
    add registration logged =
      (.returned ((logged.state.server.registry.add registration).map fun _ => ()),
        ⟨{ logged.state with server := logged.state.server.perform [.add registration] },
          logged.log ++ logged.state.server.registry.events registration⟩) := by
  have hcurrent : current logged = (.returned logged.state.server, logged) := rfl
  have hnote : note (logged.state.server.registry.events registration) logged =
      (.returned (), { logged with
        log := logged.log ++ logged.state.server.registry.events registration }) := rfl
  rw [add, Action.bind_of_returned hcurrent, Action.bind_of_returned hnote]
  simp only [Server.perform, List.foldl_cons, List.foldl_nil, Registry.operate]
  cases logged.state.server.registry.add registration <;> rfl

theorem inWorld_unlogged_apply {action : Action (World σ) α} {logged : Logged (Deployment σ)}
    {ending : Ending α} {after : World σ} (h : action logged.state.world = (ending, after)) :
    inWorld (Action.unlogged action) logged =
      (ending, ⟨{ logged.state with world := after }, logged.log⟩) := by
  simp only [inWorld, Action.unlogged, h]

def serviceOperations (service : Service σ) (explicit : Option String) (world : World σ) :
    List (Operation σ) :=
  match service.registration explicit world with
  | (.returned registration, _) => [.add registration]
  | (.panicked _, _) => []

theorem register_server (service : Service σ) (explicit : Option String)
    (logged : Logged (Deployment σ)) :
    (register service explicit logged).2.state.server =
      logged.state.server.perform (serviceOperations service explicit logged.state.world) := by
  rcases hhooks : service.registration explicit logged.state.world with
    ⟨registration | payload, world⟩
  · rw [register, Action.bind_of_returned (inWorld_unlogged_apply hhooks), add_apply]
    simp only [serviceOperations, hhooks]
  · rw [register, Action.bind_of_panicked (inWorld_unlogged_apply hhooks)]
    simp only [serviceOperations, hhooks]
    rfl

/-- The operations that the registration of services comes to, up to the first that fails. -/
def allOperations : List (Service σ × Option String) → Logged (Deployment σ) → List (Operation σ)
  | [], _ => []
  | (service, explicit) :: services, logged =>
    serviceOperations service explicit logged.state.world ++
      match register service explicit logged with
      | (.returned (.ok ()), after) => allOperations services after
      | (.returned (.error _), _) | (.panicked _, _) => []

theorem registerAll_server (services : List (Service σ × Option String))
    (logged : Logged (Deployment σ)) :
    (registerAll services logged).2.state.server =
      logged.state.server.perform (allOperations services logged) := by
  induction services generalizing logged with
  | nil => rfl
  | cons head services ih =>
    obtain ⟨service, explicit⟩ := head
    have hserver := register_server service explicit logged
    rcases hregister : register service explicit logged with ⟨(error | _) | payload, after⟩
    all_goals rw [hregister] at hserver
    · rw [registerAll, Action.bind_of_returned hregister]
      simp only [allOperations, hregister, List.append_nil]
      exact hserver
    · rw [registerAll, Action.bind_of_returned hregister]
      simp only [allOperations, hregister, Server.perform_append, ← hserver]
      exact ih after
    · rw [registerAll, Action.bind_of_panicked hregister]
      simpa only [allOperations, hregister, List.append_nil] using hserver

theorem setGlobalExcludes_server (names : List String) (logged : Logged (Deployment σ)) :
    (setGlobalExcludes names logged).2.state.server =
      logged.state.server.perform [.exclude names] :=
  rfl

def excluding (app : App σ) (logged : Logged (Deployment σ)) : Logged (Deployment σ) :=
  if app.excludedMethods.isEmpty then logged else (setGlobalExcludes app.excludedMethods logged).2

def excludeOperations (app : App σ) : List (Operation σ) :=
  if app.excludedMethods.isEmpty then [] else [.exclude app.excludedMethods]

theorem excluding_server (app : App σ) (logged : Logged (Deployment σ)) :
    (excluding app logged).state.server = logged.state.server.perform (excludeOperations app) := by
  cases hempty : app.excludedMethods.isEmpty <;> simp only [excluding, excludeOperations, hempty]
  · exact setGlobalExcludes_server _ _
  · rfl

theorem registerApp_apply (app : App σ) (logged : Logged (Deployment σ)) :
    registerApp app logged = registerAll app.services (excluding app logged) := by
  cases hempty : app.excludedMethods.isEmpty <;> simp only [registerApp, excluding, hempty] <;> rfl

theorem insist_server (task : Task σ (Except RegistryError Unit)) (logged : Logged (Deployment σ)) :
    (insist task logged).2.state.server = (task logged).2.state.server := by
  rcases htask : task logged with ⟨(error | _) | payload, after⟩
  · rw [insist, Action.bind_of_returned htask]
    rfl
  · rw [insist, Action.bind_of_returned htask]
    rfl
  · rw [insist, Action.bind_of_panicked htask]

end Deployment

namespace Enrolment

open Deployment

/-! ## Enrolments in order -/

def task : Enrolment σ → Task σ (Except RegistryError Unit)
  | .ofService service explicit => register service explicit
  | .ofDefinition definition => registerDefinition definition
  | .ofApp app => registerApp app
  | .exclude names => do
    setGlobalExcludes names
    return .ok ()
  | .insisted enrolment => do
    insist enrolment.task
    return .ok ()

def operations : Enrolment σ → Logged (Deployment σ) → List (Operation σ)
  | .ofService service explicit, logged => serviceOperations service explicit logged.state.world
  | .ofDefinition definition, _ => [.add definition.registration]
  | .ofApp app, logged => excludeOperations app ++ allOperations app.services (excluding app logged)
  | .exclude names, _ => [.exclude names]
  | .insisted enrolment, logged => enrolment.operations logged

theorem task_server (enrolment : Enrolment σ) (logged : Logged (Deployment σ)) :
    (enrolment.task logged).2.state.server =
      logged.state.server.perform (enrolment.operations logged) := by
  induction enrolment with
  | ofService service explicit => exact register_server service explicit logged
  | ofDefinition definition =>
    rw [task, registerDefinition, add_apply, operations]
  | ofApp app =>
    rw [task, operations, registerApp_apply, registerAll_server, excluding_server,
      Server.perform_append]
  | exclude names => rfl
  | insisted enrolment ih =>
    rw [operations, ← ih, ← insist_server enrolment.task logged, task]
    rcases hinsist : insist enrolment.task logged with ⟨_ | payload, after⟩
    · rw [Action.bind_of_returned hinsist]
      rfl
    · rw [Action.bind_of_panicked hinsist]

theorem services_isPrefix_task (enrolment : Enrolment σ) (logged : Logged (Deployment σ)) :
    logged.state.server.registry.services <+:
      (enrolment.task logged).2.state.server.registry.services := by
  rw [task_server]
  exact Registry.services_isPrefix_foldl _ _

def enrolAll : List (Enrolment σ) → Logged (Deployment σ) → Logged (Deployment σ)
  | [], logged => logged
  | enrolment :: enrolments, logged => enrolAll enrolments (enrolment.task logged).2

def history : List (Enrolment σ) → Logged (Deployment σ) → List (Operation σ)
  | [], _ => []
  | enrolment :: enrolments, logged =>
    enrolment.operations logged ++ history enrolments (enrolment.task logged).2

theorem enrolAll_server (enrolments : List (Enrolment σ)) (logged : Logged (Deployment σ)) :
    (enrolAll enrolments logged).state.server =
      logged.state.server.perform (history enrolments logged) := by
  induction enrolments generalizing logged with
  | nil => rfl
  | cons enrolment enrolments ih =>
    rw [enrolAll, ih, task_server, history, Server.perform_append]

theorem enrolAll_fresh_registry (enrolments : List (Enrolment σ)) (options : Options)
    (world : World σ) (log : List Event) :
    (enrolAll enrolments ⟨fresh options world, log⟩).state.server.registry =
      .replay options.naming (history enrolments ⟨fresh options world, log⟩) := by
  rw [enrolAll_server]
  rfl

theorem enrolAll_fresh_options (enrolments : List (Enrolment σ)) (options : Options)
    (world : World σ) (log : List Event) :
    (enrolAll enrolments ⟨fresh options world, log⟩).state.server.options = options := by
  rw [enrolAll_server]
  rfl

/-- Every entry that enrolments leave was added at a moment of their history and keeps the rules of
that moment. No enrolment touches the entries of a deployment, and an addition that adds none
changes nothing. -/
theorem entries_obey_history (enrolments : List (Enrolment σ)) (options : Options)
    (world : World σ) (log : List Event) :
    let operations := history enrolments ⟨fresh options world, log⟩
    let registry := (enrolAll enrolments ⟨fresh options world, log⟩).state.server.registry
    registry = .replay options.naming operations ∧
    (registry.services.map (·.1)).Nodup ∧
    (∀ space entry, (space, entry) ∈ registry.services → entry.name = space ∧
      ∃ earlier registration, earlier ++ [.add registration] <+: operations ∧
        (Registry.replay options.naming (earlier ++ [.add registration])).services =
          (Registry.replay options.naming earlier).services ++ [(space, entry)] ∧
        entry.Obeys options.naming registration
          (Registry.replay options.naming earlier).globalExcludes) ∧
    (∀ (enrolment : Enrolment σ) (logged : Logged (Deployment σ)),
      logged.state.server.registry.services <+:
        (enrolment.task logged).2.state.server.registry.services) ∧
    ∀ (registration : Registration σ) (logged : Logged (Deployment σ)),
      (∀ after, logged.state.server.registry.add registration ≠ .ok (true, after)) →
        (add registration logged).2.state = logged.state := by
  intro operations registry
  have hregistry : registry = .replay options.naming operations :=
    enrolAll_fresh_registry enrolments options world log
  refine ⟨hregistry, ?_, ?_, services_isPrefix_task, ?_⟩
  · rw [hregistry]
    exact Registry.nodup_replay _ _
  · rw [hregistry]
    intro space entry hmem
    obtain ⟨rfl, earlier, registration, horigin⟩ := Registry.exists_origin _ _ space entry hmem
    exact ⟨rfl, earlier, registration, horigin.happens, horigin.services_eq, horigin.obeys⟩
  · intro registration logged hfails
    have hrefused : ¬logged.state.server.registry.Accepts registration := fun haccepts =>
      hfails _ (Registry.add_of_accepts haccepts)
    rw [add_apply, Server.perform, List.foldl_cons, List.foldl_nil,
      Registry.operate_add_of_not_accepts hrefused]

end Enrolment

end Switchboard
