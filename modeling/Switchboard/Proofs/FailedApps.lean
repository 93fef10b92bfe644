import Mathlib.Tactic
import Switchboard.Proofs.Effects

/-!
# Apps that fail

The registration of an app stops at the first of its services that the registry refuses, and nothing
is taken back: the names that the app brings stay hidden, and the services ahead of that one stay
where they are.
-/

namespace Switchboard

namespace Deployment

/-- The registry is told of services, one after the other, up to one that it refuses. What it is
told of those ahead is a list of registrations. -/
inductive Stops : List (Service σ × Option String) → Deployment σ → List (Registration σ) →
    RegistryError → Deployment σ → Prop
  | refused {service : Service σ} {explicit : Option String}
      {behind : List (Service σ × Option String)} {deployment : Deployment σ}
      {registration : Registration σ} {world : World σ} {error : RegistryError}
      (hooks : service.registration explicit deployment.world = (.returned registration, world))
      (refuses : deployment.server.registry.add registration = .error error) :
      Stops ((service, explicit) :: behind) deployment [] error { deployment with world }
  | passed {service : Service σ} {explicit : Option String}
      {services : List (Service σ × Option String)} {deployment after : Deployment σ}
      {registration : Registration σ} {registrations : List (Registration σ)} {world : World σ}
      {added : Bool} {registry : Registry σ} {error : RegistryError}
      (hooks : service.registration explicit deployment.world = (.returned registration, world))
      (adds : deployment.server.registry.add registration = .ok (added, registry))
      (stops : Stops services ⟨{ deployment.server with registry }, world⟩ registrations error
        after) :
      Stops ((service, explicit) :: services) deployment (registration :: registrations) error after

theorem register_returned {service : Service σ} {explicit : Option String}
    {logged after : Logged (Deployment σ)} {result : Except RegistryError Unit}
    (h : register service explicit logged = (.returned result, after)) :
    ∃ registration world,
      service.registration explicit logged.state.world = (.returned registration, world) ∧
      result = (logged.state.server.registry.add registration).map (fun _ => ()) ∧
      after.state = ⟨logged.state.server.perform [.add registration], world⟩ := by
  rcases hhooks : service.registration explicit logged.state.world with
    ⟨registration | payload, world⟩
  · rw [register, Action.bind_of_returned (inWorld_unlogged_apply hhooks), add_apply] at h
    cases h
    exact ⟨registration, world, rfl, rfl, rfl⟩
  · rw [register, Action.bind_of_panicked (inWorld_unlogged_apply hhooks)] at h
    cases h

theorem registerAll_stops {services : List (Service σ × Option String)}
    {logged after : Logged (Deployment σ)} {error : RegistryError}
    (h : registerAll services logged = (.returned (.error error), after)) :
    ∃ registrations, Stops services logged.state registrations error after.state := by
  induction services generalizing logged with
  | nil => cases h
  | cons head services ih =>
    obtain ⟨service, explicit⟩ := head
    rcases hregister : register service explicit logged with ⟨result | payload, between⟩
    · obtain ⟨registration, world, hhooks, hresult, hstate⟩ := register_returned hregister
      rw [registerAll, Action.bind_of_returned hregister] at h
      cases hadd : logged.state.server.registry.add registration with
      | error refusal =>
        rw [hadd] at hresult
        cases hresult
        cases h
        have hkept : logged.state.server.perform [.add registration] = logged.state.server := by
          simp only [Server.perform, List.foldl_cons, List.foldl_nil, Registry.operate, hadd]
        rw [hstate, hkept]
        exact ⟨[], .refused hhooks hadd⟩
      | ok outcome =>
        obtain ⟨added, registry⟩ := outcome
        rw [hadd] at hresult
        cases hresult
        obtain ⟨registrations, hstops⟩ := ih h
        have hmoved : logged.state.server.perform [.add registration] =
            { logged.state.server with registry } := by
          simp only [Server.perform, List.foldl_cons, List.foldl_nil, Registry.operate, hadd]
        rw [hstate, hmoved] at hstops
        exact ⟨registration :: registrations, .passed hhooks hadd hstops⟩
    · rw [registerAll, Action.bind_of_panicked hregister] at h
      cases h

theorem Stops.server_eq {services : List (Service σ × Option String)}
    {deployment after : Deployment σ} {registrations : List (Registration σ)}
    {error : RegistryError} (h : Stops services deployment registrations error after) :
    after.server =
      { deployment.server with registry := deployment.server.registry.addAll registrations } := by
  induction h with
  | refused => rfl
  | @passed _ _ _ deployment _ registration registrations _ _ registry _ _ adds _ ih =>
    have hfirst : deployment.server.registry.operate (.add registration) = registry := by
      rw [Registry.operate, adds]
    rw [ih, Registry.addAll_cons, hfirst]

theorem addAll_hiding_eq_self_iff (registry : Registry σ) (brought : Option (List String))
    (registrations : List (Registration σ)) :
    (registry.hiding brought).addAll registrations = registry ↔
      (registry.hiding brought).taken registrations = [] ∧
        ∀ names ∈ brought, names = registry.globalExcludes := by
  have hlist : brought.getD registry.globalExcludes = registry.globalExcludes ↔
      ∀ names ∈ brought, names = registry.globalExcludes := by
    cases brought <;> simp
  have htaken : (registry.hiding brought).services =
      (registry.hiding brought).services ++
        ((registry.hiding brought).taken registrations).map (registry.hiding brought).row ↔
      (registry.hiding brought).taken registrations = [] := by
    rw [List.self_eq_append_right, List.map_eq_nil_iff]
  rw [← hlist, ← htaken, Registry.addAll_eq]
  constructor
  · intro h
    exact ⟨(congrArg Registry.services h).symm, congrArg Registry.globalExcludes h⟩
  · rintro ⟨hservices, hexcludes⟩
    rw [← hservices]
    unfold Registry.hiding Registry.setGlobalExcludes
    rw [hexcludes]

/-- If the registration of an app fails, the app's names, if it brings any, stay hidden, and what
the registry took in of the services ahead of the refused one stays registered, behind all that was
there. Nothing else of the server changes, so its registry is as it was just if nothing was taken in
and the names are those that were hidden before. -/
theorem failed_app_keeps_what_it_added {app : App σ} {logged after : Logged (Deployment σ)}
    {error : RegistryError} (h : registerApp app logged = (.returned (.error error), after)) :
    let before := logged.state.server.registry
    let hidden := before.hiding app.brings
    ∃ registrations,
      Stops app.services (excluding app logged).state registrations error after.state ∧
      after.state.server =
        { logged.state.server with
          registry :=
            { hidden with
              services := before.services ++ (hidden.taken registrations).map hidden.row } } ∧
      (after.state.server.registry = before ↔
        hidden.taken registrations = [] ∧ ∀ names ∈ app.brings, names = before.globalExcludes) := by
  intro before hidden
  rw [registerApp_apply] at h
  obtain ⟨registrations, hstops⟩ := registerAll_stops h
  have hserver : after.state.server =
      { logged.state.server with registry := hidden.addAll registrations } := by
    rw [hstops.server_eq, excluding_state_server]
  refine ⟨registrations, hstops, ?_, ?_⟩
  · rw [hserver, Registry.addAll_eq]
    rfl
  · rw [hserver]
    exact addAll_hiding_eq_self_iff before app.brings registrations

def pot : Service Unit where
  Instance := Unit
  typeName := "Pot"
  fresh := ()
  methods := fun _ => Action.pure [.ofHandler "pour" (.pure [] .nothing fun _ => ())]

def twinPots : App Unit where
  services := [(pot, some "tea"), (pot, some "tea")]

theorem exists_registerApp_twinPots :
    ∃ after,
      registerApp twinPots blank = (.returned (.error (.duplicateNamespace "tea")), after) ∧
        after.state.server.registry.contains "tea" = true := by
  have hrun : (registerApp twinPots blank).1 = .returned (.error (.duplicateNamespace "tea")) ∧
      (registerApp twinPots blank).2.state.server.registry.contains "tea" = true := by
    decide +kernel
  generalize registerApp twinPots blank = run at hrun ⊢
  obtain ⟨ending, after⟩ := run
  obtain ⟨rfl, hcontains⟩ := hrun
  exact ⟨after, rfl, hcontains⟩

/-- The second of the twins is refused, and the first is not taken back. -/
theorem failed_app_may_change_registry :
    ¬∀ (app : App Unit) (logged after : Logged (Deployment Unit)) (error : RegistryError),
      registerApp app logged = (.returned (.error error), after) →
        after.state.server.registry = logged.state.server.registry := by
  intro hatomic
  obtain ⟨after, hfails, hcontains⟩ := exists_registerApp_twinPots
  rw [hatomic twinPots blank after _ hfails] at hcontains
  cases hcontains

theorem twinPots_leave_one :
    ∃ registrations after,
      registerApp twinPots blank = (.returned (.error (.duplicateNamespace "tea")), after) ∧
        Stops twinPots.services blank.state registrations (.duplicateNamespace "tea")
          after.state ∧
        blank.state.server.registry.taken registrations ≠ [] := by
  obtain ⟨after, hfails, hcontains⟩ := exists_registerApp_twinPots
  obtain ⟨registrations, hstops, -, hsame⟩ := failed_app_keeps_what_it_added hfails
  refine ⟨registrations, after, hfails, hstops, fun hnone => ?_⟩
  have hkept := hsame.2 ⟨hnone, fun _ hnames => nomatch hnames⟩
  rw [hkept] at hcontains
  cases hcontains

end Deployment

end Switchboard
