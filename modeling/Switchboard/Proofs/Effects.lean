import Mathlib.Tactic
import Switchboard.Proofs.Additions
import Switchboard.Proofs.Enrolments

/-!
# Effects of enrolments

An enrolment may bring a list of names to hide. The list takes the place of the one before, and then
registrations are added, one after the other, under the list in force.
-/

namespace Switchboard

def App.brings (app : App σ) : Option (List String) :=
  if app.excludedMethods.isEmpty then none else some app.excludedMethods

theorem App.brings_of_mem {app : App σ} {name : String} (h : name ∈ app.excludedMethods) :
    app.brings = some app.excludedMethods := by
  have hnonempty : app.excludedMethods.isEmpty = false := by
    rw [List.isEmpty_eq_false_iff]
    exact List.ne_nil_of_mem h
  rw [brings, hnonempty]
  rfl

/-- A registry that hides the names it is brought, or else those that it hid before. -/
def Registry.hiding (registry : Registry σ) (brought : Option (List String)) : Registry σ :=
  registry.setGlobalExcludes (brought.getD registry.globalExcludes)

def Operation.registration? : Operation σ → Option (Registration σ)
  | .add registration => some registration
  | .exclude _ => none

def Operation.batch (brought : Option (List String)) (registrations : List (Registration σ)) :
    List (Operation σ) :=
  (brought.map .exclude).toList ++ registrations.map .add

theorem Operation.foldl_batch (registry : Registry σ) (brought : Option (List String))
    (registrations : List (Registration σ)) :
    (batch brought registrations).foldl Registry.operate registry =
      (registry.hiding brought).addAll registrations := by
  rw [batch, List.foldl_append]
  cases brought <;> rfl

theorem Operation.filterMap_batch (brought : Option (List String))
    (registrations : List (Registration σ)) :
    (batch brought registrations).filterMap registration? = registrations := by
  have hadds : (registrations.map .add).filterMap registration? = registrations := by
    rw [List.filterMap_map]
    exact List.filterMap_some
  rw [batch, List.filterMap_append, hadds]
  cases brought <;> rfl

namespace Deployment

theorem excludeOperations_eq (app : App σ) :
    excludeOperations app = Operation.batch app.brings [] := by
  unfold excludeOperations App.brings
  cases app.excludedMethods.isEmpty <;> rfl

theorem excluding_state_server (app : App σ) (logged : Logged (Deployment σ)) :
    (excluding app logged).state.server =
      { logged.state.server with
        registry := logged.state.server.registry.hiding app.brings } := by
  rw [excluding_server, excludeOperations_eq, Server.perform, Operation.foldl_batch]
  rfl

def blank : Logged (Deployment Unit) :=
  ⟨fresh {} { host := () }, []⟩

theorem exists_allOperations_eq (services : List (Service σ × Option String))
    (logged : Logged (Deployment σ)) :
    ∃ registrations, allOperations services logged = Operation.batch none registrations := by
  have hfirst : ∀ (service : Service σ) (explicit : Option String) (world : World σ),
      ∃ registrations, serviceOperations service explicit world =
        Operation.batch none registrations := by
    intro service explicit world
    unfold serviceOperations
    split
    · exact ⟨[_], rfl⟩
    · exact ⟨[], rfl⟩
  induction services generalizing logged with
  | nil => exact ⟨[], rfl⟩
  | cons head services ih =>
    obtain ⟨service, explicit⟩ := head
    obtain ⟨first, hfirst⟩ := hfirst service explicit logged.state.world
    unfold allOperations
    rw [hfirst]
    split
    · obtain ⟨rest, hrest⟩ := ih _
      refine ⟨first ++ rest, ?_⟩
      rw [hrest]
      simp only [Operation.batch, Option.map_none, Option.toList_none, List.nil_append,
        List.map_append]
    · exact ⟨first, List.append_nil _⟩
    · exact ⟨first, List.append_nil _⟩

end Deployment

namespace Enrolment

open Deployment

def brings : Enrolment σ → Option (List String)
  | .ofService _ _ | .ofDefinition _ => none
  | .ofApp app => app.brings
  | .exclude names => some names
  | .insisted enrolment => enrolment.brings

/-- The registrations that an enrolment comes to, up to the first that fails. -/
def registrations (enrolment : Enrolment σ) (logged : Logged (Deployment σ)) :
    List (Registration σ) :=
  (enrolment.operations logged).filterMap Operation.registration?

theorem operations_eq (enrolment : Enrolment σ) (logged : Logged (Deployment σ)) :
    enrolment.operations logged =
      Operation.batch enrolment.brings (enrolment.registrations logged) := by
  have hshape : ∃ registrations,
      enrolment.operations logged = Operation.batch enrolment.brings registrations := by
    induction enrolment with
    | ofService service explicit =>
      obtain ⟨registrations, h⟩ := exists_allOperations_eq [(service, explicit)] logged
      refine ⟨registrations, ?_⟩
      rw [operations, brings, ← h, allOperations]
      split <;> exact (List.append_nil _).symm
    | ofDefinition definition => exact ⟨[definition.registration], rfl⟩
    | ofApp app =>
      obtain ⟨registrations, h⟩ := exists_allOperations_eq app.services (excluding app logged)
      refine ⟨registrations, ?_⟩
      rw [operations, brings, h, excludeOperations_eq]
      simp only [Operation.batch, List.map_nil, List.append_nil, Option.map_none,
        Option.toList_none, List.nil_append]
    | exclude names => exact ⟨[], rfl⟩
    | insisted enrolment ih => exact ih
  obtain ⟨batched, hbatched⟩ := hshape
  rw [registrations, hbatched, Operation.filterMap_batch]

theorem task_registry (enrolment : Enrolment σ) (logged : Logged (Deployment σ)) :
    (enrolment.task logged).2.state.server.registry =
      (logged.state.server.registry.hiding enrolment.brings).addAll
        (enrolment.registrations logged) := by
  rw [task_server, operations_eq, Server.perform, Operation.foldl_batch]

def latest? (enrolments : List (Enrolment σ)) : Option (List String) :=
  (enrolments.filterMap brings).getLast?

theorem latest?_cons (enrolment : Enrolment σ) (enrolments : List (Enrolment σ)) :
    latest? (enrolment :: enrolments) = (latest? enrolments).or enrolment.brings := by
  unfold latest?
  cases hbrings : enrolment.brings with
  | none => rw [List.filterMap_cons_none hbrings, Option.or_none]
  | some names =>
    rw [List.filterMap_cons_some hbrings, List.getLast?_cons]
    cases (enrolments.filterMap brings).getLast? <;> rfl

theorem latest?_snoc (enrolments : List (Enrolment σ)) (enrolment : Enrolment σ) :
    latest? (enrolments ++ [enrolment]) = enrolment.brings.or (latest? enrolments) := by
  unfold latest?
  rw [List.filterMap_append, List.getLast?_append]
  cases hbrings : enrolment.brings with
  | none => rw [List.filterMap_cons_none hbrings, List.filterMap_nil, List.getLast?_nil]
  | some names =>
    rw [List.filterMap_cons_some hbrings, List.filterMap_nil, List.getLast?_singleton]

theorem globalExcludes_enrolAll (enrolments : List (Enrolment σ)) (logged : Logged (Deployment σ)) :
    (enrolAll enrolments logged).state.server.registry.globalExcludes =
      (latest? enrolments).getD logged.state.server.registry.globalExcludes := by
  induction enrolments generalizing logged with
  | nil => rfl
  | cons enrolment enrolments ih =>
    have hfirst : (enrolment.task logged).2.state.server.registry.globalExcludes =
        enrolment.brings.getD logged.state.server.registry.globalExcludes := by
      rw [task_registry, (Registry.addAll_agrees _ _).globalExcludes]
      rfl
    rw [enrolAll, ih, hfirst, latest?_cons]
    cases latest? enrolments <;> rfl

end Enrolment

end Switchboard
