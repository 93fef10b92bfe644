import Mathlib.Tactic
import Switchboard.Proofs.Order

/-!
# Addresses of entries

Middleware decides on the path of a call, and the registry is asked for its two parts. No namespace
that a registration leaves holds a separator, so that a path stands for one entry only. Middleware is
handed the path whatever its context says, and so can hide it from the code after it by putting
another context in place.
-/

namespace Switchboard

/-- A middleware that, if it applies to a path, leaves the one in its context alone: no host's code
can write it, but for one that puts another context in the place of the call's. -/
def Middleware.KeepsPath (path : String) (entry : Middleware σ) : Prop :=
  entry.scope.appliesTo path = true →
    ∀ visit, (entry.handler path visit).2.context.method = visit.context.method

theorem Middleware.KeepsPath.of_handler {path : String} {entry : Middleware σ}
    (h : entry.KeepsPath path) (hscope : entry.scope.appliesTo path = true)
    {visit after : Visit σ} {ending : Ending (Except ServiceError Unit)}
    (hhandler : entry.handler path visit = (ending, after)) :
    after.context.method = visit.context.method := by
  have hkept := h hscope visit
  rw [hhandler] at hkept
  exact hkept

namespace Chain

private theorem keepsPath_cons {path : String} {entry : Middleware σ}
    {rest : List (Middleware σ)} {first place : Nat} (hplace : first + 1 ≤ place)
    (h : ∀ other ∈ (entry :: rest).take (place - first), other.KeepsPath path) :
    entry.KeepsPath path ∧ ∀ other ∈ rest.take (place - (first + 1)), other.KeepsPath path := by
  have htake : place - first = place - (first + 1) + 1 := by omega
  rw [htake, List.take_succ_cons] at h
  exact List.forall_mem_cons.1 h

/-- A middleware is handed the path, and sees the one that its context held before the chain if
those ahead of it keep it. -/
theorem Passes.middleware_sees {path : String} {first : Nat} {entries : List (Middleware σ)}
    {visit after : Visit σ} {runs : List Run} {ending : Ending (Except ServiceError Unit)}
    (h : Passes path first entries visit runs ending after) {place : Nat} {given seen : String}
    (hrun : .middleware place given seen ∈ runs) :
    first ≤ place ∧ given = path ∧
      ((∀ entry ∈ entries.take (place - first), entry.KeepsPath path) →
        seen = visit.context.method) := by
  induction h with
  | done => cases hrun
  | skip _ _ ih =>
    obtain ⟨hplace, hgiven, hseen⟩ := ih hrun
    exact ⟨Nat.le_of_succ_le hplace, hgiven, fun hkeep => hseen (keepsPath_cons hplace hkeep).2⟩
  | pass hscope hhandler _ ih =>
    rcases List.mem_cons.1 hrun with hrun | hrun
    · cases hrun
      exact ⟨le_rfl, rfl, fun _ => rfl⟩
    · obtain ⟨hplace, hgiven, hseen⟩ := ih hrun
      refine ⟨Nat.le_of_succ_le hplace, hgiven, fun hkeep => ?_⟩
      obtain ⟨hentry, hrest⟩ := keepsPath_cons hplace hkeep
      rw [hseen hrest, hentry.of_handler hscope hhandler]
  | stop | panic =>
    cases List.mem_singleton.1 hrun
    exact ⟨le_rfl, rfl, fun _ => rfl⟩

theorem Passes.method_eq {path : String} {first : Nat} {entries : List (Middleware σ)}
    {visit after : Visit σ} {runs : List Run} {ending : Ending (Except ServiceError Unit)}
    (h : Passes path first entries visit runs ending after)
    (hkeep : ∀ entry ∈ entries, entry.KeepsPath path) :
    after.context.method = visit.context.method := by
  induction h with
  | done => rfl
  | skip _ _ ih => exact ih (List.forall_mem_cons.1 hkeep).2
  | pass hscope hhandler _ ih =>
    obtain ⟨hentry, hrest⟩ := List.forall_mem_cons.1 hkeep
    rw [ih hrest, hentry.of_handler hscope hhandler]
  | stop hscope hhandler | panic hscope hhandler =>
    exact (List.forall_mem_cons.1 hkeep).1.of_handler hscope hhandler

end Chain

namespace Server

theorem Targets.exists_calls {server : Server σ} {body : List UInt8} {message : Message}
    {address : Address} {plan : Plan σ} (h : server.Targets body message address plan)
    (visit : Visit σ) :
    ∃ course, server.Calls address plan message.params (visit.at address.path) course ∧
      server.runs body visit = course.runs := by
  obtain ⟨course, hcalls⟩ := server.exists_calls address plan message.params (visit.at address.path)
  exact ⟨course, hcalls, (Takes.called h hcalls).runs_eq⟩

theorem Calls.middleware_sees {server : Server σ} {address : Address} {plan : Plan σ}
    {params : Option Json} {visit : Visit σ} {course : Course σ}
    (h : server.Calls address plan params (visit.at address.path) course) {place : Nat}
    {given seen : String} (hrun : .middleware place given seen ∈ course.runs) :
    given = address.path ∧
      ((∀ entry ∈ server.chain.entries.take place, entry.KeepsPath address.path) →
        seen = address.path) := by
  cases h with
  | stopped hpasses | stumbled hpasses | unbound hpasses => exact (hpasses.middleware_sees hrun).2
  | failed hpasses | crashed hpasses | completed hpasses =>
    rcases List.mem_append.1 hrun with hrun | hrun
    · exact (hpasses.middleware_sees hrun).2
    · cases List.mem_singleton.1 hrun

theorem Calls.method_sees {server : Server σ} {address : Address} {plan : Plan σ}
    {params : Option Json} {visit : Visit σ} {course : Course σ}
    (h : server.Calls address plan params (visit.at address.path) course)
    {space name seen : String} (hrun : .method space name seen ∈ course.runs) :
    address = ⟨space, name⟩ ∧
      ((∀ entry ∈ server.chain.entries, entry.KeepsPath address.path) →
        seen = address.path) := by
  rcases h.runs_cases with hnone | ⟨_, before, between, hpasses, -, hruns⟩
  · cases hnone _ hrun
  · rw [hruns] at hrun
    rcases List.mem_append.1 hrun with hrun | hrun
    · cases hpasses.isMethod_eq_false _ hrun
    · cases List.mem_singleton.1 hrun
      exact ⟨rfl, fun hkeep => hpasses.method_eq hkeep⟩

end Server

end Switchboard
