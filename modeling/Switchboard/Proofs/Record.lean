import Mathlib.Tactic
import Switchboard.Proofs.Determinism
import Switchboard.Proofs.Recording

/-!
# Records list what a course runs

A recorded server takes the course of the server that it records, and its record is the list of
the runs of that course.
-/

namespace Switchboard

namespace Chain

/-- Recorded entries do the same, and their runs are added to the record. -/
theorem Passes.recorded {path : String} {place : Nat} {entries : List (Middleware σ)}
    {visit after : Visit σ} {runs : List Run} {ending : Ending (Except ServiceError Unit)}
    (h : Passes path place entries visit runs ending after) (before : List Run) :
    Passes path place (recordFrom place entries) (visit.recorded before) runs ending
      (after.recorded (before ++ runs)) := by
  induction h generalizing before with
  | done =>
    rw [List.append_nil]
    exact .done
  | skip hscope _ ih => exact .skip hscope (ih before)
  | @pass between place rest runs ending after entry visit hscope hhandler _ ih =>
    have hrest := ih (before ++ [.middleware place path visit.context.method])
    rw [List.append_assoc, List.singleton_append] at hrest
    exact .pass hscope (Middleware.recording_handler hhandler place before) hrest
  | stop hscope hhandler =>
    exact .stop hscope (Middleware.recording_handler hhandler _ before)
  | panic hscope hhandler =>
    exact .panic hscope (Middleware.recording_handler hhandler _ before)

end Chain

def Course.recorded (before : List Run) (course : Course σ) : Course (Recorded σ) where
  stage := course.stage
  runs := course.runs
  after := course.after.recorded (before ++ course.runs)

theorem Course.recorded_of_idle (before : List Run) (stage : Stage) (after : Visit σ) :
    (⟨stage, [], after⟩ : Course σ).recorded before = ⟨stage, [], after.recorded before⟩ := by
  rw [recorded, List.append_nil]

namespace Server

theorem Asks.recorded {server : Server σ} {body : List UInt8} {message : Message}
    {address : Address} (h : server.Asks body message address) :
    server.recording.Asks body message address :=
  ⟨h.parsed, h.identified, h.named⟩

theorem Targets.recorded {server : Server σ} {body : List UInt8} {message : Message}
    {address : Address} {plan : Plan σ} (h : server.Targets body message address plan) :
    server.recording.Targets body message address
      (plan.recording address.space address.method) := by
  obtain ⟨entry, hservice, hfound⟩ := h.found
  exact ⟨h.toAsks.recorded, entry.recording address.space,
    Registry.service?_recording_of_some hservice, MethodTable.get?_recording_of_some hfound _⟩

private theorem passes_recorded {server : Server σ} {path : String} {visit after : Visit σ}
    {runs : List Run} {ending : Ending (Except ServiceError Unit)}
    (h : Chain.Passes path 0 server.chain.entries (Action.enterGuard visit) runs ending after)
    (before : List Run) :
    Chain.Passes path 0 server.recording.chain.entries (Action.enterGuard (visit.recorded before))
      runs ending (after.recorded (before ++ runs)) :=
  h.recorded before

private theorem bound_recorded {server : Server σ} {address : Address} {visit between : Visit σ}
    {runs : List Run} {plan : Plan σ} {params : Option Json} {world : World σ}
    {method : Context → Action (World σ) (Except ServiceError (Option Json))}
    {ending : Ending (Except ServiceError (Option Json))}
    (hpasses : Chain.Passes address.path 0 server.chain.entries (Action.enterGuard visit) runs
      (.returned (.ok ())) between)
    (hbind : plan.bind params = .ok method)
    (hmethod : method between.context between.world = (ending, world)) (before : List Run) :
    ∃ recorded,
      Chain.Passes address.path 0 server.recording.chain.entries
        (Action.enterGuard (visit.recorded before)) runs (.returned (.ok ()))
        (between.recorded (before ++ runs)) ∧
      (plan.recording address.space address.method).bind params = .ok recorded ∧
      recorded between.context (between.world.recorded (before ++ runs)) =
        (ending, world.recorded (before ++
          (runs ++ [.method address.space address.method between.context.method]))) := by
  obtain ⟨recorded, hbind', hrecorded⟩ :=
    Plan.recording_bind_ok hbind address.space address.method
  refine ⟨recorded, passes_recorded hpasses before, hbind', ?_⟩
  rw [← List.append_assoc]
  exact hrecorded (before ++ runs) hmethod

theorem Calls.recorded {server : Server σ} {address : Address} {plan : Plan σ}
    {params : Option Json} {visit : Visit σ} {course : Course σ}
    (h : server.Calls address plan params visit course) (before : List Run) :
    server.recording.Calls address (plan.recording address.space address.method) params
      (visit.recorded before) (course.recorded before) := by
  cases h with
  | stopped hpasses => exact .stopped (passes_recorded hpasses before)
  | stumbled hpasses => exact .stumbled (passes_recorded hpasses before)
  | unbound hpasses hbind =>
    exact .unbound (passes_recorded hpasses before) (Plan.recording_bind_error hbind _ _)
  | failed hpasses hbind hmethod =>
    obtain ⟨_, hpasses', hbind', hmethod'⟩ := bound_recorded hpasses hbind hmethod before
    exact .failed hpasses' hbind' hmethod'
  | crashed hpasses hbind hmethod =>
    obtain ⟨_, hpasses', hbind', hmethod'⟩ := bound_recorded hpasses hbind hmethod before
    exact .crashed hpasses' hbind' hmethod'
  | completed hpasses hbind hmethod =>
    obtain ⟨_, hpasses', hbind', hmethod'⟩ := bound_recorded hpasses hbind hmethod before
    exact .completed hpasses' hbind' hmethod'

theorem Takes.recorded {server : Server σ} {body : List UInt8} {visit : Visit σ}
    {course : Course σ} (h : server.Takes body visit course) (before : List Run) :
    server.recording.Takes body (visit.recorded before) (course.recorded before) := by
  cases h with
  | unread hparse =>
    rw [Course.recorded_of_idle]
    exact .unread hparse
  | unidentified hparse hid =>
    rw [Course.recorded_of_idle]
    exact .unidentified hparse hid
  | unsplit hparse hid hmethod =>
    rw [Course.recorded_of_idle]
    exact .unsplit hparse hid hmethod
  | unknownSpace hasks hservice =>
    rw [Course.recorded_of_idle]
    exact .unknownSpace hasks.recorded (Registry.service?_recording_of_none hservice)
  | unknownMethod hasks hservice hmethod =>
    rw [Course.recorded_of_idle]
    exact .unknownMethod hasks.recorded (Registry.service?_recording_of_some hservice)
      (MethodTable.get?_recording_of_none hmethod _)
  | called htargets hcalls => exact .called htargets.recorded (hcalls.recorded before)

/-- What a server runs for a request is what the course of the request runs. -/
theorem Takes.runs_eq {server : Server σ} {body : List UInt8} {visit : Visit σ}
    {course : Course σ} (h : server.Takes body visit course) :
    server.runs body visit = course.runs := by
  obtain ⟨noted, hhandle⟩ := (h.recorded []).handle []
  rw [Server.runs, hhandle]
  rfl

/-- A recorded server answers as the server does, and leaves the same state. -/
theorem handle_recording (server : Server σ) (body : List UInt8) (visit : Visit σ)
    (before : List Run) (log : List Event) :
    (server.recording.handle body ⟨visit.recorded before, log⟩).1 =
        (server.handle body ⟨visit, log⟩).1 ∧
      (server.recording.handle body ⟨visit.recorded before, log⟩).2.state.erased =
        (server.handle body ⟨visit, log⟩).2.state := by
  obtain ⟨course, hcourse⟩ := server.exists_takes body visit
  obtain ⟨noted, hhandle⟩ := hcourse.handle log
  obtain ⟨noted', hrecorded⟩ := (hcourse.recorded before).handle log
  rw [hhandle, hrecorded]
  exact ⟨rfl, rfl⟩

end Server

end Switchboard
