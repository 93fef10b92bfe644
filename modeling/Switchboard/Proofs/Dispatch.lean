import Mathlib.Tactic
import Switchboard.Proofs.Course
import Switchboard.Proofs.Registries

/-!
# Servers follow courses

A server answers a request with the reply at the last stage of its course, and leaves the state in
which the course ends.
-/

namespace Switchboard

/-! ## The chain -/

namespace Chain

theorem runFrom_skip {entry : Middleware σ} {path : String}
    (hscope : entry.scope.appliesTo path = false) (place : Nat) (rest : List (Middleware σ)) :
    runFrom path place (entry :: rest) = runFrom path (place + 1) rest := by
  rw [runFrom, if_neg (by simp [hscope])]

theorem runFrom_applied {entry : Middleware σ} {path : String}
    (hscope : entry.scope.appliesTo path = true) {visit after : Visit σ}
    {ending : Ending (Except ServiceError Unit)}
    (hhandler : entry.handler path visit = (ending, after)) (place : Nat)
    (rest : List (Middleware σ)) (log : List Event) :
    runFrom path place (entry :: rest) ⟨visit, log⟩ =
      match ending with
      | .returned (.ok ()) =>
        runFrom path (place + 1) rest ⟨after, log ++ [runningEvent place path]⟩
      | .returned (.error error) =>
        (.returned (.error error), ⟨after, log ++ [runningEvent place path]⟩)
      | .panicked payload => (.panicked payload, ⟨after, log ++ [runningEvent place path]⟩) := by
  rw [runFrom, if_pos hscope]
  simp only [Action.bind, Action.emit_apply, Action.unlogged_apply hhandler]
  rcases ending with (_ | _) | _ <;> rfl

theorem Passes.runFrom {path : String} {place : Nat} {entries : List (Middleware σ)}
    {visit after : Visit σ} {runs : List Run} {ending : Ending (Except ServiceError Unit)}
    (h : Passes path place entries visit runs ending after) (log : List Event) :
    ∃ noted, Chain.runFrom path place entries ⟨visit, log⟩ = (ending, ⟨after, noted⟩) := by
  induction h generalizing log with
  | done => exact ⟨log, rfl⟩
  | skip hscope _ ih =>
    rw [runFrom_skip hscope]
    exact ih log
  | pass hscope hhandler _ ih =>
    rw [runFrom_applied hscope hhandler]
    exact ih _
  | stop hscope hhandler => exact ⟨_, runFrom_applied hscope hhandler _ _ log⟩
  | panic hscope hhandler => exact ⟨_, runFrom_applied hscope hhandler _ _ log⟩

end Chain

/-! ## The call -/

theorem Plan.call_of_unbound {plan : Plan σ} {params : Option Json} {error : BindError}
    (h : plan.bind params = .error error) (context : Context) (world : World σ) :
    plan.call context params world = (.returned (.error error.toWire), world) := by
  rw [call, h]
  rfl

theorem Plan.call_of_returned {plan : Plan σ} {params : Option Json}
    {method : Context → Action (World σ) (Except ServiceError (Option Json))} {context : Context}
    {world after : World σ} {outcome : Except ServiceError (Option Json)}
    (h : plan.bind params = .ok method)
    (hmethod : method context world = (.returned outcome, after)) :
    plan.call context params world = (.returned (outcome.mapError ServiceError.toWire), after) := by
  rw [call, h]
  exact Action.bind_of_returned hmethod

theorem Plan.call_of_panicked {plan : Plan σ} {params : Option Json}
    {method : Context → Action (World σ) (Except ServiceError (Option Json))} {context : Context}
    {world after : World σ} {payload : PanicPayload} (h : plan.bind params = .ok method)
    (hmethod : method context world = (.panicked payload, after)) :
    plan.call context params world = (.panicked payload, after) := by
  rw [call, h]
  exact Action.bind_of_panicked hmethod

namespace Server

private theorem run_of_error {server : Server σ} {path : String} {visit after : Visit σ}
    {runs : List Run} {error : ServiceError}
    (h : Chain.Passes path 0 server.chain.entries visit runs (.returned (.error error)) after)
    (plan : Plan σ) (params : Option Json) (log : List Event) :
    ∃ noted, server.run path plan params ⟨visit, log⟩ =
      (.returned (.error error), ⟨after, noted⟩) := by
  obtain ⟨noted, hchain⟩ := h.runFrom log
  exact ⟨noted, Action.bind_of_returned hchain⟩

private theorem run_of_panicked {server : Server σ} {path : String} {visit after : Visit σ}
    {runs : List Run} {payload : PanicPayload}
    (h : Chain.Passes path 0 server.chain.entries visit runs (.panicked payload) after)
    (plan : Plan σ) (params : Option Json) (log : List Event) :
    ∃ noted, server.run path plan params ⟨visit, log⟩ = (.panicked payload, ⟨after, noted⟩) := by
  obtain ⟨noted, hchain⟩ := h.runFrom log
  exact ⟨noted, Action.bind_of_panicked hchain⟩

private theorem run_of_ok {server : Server σ} {path : String} {visit between : Visit σ}
    {runs : List Run} {plan : Plan σ} {params : Option Json} {world : World σ}
    {ending : Ending (Except WireError (Option Json))}
    (h : Chain.Passes path 0 server.chain.entries visit runs (.returned (.ok ())) between)
    (hcall : plan.call between.context params between.world = (ending, world))
    (log : List Event) :
    ∃ noted, server.run path plan params ⟨visit, log⟩ =
      (match ending with
        | .returned outcome => .returned (outcome.mapError .wire)
        | .panicked payload => .panicked payload,
       ⟨{ between with world }, noted⟩) := by
  obtain ⟨noted, hchain⟩ := h.runFrom log
  have hworld : Action.onWorld (plan.call between.context params) between =
      (ending, { between with world }) := by
    simp only [Action.onWorld, hcall]
  have hunlogged := Action.unlogged_apply hworld noted
  have hcontext : Action.context ⟨between, noted⟩ =
      (.returned between.context, ⟨between, noted⟩) := rfl
  refine ⟨noted, (Action.bind_of_returned hchain).trans
    ((Action.bind_of_returned hcontext).trans ?_)⟩
  cases ending with
  | returned outcome => exact Action.bind_of_returned hunlogged
  | panicked payload => exact Action.bind_of_panicked hunlogged

/-- A call ends as its course does: with the stage's outcome, or with a panic that the guard turns
into the stage's crash. -/
theorem Calls.guarded {server : Server σ} {address : Address} {plan : Plan σ}
    {params : Option Json} {visit : Visit σ} {course : Course σ}
    (h : server.Calls address plan params visit course) (log : List Event) :
    ∃ held noted, Action.guarded (server.run address.path plan params) ⟨visit, log⟩ =
        (.returned held, ⟨course.after, noted⟩) ∧
      match held with
      | .ok (.ok payload) => course.stage = .completed payload
      | .ok (.error error) => course.stage.error? server.options = some error.toWire
      | .error crash => course.stage = .crashed plan.name crash := by
  cases h with
  | stopped hpasses =>
    obtain ⟨noted, hrun⟩ := run_of_error hpasses plan params log
    exact ⟨.ok (.error _), noted, Action.guarded_logged_of_returned hrun, rfl⟩
  | stumbled hpasses =>
    obtain ⟨noted, hrun⟩ := run_of_panicked hpasses plan params log
    exact ⟨.error _, noted, Action.guarded_logged_of_panicked hrun, rfl⟩
  | @unbound _ error _ hpasses hbind =>
    obtain ⟨noted, hrun⟩ := run_of_ok hpasses (Plan.call_of_unbound hbind _ _) log
    exact ⟨.ok (.error (.wire error.toWire)), noted, Action.guarded_logged_of_returned hrun, rfl⟩
  | @failed _ _ _ error _ hpasses hbind hmethod =>
    obtain ⟨noted, hrun⟩ := run_of_ok hpasses (Plan.call_of_returned hbind hmethod) log
    exact ⟨.ok (.error (.wire error.toWire)), noted, Action.guarded_logged_of_returned hrun, rfl⟩
  | crashed hpasses hbind hmethod =>
    obtain ⟨noted, hrun⟩ := run_of_ok hpasses (Plan.call_of_panicked hbind hmethod) log
    exact ⟨.error _, noted, Action.guarded_logged_of_panicked hrun, rfl⟩
  | @completed _ _ _ returned _ hpasses hbind hmethod =>
    obtain ⟨noted, hrun⟩ := run_of_ok hpasses (Plan.call_of_returned hbind hmethod) log
    exact ⟨.ok (.ok returned), noted, Action.guarded_logged_of_returned hrun, rfl⟩

/-! ## The request -/

theorem address_of_split {message : Message} {first second : List Char}
    (hid : message.Identified) (hmethod : message.method.toList = first ++ separator :: second)
    (hfirst : separator ∉ first) (server : Server σ) :
    server.address message =
      .ok ⟨server.options.naming.fold (String.ofList first),
        server.options.naming.fold (String.ofList second)⟩ := by
  have hsplit : message.splitMethod = .ok (String.ofList first, String.ofList second) := by
    rw [Message.splitMethod, hmethod, Naming.splitPath_append second hfirst]
  rw [Server.address, if_pos (message.hasValidId_iff.2 hid), hsplit]
  rfl

theorem address_of_asks {server : Server σ} {body : List UInt8} {message : Message}
    {address : Address} (h : server.Asks body message address) :
    server.address message = .ok address := by
  obtain ⟨first, second, hmethod, hfirst, rfl⟩ := h.named
  exact address_of_split h.identified hmethod hfirst server

theorem address_of_unidentified {message : Message} (h : ¬message.Identified)
    (server : Server σ) :
    server.address message = .error (.invalidRequest "id is invalid") := by
  rw [Server.address, if_neg (fun hvalid => h (message.hasValidId_iff.1 hvalid))]

theorem address_of_unsplit {message : Message} (hid : message.Identified)
    (hmethod : separator ∉ message.method.toList) (server : Server σ) :
    server.address message = .error (.methodNotFound "wrong method") := by
  have hsplit : message.splitMethod = .error (.methodNotFound "wrong method") := by
    rw [Message.splitMethod, (Naming.splitPath_eq_none_iff _).2 hmethod]
  rw [Server.address, if_pos (message.hasValidId_iff.2 hid), hsplit]
  rfl

private theorem handle_of_outcome {server : Server σ} {body : List UInt8} {message : Message}
    (hparse : Message.parse body = .ok message) {visit after : Visit σ} {log noted : List Event}
    {outcome : Except ServiceError (Option Json)} {stage : Stage}
    (houtcome : server.outcome message ⟨visit, log⟩ = (.returned outcome, ⟨after, noted⟩))
    (hreply : conclude message outcome = stage.reply server.options message) :
    server.handle body ⟨visit, log⟩ =
      (.returned (stage.reply server.options (Message.sent body)), ⟨after, noted⟩) := by
  rw [Message.sent_of_ok hparse, ← hreply, Server.handle, hparse]
  exact Action.bind_of_returned houtcome

private theorem outcome_of_refused {server : Server σ} {message : Message} {error : WireError}
    (h : server.address message = .error error) (visit : Visit σ) (log : List Event) :
    server.outcome message ⟨visit, log⟩ = (.returned (.error (.wire error)), ⟨visit, log⟩) := by
  rw [outcome, h]
  rfl

private theorem outcome_of_unresolved {server : Server σ} {message : Message} {address : Address}
    {error : WireError} (haddress : server.address message = .ok address)
    (hresolve : server.registry.resolve address.space address.method = .error error)
    (visit : Visit σ) (log : List Event) :
    server.outcome message ⟨visit, log⟩ =
      (.returned (.error (.wire error)), ⟨visit.at address.path, log⟩) := by
  simp only [outcome, haddress, hresolve]
  rfl

theorem Calls.outcome {server : Server σ} {message : Message} {address : Address} {plan : Plan σ}
    {visit : Visit σ} {course : Course σ}
    (h : server.Calls address plan message.params (visit.at address.path) course)
    (haddress : server.address message = .ok address)
    (hresolve : server.registry.resolve address.space address.method = .ok plan)
    (log : List Event) :
    ∃ outcome noted,
      server.outcome message ⟨visit, log⟩ = (.returned outcome, ⟨course.after, noted⟩) ∧
        conclude message outcome = course.stage.reply server.options message := by
  have hpath : Action.setPath address.path ⟨visit, log⟩ =
      (.returned (), ⟨visit.at address.path, log⟩) := rfl
  obtain ⟨held, noted, hguarded, hheld⟩ := h.guarded log
  simp only [Server.outcome, haddress, hresolve]
  match held with
  | .ok (.ok payload) =>
    refine ⟨.ok (payload.filter (!·.isBlank)), noted,
      (Action.bind_of_returned hpath).trans (Action.bind_of_returned hguarded), ?_⟩
    rw [hheld]
    exact Stage.conclude_completed server.options payload message
  | .ok (.error error) =>
    exact ⟨.error error, noted,
      (Action.bind_of_returned hpath).trans (Action.bind_of_returned hguarded),
      Stage.conclude_error hheld message⟩
  | .error crash =>
    refine ⟨.error (.wire (server.crashError plan.name crash)), _,
      (Action.bind_of_returned hpath).trans (Action.bind_of_returned hguarded),
      Stage.conclude_error ?_ message⟩
    rw [hheld]
    unfold crashError Stage.error?
    cases server.options.exposeBacktrace <;> rfl

theorem Takes.handle {server : Server σ} {body : List UInt8} {visit : Visit σ}
    {course : Course σ} (h : server.Takes body visit course) (log : List Event) :
    ∃ noted, server.handle body ⟨visit, log⟩ =
      (.returned (course.stage.reply server.options (Message.sent body)),
        ⟨course.after, noted⟩) := by
  cases h with
  | unread hparse =>
    refine ⟨log, ?_⟩
    rw [Message.sent_of_error hparse, Server.handle, hparse]
    rfl
  | unidentified hparse hid =>
    have houtcome := outcome_of_refused (address_of_unidentified hid server) visit log
    exact ⟨log, handle_of_outcome hparse houtcome (Stage.conclude_error rfl _)⟩
  | unsplit hparse hid hmethod =>
    have houtcome := outcome_of_refused (address_of_unsplit hid hmethod server) visit log
    exact ⟨log, handle_of_outcome hparse houtcome (Stage.conclude_error rfl _)⟩
  | unknownSpace hasks hservice =>
    have houtcome := outcome_of_unresolved (address_of_asks hasks)
      (Registry.resolve_of_no_service hservice _) visit log
    exact ⟨log, handle_of_outcome hasks.parsed houtcome (Stage.conclude_error rfl _)⟩
  | unknownMethod hasks hservice hmethod =>
    have hresolve := Registry.resolve_of_no_method hservice hmethod
    have houtcome := outcome_of_unresolved (address_of_asks hasks) hresolve visit log
    exact ⟨log, handle_of_outcome hasks.parsed houtcome (Stage.conclude_error rfl _)⟩
  | called htargets hcalls =>
    obtain ⟨outcome, noted, houtcome, hreply⟩ :=
      hcalls.outcome (address_of_asks htargets.toAsks)
        (Registry.resolve_eq_ok_iff.2 htargets.found) log
    exact ⟨noted, handle_of_outcome htargets.parsed houtcome hreply⟩

end Server

end Switchboard
