import Mathlib.Tactic
import Switchboard.Proofs.Serving

/-!
# Stateless services

Where neither middleware nor methods look at the state of their host, a request is answered alike in
all of its states. All that can tell two answers apart is the backtrace of a crash, where it is
exposed: it is what the thread holds when the crash is reported, and that may be left from before.
-/

namespace Switchboard

/-! ## Visits -/

/-- Visits that differ in nothing but the states of their hosts and their threads. -/
structure Visit.Alike (visit other : Visit σ) : Prop where
  context : visit.context = other.context
  exchange : visit.exchange = other.exchange
  stopped : visit.world.stopped = other.world.stopped

theorem Visit.Alike.at {visit other : Visit σ} (h : visit.Alike other) (path : String) :
    (visit.at path).Alike (other.at path) := by
  refine ⟨?_, h.exchange, h.stopped⟩
  rw [Visit.at, Visit.at, h.context]

namespace Visit.Alike

variable {visit other : Visit σ}

theorem enterGuard (h : visit.Alike other) :
    (Action.enterGuard visit).Alike (Action.enterGuard other) :=
  ⟨h.context, h.exchange, h.stopped⟩

theorem leaveGuard (h : visit.Alike other) :
    (Action.leaveGuard visit).Alike (Action.leaveGuard other) :=
  ⟨h.context, h.exchange, h.stopped⟩

theorem leaveCrash (h : visit.Alike other) :
    (Action.leaveCrash visit).Alike (Action.leaveCrash other) :=
  ⟨h.context, h.exchange, h.stopped⟩

end Visit.Alike

/-! ## Services -/

def Middleware.Stateless (entry : Middleware σ) : Prop :=
  ∀ path visit other, visit.Alike other →
    (entry.handler path visit).1 = (entry.handler path other).1 ∧
      (entry.handler path visit).2.Alike (entry.handler path other).2

/-- A server whose middleware and methods do not depend on the state of their host. -/
structure Server.Stateless (server : Server σ) : Prop where
  middleware : ∀ entry ∈ server.chain.entries, entry.Stateless
  methods : ∀ space entry name plan params method, server.registry.service? space = some entry →
    entry.methods.get? name = some plan → plan.bind params = .ok method →
    ∀ context (world other : World σ), world.stopped = other.stopped →
      (method context world).1 = (method context other).1 ∧
        (method context world).2.stopped = (method context other).2.stopped

theorem Server.Stateless.stop {server : Server σ} (h : server.Stateless) :
    server.stop.Stateless :=
  ⟨h.middleware, h.methods⟩

theorem Middleware.Stateless.handler {entry : Middleware σ} (h : entry.Stateless) {path : String}
    {visit other after : Visit σ} {ending : Ending (Except ServiceError Unit)}
    (hvisit : visit.Alike other) (hhandler : entry.handler path visit = (ending, after)) :
    ∃ twin, entry.handler path other = (ending, twin) ∧ after.Alike twin := by
  have hboth := h path visit other hvisit
  rw [hhandler] at hboth
  exact ⟨(entry.handler path other).2, Prod.ext hboth.1.symm rfl, hboth.2⟩

/-! ## Courses -/

/-- What a report tells of the backtrace that a thread holds, if it holds one. -/
def Backtrace.told (held : Option Backtrace) : String :=
  (held.map text).getD ""

/-- Stages that differ in nothing but the backtrace of a crash. -/
inductive Stage.Alike : Stage → Stage → Prop
  | same {stage : Stage} : Alike stage stage
  | crashed (method message : String) (held other : Option Backtrace) :
      Alike (.crashed method ⟨message, Backtrace.told held⟩)
        (.crashed method ⟨message, Backtrace.told other⟩)

theorem Stage.Alike.report (method : String) (payload : PanicPayload) (left other : Visit σ) :
    Alike (.crashed method (Action.report payload left))
      (.crashed method (Action.report payload other)) :=
  .crashed method payload.message left.world.thread.slot other.world.thread.slot

structure Course.Alike (course other : Course σ) : Prop where
  stage : course.stage.Alike other.stage
  after : course.after.Alike other.after

theorem Chain.Passes.alike {path : String} {place : Nat} {entries : List (Middleware σ)}
    {visit other after : Visit σ} {runs : List Run} {ending : Ending (Except ServiceError Unit)}
    (h : Passes path place entries visit runs ending after)
    (hstateless : ∀ entry ∈ entries, entry.Stateless) (hvisit : visit.Alike other) :
    ∃ twin, Passes path place entries other runs ending twin ∧ after.Alike twin := by
  -- runs note the path that a context holds, and contexts agree all along
  induction h generalizing other with
  | done => exact ⟨other, .done, hvisit⟩
  | skip hscope _ ih =>
    obtain ⟨twin, hpasses, hafter⟩ :=
      ih (fun entry hentry => hstateless entry (List.mem_cons_of_mem _ hentry)) hvisit
    exact ⟨twin, .skip hscope hpasses, hafter⟩
  | pass hscope hhandler _ ih =>
    obtain ⟨between, hhandler', hbetween⟩ :=
      (hstateless _ List.mem_cons_self).handler hvisit hhandler
    obtain ⟨twin, hpasses, hafter⟩ :=
      ih (fun entry hentry => hstateless entry (List.mem_cons_of_mem _ hentry)) hbetween
    rw [hvisit.context]
    exact ⟨twin, .pass hscope hhandler' hpasses, hafter⟩
  | stop hscope hhandler =>
    obtain ⟨twin, hhandler', hafter⟩ :=
      (hstateless _ List.mem_cons_self).handler hvisit hhandler
    rw [hvisit.context]
    exact ⟨twin, .stop hscope hhandler', hafter⟩
  | panic hscope hhandler =>
    obtain ⟨twin, hhandler', hafter⟩ :=
      (hstateless _ List.mem_cons_self).handler hvisit hhandler
    rw [hvisit.context]
    exact ⟨twin, .panic hscope hhandler', hafter⟩

namespace Server

variable {server : Server σ} {body : List UInt8} {message : Message} {address : Address}
  {plan : Plan σ} {visit other : Visit σ} {course : Course σ}

private theorem passes_alike {path : String} {after : Visit σ} {runs : List Run}
    {ending : Ending (Except ServiceError Unit)} (hstateless : server.Stateless)
    (hvisit : visit.Alike other)
    (h : Chain.Passes path 0 server.chain.entries (Action.enterGuard visit) runs ending after) :
    ∃ twin, Chain.Passes path 0 server.chain.entries (Action.enterGuard other) runs ending twin ∧
      after.Alike twin :=
  h.alike hstateless.middleware hvisit.enterGuard

private theorem bound_alike {between : Visit σ} {runs : List Run} {world : World σ}
    {method : Context → Action (World σ) (Except ServiceError (Option Json))}
    {ending : Ending (Except ServiceError (Option Json))} (hstateless : server.Stateless)
    (htargets : server.Targets body message address plan) (hvisit : visit.Alike other)
    (hpasses : Chain.Passes address.path 0 server.chain.entries (Action.enterGuard visit) runs
      (.returned (.ok ())) between)
    (hbind : plan.bind message.params = .ok method)
    (hmethod : method between.context between.world = (ending, world)) :
    ∃ twin later,
      Chain.Passes address.path 0 server.chain.entries (Action.enterGuard other) runs
        (.returned (.ok ())) twin ∧
      method twin.context twin.world = (ending, later) ∧
      Visit.Alike { between with world } { twin with world := later } := by
  obtain ⟨twin, hpasses', hbetween⟩ := passes_alike hstateless hvisit hpasses
  obtain ⟨entry, hservice, hfound⟩ := htargets.found
  obtain ⟨hending, hstopped⟩ := hstateless.methods _ entry _ plan _ method hservice hfound hbind
    between.context between.world twin.world hbetween.stopped
  rw [hmethod, hbetween.context] at hending hstopped
  exact ⟨twin, (method twin.context twin.world).2, hpasses', Prod.ext hending.symm rfl,
    hbetween.context, hbetween.exchange, hstopped⟩

theorem Calls.alike (hstateless : server.Stateless)
    (htargets : server.Targets body message address plan) (hvisit : visit.Alike other)
    (h : server.Calls address plan message.params visit course) :
    ∃ twin, server.Calls address plan message.params other twin ∧ course.Alike twin := by
  cases h with
  | stopped hpasses =>
    obtain ⟨twin, hpasses', hafter⟩ := passes_alike hstateless hvisit hpasses
    exact ⟨_, .stopped hpasses', .same, hafter.leaveGuard⟩
  | stumbled hpasses =>
    obtain ⟨twin, hpasses', hafter⟩ := passes_alike hstateless hvisit hpasses
    exact ⟨_, .stumbled hpasses', .report _ _ _ _, hafter.leaveCrash⟩
  | unbound hpasses hbind =>
    obtain ⟨twin, hpasses', hafter⟩ := passes_alike hstateless hvisit hpasses
    exact ⟨_, .unbound hpasses' hbind, .same, hafter.leaveGuard⟩
  | failed hpasses hbind hmethod =>
    obtain ⟨twin, later, hpasses', hmethod', hafter⟩ :=
      bound_alike hstateless htargets hvisit hpasses hbind hmethod
    exact ⟨_, .failed hpasses' hbind hmethod', .same, hafter.leaveGuard⟩
  | crashed hpasses hbind hmethod =>
    obtain ⟨twin, later, hpasses', hmethod', hafter⟩ :=
      bound_alike hstateless htargets hvisit hpasses hbind hmethod
    exact ⟨_, .crashed hpasses' hbind hmethod', .report _ _ _ _, hafter.leaveCrash⟩
  | completed hpasses hbind hmethod =>
    obtain ⟨twin, later, hpasses', hmethod', hafter⟩ :=
      bound_alike hstateless htargets hvisit hpasses hbind hmethod
    exact ⟨_, .completed hpasses' hbind hmethod', .same, hafter.leaveGuard⟩

theorem Takes.alike (hstateless : server.Stateless) (hvisit : visit.Alike other)
    (h : server.Takes body visit course) :
    ∃ twin, server.Takes body other twin ∧ course.Alike twin := by
  cases h with
  | unread hparse => exact ⟨_, .unread hparse, .same, hvisit⟩
  | unidentified hparse hid => exact ⟨_, .unidentified hparse hid, .same, hvisit⟩
  | unsplit hparse hid hmethod => exact ⟨_, .unsplit hparse hid hmethod, .same, hvisit⟩
  | unknownSpace hasks hservice =>
    exact ⟨_, .unknownSpace hasks hservice, .same, hvisit.at _⟩
  | unknownMethod hasks hservice hmethod =>
    exact ⟨_, .unknownMethod hasks hservice hmethod, .same, hvisit.at _⟩
  | called htargets hcalls =>
    obtain ⟨twin, hcalls', halike⟩ := hcalls.alike hstateless htargets (hvisit.at _)
    exact ⟨twin, .called htargets hcalls', halike⟩

end Server

/-! ## Answers -/

/-- Responses of a server that differ in nothing but the backtrace in the report of a crash, which is
sent by a server that exposes backtraces. -/
inductive Response.Alike (options : Options) : Response → Response → Prop
  | same {response : Response} : Alike options response response
  | traced (exchange : Exchange) (client : Message) (method message : String)
      (held other : Option Backtrace) :
      options.exposeBacktrace = true → exchange.isWritten = false →
      Alike options
        (Server.respond exchange
          ((Stage.crashed method ⟨message, Backtrace.told held⟩).reply options client))
        (Server.respond exchange
          ((Stage.crashed method ⟨message, Backtrace.told other⟩).reply options client))

theorem Response.Alike.eq_of_hidden {options : Options} {response other : Response}
    (h : Alike options response other) (hhidden : options.exposeBacktrace = false) :
    response = other := by
  cases h with
  | same => rfl
  | traced _ _ _ _ _ _ hexposes => exact absurd (hexposes.symm.trans hhidden) (by decide)

theorem Stage.Alike.respond {stage twin : Stage} (h : stage.Alike twin) (exchange : Exchange)
    (options : Options) (client : Message) :
    Response.Alike options (Server.respond exchange (stage.reply options client))
      (Server.respond exchange (twin.reply options client)) := by
  cases h with
  | same => exact .same
  | crashed method message held other =>
    -- the backtrace is seen only in an answer that is sent and by those it is exposed to
    cases hwritten : exchange.isWritten with
    | true =>
      rw [Server.respond_of_isWritten hwritten, Server.respond_of_isWritten hwritten]
      exact .same
    | false =>
      cases hexposes : options.exposeBacktrace with
      | true => exact .traced _ _ _ _ _ _ hexposes hwritten
      | false =>
        have hreply : ∀ backtrace, (Stage.crashed method ⟨message, backtrace⟩).reply options client =
            (Stage.crashed method ⟨message, ""⟩).reply options client := by
          intro backtrace
          rw [reply, reply, error?, error?, hexposes]
          rfl
        rw [hreply, hreply (Backtrace.told other)]
        exact .same

inductive Ending.Both (r : α → β → Prop) : Ending α → Ending β → Prop
  | returned {value : α} {other : β} : r value other → Both r (.returned value) (.returned other)

theorem Server.serve_alike {server : Server σ} (hstateless : server.Stateless)
    (request : Request) (logged other : Logged (World σ))
    (hstopped : logged.state.stopped = other.state.stopped) :
    ∃ response after twin later, server.serve request logged = (.returned response, after) ∧
      server.serve request other = (.returned twin, later) ∧
      response.Alike server.options twin ∧ after.state.stopped = later.state.stopped := by
  cases hreception : server.reception request with
  | probe =>
    exact ⟨_, _, _, _, serve_of_probe hreception _, serve_of_probe hreception _, .same, hstopped⟩
  | stopped =>
    exact ⟨_, _, _, _, serve_of_stopped hreception _, serve_of_stopped hreception _, .same,
      hstopped⟩
  | refused refusal =>
    exact ⟨_, _, _, _, serve_of_refused hreception _, serve_of_refused hreception _, .same,
      hstopped⟩
  | admitted =>
    obtain ⟨course, htakes⟩ := server.exists_takes request.body (server.visit request logged.state)
    have hvisit : (server.visit request logged.state).Alike (server.visit request other.state) :=
      ⟨rfl, rfl, hstopped⟩
    obtain ⟨twin, htakes', halike⟩ := htakes.alike hstateless hvisit
    obtain ⟨noted, hanswer⟩ := answer_of_takes htakes logged.log
    obtain ⟨noted', hanswer'⟩ := answer_of_takes htakes' other.log
    refine ⟨_, _, _, _, (serve_of_admitted hreception _).trans hanswer,
      (serve_of_admitted hreception _).trans hanswer', ?_, halike.after.stopped⟩
    rw [halike.after.exchange]
    exact halike.stage.respond _ _ _

namespace Deployment

/-- How a deployment answers the requests among occurrences in order. -/
def answers : List Occurrence → Logged (Deployment σ) → List (Ending Response)
  | [], _ => []
  | .request request :: occurrences, logged =>
    (serve request logged).1 :: answers occurrences (serve request logged).2
  | .stop :: occurrences, logged => answers occurrences (stop logged).2

/-- Deployments of one server, which the host's code has stopped in both or in neither. -/
structure Twins (server : Server σ) (logged other : Logged (Deployment σ)) : Prop where
  one : logged.state.server = server
  another : other.state.server = server
  stopped : logged.state.world.stopped = other.state.world.stopped

variable {server : Server σ} {logged other : Logged (Deployment σ)}

theorem Twins.stop (h : Twins server logged other) :
    Twins server.stop (stop logged).2 (stop other).2 := by
  refine ⟨?_, ?_, h.stopped⟩
  · rw [stop_server, h.one]
  · rw [stop_server, h.another]

theorem Twins.serve (h : Twins server logged other) (hstateless : server.Stateless)
    (request : Request) :
    Ending.Both (Response.Alike server.options) (serve request logged).1 (serve request other).1 ∧
      (Twins server (serve request logged).2 (serve request other).2 ∨
        Twins server.stop (serve request logged).2 (serve request other).2) := by
  obtain ⟨hone, hanother, hstopped⟩ := h
  obtain ⟨response, after, twin, later, hserve, hserve', halike, hswitch⟩ :=
    Server.serve_alike hstateless request ⟨logged.state.world, logged.log⟩
      ⟨other.state.world, other.log⟩ hstopped
  rw [← hone] at hserve
  rw [← hanother] at hserve'
  obtain ⟨noted, hserve⟩ := serve_of_returned hserve
  obtain ⟨noted', hserve'⟩ := serve_of_returned hserve'
  rw [hserve, hserve', hone, hanother, ← hswitch]
  refine ⟨.returned halike, ?_⟩
  cases hafter : after.state.stopped with
  | true => exact .inr ⟨rfl, rfl, hafter.trans (hswitch.symm.trans hafter).symm⟩
  | false => exact .inl ⟨rfl, rfl, hafter.trans (hswitch.symm.trans hafter).symm⟩

theorem Twins.answers (h : Twins server logged other) (hstateless : server.Stateless)
    (occurrences : List Occurrence) :
    List.Forall₂ (Ending.Both (Response.Alike server.options)) (answers occurrences logged)
      (answers occurrences other) := by
  induction occurrences generalizing server logged other with
  | nil => exact .nil
  | cons occurrence occurrences ih =>
    cases occurrence with
    | request request =>
      obtain ⟨hanswer, hserver | hstopped⟩ := h.serve hstateless request
      · exact .cons hanswer (ih hserver hstateless)
      · have hrest := ih hstopped hstateless.stop
        exact .cons hanswer hrest
    | stop =>
      have hrest := ih h.stop hstateless.stop
      exact hrest

theorem Twins.answers_eq (h : Twins server logged other) (hstateless : server.Stateless)
    (hhidden : server.options.exposeBacktrace = false) (occurrences : List Occurrence) :
    Deployment.answers occurrences logged = Deployment.answers occurrences other := by
  have heq : ∀ {ending twin : Ending Response},
      ending.Both (Response.Alike server.options) twin → ending = twin := by
    rintro _ _ ⟨halike⟩
    rw [halike.eq_of_hidden hhidden]
  rw [← List.forall₂_eq_eq_eq]
  exact (h.answers hstateless occurrences).imp fun _ _ => heq

end Deployment

end Switchboard
