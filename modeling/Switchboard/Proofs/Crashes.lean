import Mathlib.Tactic
import Switchboard.Proofs.Order
import Switchboard.Proofs.Stateless

/-!
# Crashes are contained

A panic of a middleware or of the method ends its call and nothing else: the request is answered
with a report, a response that was written stands, and the server goes on as before. What a report
takes from its thread is the backtrace that it holds, so that a crash can show in a later report.
-/

namespace Switchboard

namespace Chain

theorem Passes.append {path : String} {place : Nat} {ahead rest : List (Middleware σ)}
    {visit between after : Visit σ} {before runs : List Run}
    {ending : Ending (Except ServiceError Unit)}
    (h : Passes path place ahead visit before (.returned (.ok ())) between)
    (hrest : Passes path (place + ahead.length) rest between runs ending after) :
    Passes path place (ahead ++ rest) visit (before ++ runs) ending after := by
  generalize hpeace : (.returned (.ok ()) : Ending (Except ServiceError Unit)) = peace at h
  -- the place of the rest counts from the entry that is passed
  induction h with
  | done => exact hrest
  | skip hscope _ ih =>
    rw [List.length_cons, ← Nat.add_assoc, Nat.add_right_comm] at hrest
    exact .skip hscope (ih hrest hpeace)
  | pass hscope hhandler _ ih =>
    rw [List.length_cons, ← Nat.add_assoc, Nat.add_right_comm] at hrest
    exact .pass hscope hhandler (ih hrest hpeace)
  | stop | panic => cases hpeace

end Chain

/-- The middleware ahead of a run: what stands before it in the chain, and all of the chain if the
run is the method's. -/
def Run.ahead (chain : Chain σ) : Run → List (Middleware σ)
  | middleware place _ _ => chain.entries.take place
  | method _ _ _ => chain.entries

structure Panic (σ : Type) where
  before : List Run
  culprit : Run
  payload : PanicPayload
  left : Visit σ

namespace Server

/-- A call ends in a panic: of a middleware once those ahead of it returned in peace, or of the
method once all middleware did and the arguments were bound. -/
inductive Panics (server : Server σ) (address : Address) (plan : Plan σ) (params : Option Json)
    (visit : Visit σ) : Panic σ → Prop
  | middleware {ahead rest : List (Middleware σ)} {entry : Middleware σ} {before : List Run}
      {between left : Visit σ} {payload : PanicPayload} :
      server.chain.entries = ahead ++ entry :: rest →
      Chain.Passes address.path 0 ahead (Action.enterGuard visit) before
        (.returned (.ok ())) between →
      entry.scope.appliesTo address.path = true →
      entry.handler address.path between = (.panicked payload, left) →
      Panics server address plan params visit
        ⟨before, .middleware ahead.length address.path between.context.method, payload, left⟩
  | method {before : List Run} {between : Visit σ} {payload : PanicPayload} :
      Chain.Passes address.path 0 server.chain.entries (Action.enterGuard visit) before
        (.returned (.ok ())) between →
      plan.bind params = .ok method →
      method between.context between.world = (.panicked payload, world) →
      Panics server address plan params visit
        ⟨before, .method address.space address.method between.context.method, payload,
          { between with world }⟩

section Panics

variable {server : Server σ} {address : Address} {plan : Plan σ} {params : Option Json}
  {visit : Visit σ} {panic : Panic σ}

theorem Panics.calls (h : server.Panics address plan params visit panic) :
    server.Calls address plan params visit
      ⟨.crashed plan.name (Action.report panic.payload panic.left),
        panic.before ++ [panic.culprit], Action.leaveCrash panic.left⟩ := by
  cases h with
  | @middleware ahead rest entry before between left payload hentries hpasses hscope hhandler =>
    -- the rest of the chain starts with the culprit and goes no further
    have hstumble : Chain.Passes address.path (0 + ahead.length) (entry :: rest) between
        [.middleware ahead.length address.path between.context.method] (.panicked payload) left := by
      rw [Nat.zero_add]
      exact .panic hscope hhandler
    have hchain := hpasses.append hstumble
    rw [← hentries] at hchain
    exact .stumbled hchain
  | method hpasses hbind hmethod => exact .crashed hpasses hbind hmethod

theorem Panics.places (h : server.Panics address plan params visit panic) :
    panic.before.map Run.place? =
      (Chain.applicable address.path 0 (panic.culprit.ahead server.chain)).map some := by
  cases h with
  | middleware hentries hpasses =>
    rw [hpasses.places_of_ok, Run.ahead, hentries, List.take_left]
  | method hpasses => exact hpasses.places_of_ok

end Panics

end Server

/-- An answer that reports a panic in a call of the method of the given name, on a thread that holds
a backtrace or none. -/
structure Message.Reports (answer : Message) (id : Option Json) (method : String)
    (payload : PanicPayload) (held : Option Backtrace) (exposes : Bool) : Prop where
  id : answer.id = id
  error : answer.error = some
    { code := -32603
      message := "RPC method " ++ method ++ " handler crashed: " ++
        match payload with
        | .text s => s
        | .other => "non-string panic payload"
      data := if exposes then some (.string (Backtrace.told held)) else none }

theorem Stage.reply_reports {client : Message} (h : client.Identified) (options : Options)
    (method : String) (payload : PanicPayload) (left : Visit σ) :
    ((Stage.crashed method (Action.report payload left)).reply options client).Reports client.id
      method payload left.world.thread.slot options.exposeBacktrace := by
  obtain ⟨id, hid, -⟩ := h
  refine ⟨?_, ?_⟩
  · rw [reply, hid]
    rfl
  · cases payload <;> rfl

namespace Server

/-- A panic goes no further than the answer: nothing runs after the culprit, the answer reports the
panic, it is sent unless a response was written before, and the world is as the culprit leaves it, but
for a thread that is out of the guard and holds no backtrace. -/
structure Contains (server : Server σ) (request : Request) (world : World σ) (message : Message)
    (address : Address) (plan : Plan σ) (panic : Panic σ) (response : Response)
    (after : World σ) : Prop where
  runs : server.servedRuns request world = panic.before ++ [panic.culprit]
  ahead : panic.before.map Run.place? =
    (Chain.applicable address.path 0 (panic.culprit.ahead server.chain)).map some
  answer : ∀ log, ∃ answer noted,
    server.handle request.body ⟨server.visit request world, log⟩ = (.returned answer, noted) ∧
      answer.Reports message.id plan.name panic.payload panic.left.world.thread.slot
        server.options.exposeBacktrace ∧
      response = respond panic.left.exchange answer
  written : panic.left.exchange.isWritten = true → response = panic.left.exchange.response
  left : after = (Action.leaveCrash panic.left).world

theorem serve_contains {server : Server σ} {request : Request} {message : Message}
    {address : Address} {plan : Plan σ} {panic : Panic σ} {world : World σ}
    (hadmitted : server.reception request = .admitted)
    (htargets : server.Targets request.body message address plan)
    (hpanics : server.Panics address plan message.params
      ((server.visit request world).at address.path) panic) (log : List Event) :
    ∃ response after, server.serve request ⟨world, log⟩ = (.returned response, after) ∧
      server.Contains request world message address plan panic response after.state := by
  have htakes : server.Takes request.body (server.visit request world)
      ⟨.crashed plan.name (Action.report panic.payload panic.left),
        panic.before ++ [panic.culprit], Action.leaveCrash panic.left⟩ :=
    .called htargets hpanics.calls
  obtain ⟨noted, hanswer⟩ := answer_of_takes htakes log
  refine ⟨_, _, (serve_of_admitted hadmitted _).trans hanswer, ?_⟩
  constructor
  case runs => exact servedRuns_of_takes hadmitted htakes
  case ahead => exact hpanics.places
  case answer =>
    intro log
    obtain ⟨noted, hhandle⟩ := htakes.handle log
    rw [Message.sent_of_ok htargets.parsed] at hhandle ⊢
    exact ⟨_, _, hhandle, Stage.reply_reports htargets.identified _ _ _ _, rfl⟩
  case written => exact fun hwritten => respond_of_isWritten hwritten _
  case left => rfl

end Server

namespace Deployment

/-- Whatever panics while a request is served, the request is answered, and the server is left as it
was unless the host's code has stopped it. If its services are stateless, later requests are answered
as if this one had not been: exactly so where no backtraces are exposed, and else up to the backtrace
in the report of a crash. -/
theorem crashes_are_contained (deployment : Deployment σ) (request : Request) (log : List Event) :
    ∃ response later, serve request ⟨deployment, log⟩ = (.returned response, later) ∧
      later.state.server =
        (if later.state.world.stopped then deployment.server.stop else deployment.server) ∧
      (∀ message address plan panic, deployment.server.reception request = .admitted →
        deployment.server.Targets request.body message address plan →
        deployment.server.Panics address plan message.params
          ((deployment.server.visit request deployment.world).at address.path) panic →
        deployment.server.Contains request deployment.world message address plan panic response
          later.state.world) ∧
      (deployment.server.Stateless → deployment.world.stopped = false →
        later.state.world.stopped = false → ∀ occurrences,
          (deployment.server.options.exposeBacktrace = false →
            answers occurrences later = answers occurrences ⟨deployment, log⟩) ∧
          List.Forall₂ (Ending.Both (Response.Alike deployment.server.options))
            (answers occurrences later) (answers occurrences ⟨deployment, log⟩)) := by
  obtain ⟨response, later, hserve, hserver⟩ := serve_returns request ⟨deployment, log⟩
  refine ⟨response, later, hserve, hserver, ?_, ?_⟩
  · intro message address plan panic hadmitted htargets hpanics
    obtain ⟨answered, after, hanswered, hcontains⟩ :=
      Server.serve_contains hadmitted htargets hpanics log
    have hserved : ({ state := deployment, log } : Logged (Deployment σ)).state.server.serve request
        ⟨deployment.world, log⟩ = (.returned answered, after) := hanswered
    obtain ⟨noted, hserve'⟩ := serve_of_returned hserved
    cases hserve.symm.trans hserve'
    exact hcontains
  · intro hstateless hrunning hstopped occurrences
    rw [hstopped] at hserver
    have htwins : Twins deployment.server later ⟨deployment, log⟩ :=
      ⟨hserver, rfl, hstopped.trans hrunning.symm⟩
    exact ⟨fun hhidden => htwins.answers_eq hstateless hhidden occurrences,
      htwins.answers hstateless occurrences⟩

def fragile : Server Unit where
  options := { requireJsonContentType := false }
  registry := Server.quiet.registry
  chain :=
    ⟨{ scope := .ofScope .snake .all
       handler := fun _ visit =>
         (.panicked .other, { visit with exchange := visit.exchange.abortWithStatus 401 }) } ::
      Server.quiet.chain.entries⟩

theorem fragile_stateless : fragile.Stateless where
  middleware entry hentry path visit other hvisit := by
    rcases List.mem_cons.1 hentry with rfl | hentry
    · refine ⟨rfl, hvisit.context, ?_, hvisit.stopped⟩
      change visit.exchange.abortWithStatus 401 = other.exchange.abortWithStatus 401
      rw [hvisit.exchange]
    · obtain rfl := List.mem_singleton.1 hentry
      exact ⟨rfl, hvisit⟩
  methods space entry name plan params method hservice hplan hbind context world other hstopped := by
    cases List.mem_singleton.1 (Registry.mem_of_service? hservice)
    cases List.mem_singleton.1 (MethodTable.mem_of_get? hplan)
    obtain ⟨values, rfl⟩ := Plan.ofHandler_bind_ok hbind
    exact ⟨rfl, hstopped⟩

theorem fragile_targets :
    ∃ message, fragile.Targets Server.quietBody message ⟨"tea", "pour"⟩
      (.ofHandler "pour" (.pure [] .nothing fun _ => ())) := by
  obtain ⟨message, hasks⟩ : ∃ message, fragile.Asks Server.quietBody message ⟨"tea", "pour"⟩ :=
    Server.exists_asks_of_parse_any "tea".toList "pour".toList (by decide) (by decide +kernel)
  exact ⟨message, hasks, _, rfl, rfl⟩

theorem fragile_crash_is_contained :
    ∃ response later,
      serve { body := Server.quietBody } ⟨⟨fragile, { host := () }⟩, []⟩ =
        (.returned response, later) ∧
      response.status = 401 ∧ response.body = [] ∧ later.state.server = fragile ∧
      fragile.servedRuns { body := Server.quietBody } { host := () } =
        [.middleware 0 "tea.pour" "tea.pour"] ∧
      ∀ occurrences,
        answers occurrences later = answers occurrences ⟨⟨fragile, { host := () }⟩, []⟩ := by
  obtain ⟨response, later, hserve, hserver, hcontains, hlater⟩ :=
    crashes_are_contained ⟨fragile, { host := () }⟩ { body := Server.quietBody } []
  obtain ⟨message, htargets⟩ := fragile_targets
  have hcrash := hcontains message _ _ _ (by decide +kernel) htargets
    (.middleware rfl .done (by decide +kernel) rfl)
  have hrunning : later.state.world.stopped = false := by
    rw [hcrash.left]
    rfl
  rw [hrunning] at hserver
  refine ⟨response, later, hserve, ?_, ?_, hserver, hcrash.runs, fun occurrences =>
    (hlater fragile_stateless rfl hrunning occurrences).1 rfl⟩
  · rw [hcrash.written rfl]
    rfl
  · rw [hcrash.written rfl]
    rfl

/-- A server that exposes backtraces, with a method that swallows a panic, one that panics, and one
that unwinds without telling the thread. -/
def jumpy : Server Unit where
  options := { requireJsonContentType := false, exposeBacktrace := true }
  registry :=
    { naming := .snake
      services := [("tea", {
        name := "tea"
        typeName := "Tea"
        methods := ⟨[
          ("spill", .ofHandler "spill" (.acting [] .nothing fun _ => do
            let _ ← Action.swallow (Action.panic (.text "stale")))),
          ("boil", .ofHandler "boil" (.acting [] .nothing fun _ => Action.panic (.text "boom"))),
          ("steep", .ofHandler "steep"
            (.acting [] .nothing fun _ => Action.unwind (.text "then")))]⟩ })] }

theorem jumpy_stateless : jumpy.Stateless where
  middleware entry hentry := by cases hentry
  methods space entry name plan params method hservice hplan hbind context world other hstopped := by
    cases List.mem_singleton.1 (Registry.mem_of_service? hservice)
    rcases List.mem_cons.1 (MethodTable.mem_of_get? hplan) with hspill | hrest
    · cases hspill
      obtain ⟨values, rfl⟩ := Plan.ofHandler_bind_ok hbind
      exact ⟨rfl, hstopped⟩
    rcases List.mem_cons.1 hrest with hboil | hsteep
    · cases hboil
      obtain ⟨values, rfl⟩ := Plan.ofHandler_bind_ok hbind
      exact ⟨rfl, hstopped⟩
    · cases List.mem_singleton.1 hsteep
      obtain ⟨values, rfl⟩ := Plan.ofHandler_bind_ok hbind
      exact ⟨rfl, hstopped⟩

def jumpyRequest (method : String) : Request where
  body := ("\x7b\"id\":1,\"method\":\"tea." ++ method ++ "\"\x7d").toUTF8.data.toList

def jumpyReply (members : String) : Response where
  headers := .ofList
    [("x-content-type-options", "nosniff"), ("content-type", "application/json; charset=utf-8")]
  body := ("\x7b\"id\":1,\"jsonrpc\":\"2.0\"" ++ members ++ "\x7d").toUTF8.data.toList

def jumpyReport (method text backtrace : String) : Response :=
  jumpyReply (",\"error\":\x7b\"code\":-32603,\"message\":\"RPC method " ++ method ++
    " handler crashed: " ++ text ++ "\",\"data\":\"" ++ backtrace ++ "\"\x7d")

/-- A server whose second middleware puts another exchange in the place of the one that the first has
written to, stops the server, and panics. -/
def quitting : Server Unit where
  options := { requireJsonContentType := false }
  registry := Server.quiet.registry
  chain :=
    ⟨[{ scope := .ofScope .snake .all
        handler := fun _ visit =>
          (.returned (.ok ()), { visit with exchange := visit.exchange.abortWithStatus 401 }) },
      { scope := .ofScope .snake .all
        handler := fun _ visit =>
          (.panicked .other,
            { visit with
              exchange := { request := visit.exchange.request }
              world.stopped := true }) }]⟩

def quittingReport : Response where
  headers := .ofList [("content-type", "application/json; charset=utf-8")]
  body := ("\x7b\"id\":1,\"jsonrpc\":\"2.0\",\"error\":\x7b\"code\":-32603,\"message\":" ++
    "\"RPC method pour handler crashed: non-string panic payload\"\x7d\x7d").toUTF8.data.toList

/-- The crash in between takes the backtrace that the first request left on the thread, and that the
last one reports otherwise. The other crash comes from code that stops the server, and that has put
another exchange in the place of the one with a response. -/
theorem crash_shows_in_later_report :
    jumpy.Stateless ∧
      answers [.request (jumpyRequest "spill"), .request (jumpyRequest "steep")]
          ⟨⟨jumpy, { host := () }⟩, []⟩ =
        [.returned (jumpyReply ""),
          .returned (jumpyReport "steep" "then" "backtrace of panic 1")] ∧
      answers [.request (jumpyRequest "spill"), .request (jumpyRequest "boil"),
          .request (jumpyRequest "steep")] ⟨⟨jumpy, { host := () }⟩, []⟩ =
        [.returned (jumpyReply ""),
          .returned (jumpyReport "boil" "boom" "backtrace of panic 2"),
          .returned (jumpyReport "steep" "then" "")] ∧
      (serve { body := Server.quietBody } ⟨⟨quitting, { host := () }⟩, []⟩).1 =
        .returned quittingReport ∧
      (serve { body := Server.quietBody } ⟨⟨quitting, { host := () }⟩, []⟩).2.state.server.running =
        false := by
  refine ⟨jumpy_stateless, ?_, ?_, ?_, ?_⟩
  all_goals decide +kernel

end Deployment

end Switchboard
