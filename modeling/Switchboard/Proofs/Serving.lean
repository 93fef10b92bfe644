import Mathlib.Tactic
import Switchboard.Proofs.Record
import Switchboard.Server.Deployment

/-!
# Serving requests

An admitted request is answered with what its course leaves: the response that was written, or else
the reply at its last stage. A deployment that serves keeps its server, but for a stop.
-/

namespace Switchboard

theorem Action.visiting_of_returned {context : Context} {exchange : Exchange}
    {action : Action (Logged (Visit σ)) α} {world : World σ} {log noted : List Event} {value : α}
    {after : Visit σ}
    (h : action ⟨⟨context, exchange, world⟩, log⟩ = (.returned value, ⟨after, noted⟩)) :
    visiting context exchange action ⟨world, log⟩ =
      (.returned (value, after.exchange), ⟨after.world, noted⟩) := by
  simp only [visiting, h]

namespace Server

def visit (server : Server σ) (request : Request) (world : World σ) : Visit σ where
  context := .ofRequest request.head.headers request.extensions server.options.requestIdHeader
  exchange :=
    { request := request.head, headers := .ofList [("x-content-type-options", "nosniff")] }
  world := world

/-- The response of a request whose call left an exchange and is answered with a message. -/
def respond (exchange : Exchange) (answer : Message) : Response :=
  (exchange.write 200 (some jsonContentType) answer.text.toUTF8.toList).response

theorem respond_of_isWritten {exchange : Exchange} (h : exchange.isWritten = true)
    (answer : Message) : respond exchange answer = exchange.response := by
  rw [respond, Exchange.write, Exchange.tryWrite, if_pos h]

theorem answer_of_takes {server : Server σ} {request : Request} {world : World σ}
    {course : Course σ} (h : server.Takes request.body (server.visit request world) course)
    (log : List Event) :
    ∃ noted, server.answer request ⟨world, log⟩ =
      (.returned (respond course.after.exchange
        (course.stage.reply server.options (Message.sent request.body))),
        ⟨course.after.world, noted⟩) := by
  obtain ⟨noted, hhandle⟩ := h.handle log
  exact ⟨_, Action.bind_of_returned (Action.visiting_of_returned hhandle)⟩

def reception (server : Server σ) (request : Request) : Admission :=
  server.options.admission server.running request.head request.body.length

section Reception

variable {server : Server σ} {request : Request}

theorem serve_of_probe (h : server.reception request = .probe) (logged : Logged (World σ)) :
    server.serve request logged = (.returned {}, logged) := by
  rw [reception] at h
  rw [serve, h]
  rfl

theorem serve_of_stopped (h : server.reception request = .stopped) (logged : Logged (World σ)) :
    server.serve request logged = (.returned (.plain 503 "server is stopped"), logged) := by
  rw [reception] at h
  rw [serve, h]
  rfl

theorem serve_of_refused {refusal : Refusal} (h : server.reception request = .refused refusal)
    (logged : Logged (World σ)) :
    server.serve request logged =
      (.returned (.plain refusal.status refusal.message),
        { logged with log := logged.log ++ [rejectedEvent refusal] }) := by
  rw [reception] at h
  rw [serve, h]
  rfl

theorem serve_of_admitted (h : server.reception request = .admitted) (logged : Logged (World σ)) :
    server.serve request logged = server.answer request logged := by
  rw [reception] at h
  rw [serve, h]

end Reception

/-- What a server runs to serve a request. -/
def servedRuns (server : Server σ) (request : Request) (world : World σ) : List Run :=
  (server.recording.serve request ⟨world.recorded [], []⟩).2.state.host.runs

theorem reception_recording (server : Server σ) (request : Request) :
    server.recording.reception request = server.reception request :=
  rfl

theorem servedRuns_of_takes {server : Server σ} {request : Request} {world : World σ}
    {course : Course σ} (h : server.reception request = .admitted)
    (htakes : server.Takes request.body (server.visit request world) course) :
    server.servedRuns request world = course.runs := by
  have hrecorded : server.recording.Takes request.body
      (server.recording.visit request (world.recorded [])) (course.recorded []) :=
    htakes.recorded []
  obtain ⟨noted, hanswer⟩ := answer_of_takes hrecorded []
  rw [← reception_recording] at h
  rw [servedRuns, serve_of_admitted h, hanswer]
  rfl

theorem servedRuns_of_not_admitted {server : Server σ} {request : Request}
    (h : server.reception request ≠ .admitted) (world : World σ) :
    server.servedRuns request world = [] := by
  rw [servedRuns]
  cases hreception : server.recording.reception request with
  | probe => rw [serve_of_probe hreception]; rfl
  | stopped => rw [serve_of_stopped hreception]; rfl
  | refused refusal => rw [serve_of_refused hreception]; rfl
  | admitted => exact absurd hreception h

theorem serve_returns (server : Server σ) (request : Request) (logged : Logged (World σ)) :
    ∃ response after, server.serve request logged = (.returned response, after) := by
  cases hreception : server.reception request with
  | probe => exact ⟨_, _, serve_of_probe hreception logged⟩
  | stopped => exact ⟨_, _, serve_of_stopped hreception logged⟩
  | refused refusal => exact ⟨_, _, serve_of_refused hreception logged⟩
  | admitted =>
    obtain ⟨course, htakes⟩ :=
      server.exists_takes request.body (server.visit request logged.state)
    obtain ⟨noted, hanswer⟩ := answer_of_takes htakes logged.log
    exact ⟨_, _, (serve_of_admitted hreception logged).trans hanswer⟩

end Server

inductive Occurrence
  | request (request : Request)
  | stop

namespace Deployment

theorem settle_apply (logged : Logged (Deployment σ)) :
    ∃ noted, settle logged = (.returned (),
      ⟨{ logged.state with
          server :=
            if logged.state.world.stopped then logged.state.server.stop else logged.state.server },
        noted⟩) := by
  unfold settle
  cases logged.state.world.stopped with
  | true => exact ⟨_, rfl⟩
  | false => exact ⟨_, rfl⟩

/-- A request that is served leaves the world that its server leaves, and the server alone unless
the host's code has stopped it. -/
theorem serve_of_returned {request : Request} {logged : Logged (Deployment σ)}
    {response : Response} {after : Logged (World σ)}
    (h : logged.state.server.serve request ⟨logged.state.world, logged.log⟩ =
      (.returned response, after)) :
    ∃ noted, serve request logged = (.returned response,
      ⟨{ server :=
            if after.state.stopped then logged.state.server.stop else logged.state.server
         world := after.state }, noted⟩) := by
  have hcurrent : current logged = (.returned logged.state.server, logged) := rfl
  have hserved : inWorld (logged.state.server.serve request) logged =
      (.returned response, ⟨{ logged.state with world := after.state }, after.log⟩) := by
    rw [inWorld, h]
  obtain ⟨noted, hsettle⟩ := settle_apply ⟨{ logged.state with world := after.state }, after.log⟩
  refine ⟨noted, (Action.bind_of_returned hcurrent).trans
    ((Action.bind_of_returned hserved).trans ?_)⟩
  exact Action.bind_of_returned hsettle

theorem serve_returns (request : Request) (logged : Logged (Deployment σ)) :
    ∃ response after, serve request logged = (.returned response, after) ∧
      after.state.server =
        if after.state.world.stopped then logged.state.server.stop else logged.state.server := by
  obtain ⟨response, after, hserve⟩ :=
    logged.state.server.serve_returns request ⟨logged.state.world, logged.log⟩
  obtain ⟨noted, hserve⟩ := serve_of_returned hserve
  exact ⟨response, _, hserve, rfl⟩

def after : List Occurrence → Logged (Deployment σ) → Logged (Deployment σ)
  | [], logged => logged
  | .request request :: occurrences, logged => after occurrences (serve request logged).2
  | .stop :: occurrences, logged => after occurrences (stop logged).2

theorem stop_server (logged : Logged (Deployment σ)) :
    (stop logged).2.state.server = logged.state.server.stop :=
  rfl

theorem serve_server (request : Request) (logged : Logged (Deployment σ)) :
    (serve request logged).2.state.server =
      if (serve request logged).2.state.world.stopped then logged.state.server.stop
      else logged.state.server := by
  obtain ⟨response, later, hserve, hserver⟩ := serve_returns request logged
  rw [hserve]
  exact hserver

/-- The server is stopped: between two requests, or by the host's code that one of them runs. -/
def StoppedBy : List Occurrence → Logged (Deployment σ) → Prop
  | [], _ => False
  | .stop :: _, _ => True
  | .request request :: occurrences, logged =>
    (serve request logged).2.state.world.stopped = true ∨
      StoppedBy occurrences (serve request logged).2

theorem stoppedBy_of_mem {occurrences : List Occurrence} (h : .stop ∈ occurrences)
    (logged : Logged (Deployment σ)) : StoppedBy occurrences logged := by
  induction occurrences generalizing logged with
  | nil => cases h
  | cons occurrence occurrences ih =>
    cases occurrence with
    | stop => trivial
    | request request =>
      have hrest : Occurrence.stop ∈ occurrences := by simpa using h
      exact .inr (ih hrest _)

theorem after_server (occurrences : List Occurrence) (logged : Logged (Deployment σ)) :
    ∃ running, (after occurrences logged).state.server = { logged.state.server with running } ∧
      (running = true ↔ logged.state.server.running = true ∧ ¬StoppedBy occurrences logged) := by
  induction occurrences generalizing logged with
  | nil => exact ⟨logged.state.server.running, rfl, by simp [StoppedBy]⟩
  | cons occurrence occurrences ih =>
    cases occurrence with
    | request request =>
      obtain ⟨running, hserver, hrunning⟩ := ih (serve request logged).2
      rw [serve_server] at hserver hrunning
      cases hstopped : (serve request logged).2.state.world.stopped with
      | true =>
        rw [hstopped, if_pos rfl] at hserver hrunning
        exact ⟨running, hserver, by simpa [Server.stop, StoppedBy, hstopped] using hrunning⟩
      | false =>
        rw [hstopped, if_neg (by simp)] at hserver hrunning
        exact ⟨running, hserver, by simpa [StoppedBy, hstopped] using hrunning⟩
    | stop =>
      obtain ⟨running, hserver, hrunning⟩ := ih (stop logged).2
      rw [stop_server] at hserver hrunning
      exact ⟨running, hserver, by simpa [Server.stop, StoppedBy] using hrunning⟩

end Deployment

end Switchboard
