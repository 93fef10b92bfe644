import Mathlib.Tactic
import Switchboard.Proofs.Heads
import Switchboard.Proofs.Serving

/-!
# The gates before a body is read

A request passes gates in a fixed order: probes of health, a stop, the method, the size and the type.
The first gate that does not let it through answers it, and nothing runs for it.
-/

namespace Switchboard

namespace Request

/-- A request that only asks whether the server is there. -/
structure IsProbe (request : Request) : Prop where
  method : request.head.method = "GET"
  body : request.body = []
  query : request.head.target.query = none ∨ request.head.target.query = some ""

def IsBarred (request : Request) : Prop :=
  request.head.method = "PUT" ∨ request.head.method = "DELETE"

structure Fits (request : Request) (limit : Nat) : Prop where
  body : request.body.length ≤ limit
  declared : ∀ length, request.head.Declares length → length ≤ limit

def IsTyped (request : Request) (options : Options) : Prop :=
  request.head.method = "OPTIONS" ∨ options.requireJsonContentType = false ∨
    ∃ type ∈ acceptedContentTypes, request.head.HasType type

structure Passes (request : Request) (options : Options) (running : Prop) : Prop where
  call : ¬request.IsProbe
  running : running
  method : ¬request.IsBarred
  fits : request.Fits options.maxBodyBytes
  typed : request.IsTyped options

theorem isProbe_iff (request : Request) :
    request.head.isProbe request.body.length = true ↔ request.IsProbe := by
  have hquery : (request.head.target.query.getD "").isEmpty = true ↔
      request.head.target.query = none ∨ request.head.target.query = some "" := by
    cases request.head.target.query <;> simp [String.isEmpty_iff]
  rw [RequestHead.isProbe, Bool.and_eq_true, Bool.and_eq_true, hquery, beq_iff_eq, beq_iff_eq,
    List.length_eq_zero_iff]
  exact ⟨fun ⟨⟨hmethod, hbody⟩, hquery⟩ => ⟨hmethod, hbody, hquery⟩,
    fun h => ⟨⟨h.method, h.body⟩, h.query⟩⟩

theorem fits_iff (request : Request) (limit : Nat) :
    request.Fits limit ↔ max request.head.declaredLength request.body.length ≤ limit := by
  rw [max_le_iff]
  constructor
  · exact fun h => ⟨h.declared _ (RequestHead.declares_iff.2 rfl), h.body⟩
  · rintro ⟨hdeclared, hbody⟩
    refine ⟨hbody, fun length hlength => ?_⟩
    rwa [← RequestHead.declares_iff.1 hlength]

end Request

/-! ## Receptions -/

namespace Options

variable {options : Options} {request : Request}

theorem refusal?_of_isBarred (h : request.IsBarred) :
    options.refusal? request.head request.body.length = some .methodNotAllowed := by
  rw [refusal?, if_pos (by simpa [Request.IsBarred] using h)]

theorem refusal?_of_not_fits (hmethod : ¬request.IsBarred)
    (hfits : ¬request.Fits options.maxBodyBytes) :
    options.refusal? request.head request.body.length =
      some (.tooLarge (max request.head.declaredLength request.body.length)
        options.maxBodyBytes) := by
  rw [Request.fits_iff, not_le] at hfits
  rw [refusal?, if_neg (by simpa [Request.IsBarred] using hmethod), if_pos hfits]

private theorem refusal?_of_fits (hmethod : ¬request.IsBarred)
    (hfits : request.Fits options.maxBodyBytes) :
    options.refusal? request.head request.body.length =
      if request.head.method == "OPTIONS" || !options.requireJsonContentType then none
      else if acceptedContentTypes.contains request.head.mediaType then none
      else some .unsupportedType := by
  rw [Request.fits_iff, ← not_lt] at hfits
  rw [refusal?, if_neg (by simpa [Request.IsBarred] using hmethod), if_neg hfits]

private theorem isTyped_iff : request.IsTyped options ↔
    (request.head.method == "OPTIONS" || !options.requireJsonContentType) = true ∨
      acceptedContentTypes.contains request.head.mediaType = true := by
  rw [RequestHead.acceptedContentTypes_contains_iff, Request.IsTyped, ← or_assoc]
  simp

theorem refusal?_of_not_isTyped (hmethod : ¬request.IsBarred)
    (hfits : request.Fits options.maxBodyBytes) (htyped : ¬request.IsTyped options) :
    options.refusal? request.head request.body.length = some .unsupportedType := by
  rw [isTyped_iff, not_or] at htyped
  rw [refusal?_of_fits hmethod hfits, if_neg htyped.1, if_neg htyped.2]

theorem refusal?_of_isTyped (hmethod : ¬request.IsBarred)
    (hfits : request.Fits options.maxBodyBytes) (htyped : request.IsTyped options) :
    options.refusal? request.head request.body.length = none := by
  rw [refusal?_of_fits hmethod hfits]
  rcases isTyped_iff.1 htyped with hidle | haccepted
  · rw [if_pos hidle]
  · rw [if_pos haccepted, ite_self]

end Options

namespace Server

section Reception

variable {server : Server σ} {request : Request}

theorem reception_of_isProbe (h : request.IsProbe) : server.reception request = .probe := by
  rw [reception, Options.admission, if_pos (request.isProbe_iff.2 h)]

theorem reception_of_stopped (hcall : ¬request.IsProbe) (hrunning : ¬server.running = true) :
    server.reception request = .stopped := by
  rw [← request.isProbe_iff] at hcall
  rw [reception, Options.admission, if_neg hcall, if_pos (by simpa using hrunning)]

theorem reception_of_refusal {refusal : Refusal} (hcall : ¬request.IsProbe)
    (hrunning : server.running = true)
    (h : server.options.refusal? request.head request.body.length = some refusal) :
    server.reception request = .refused refusal := by
  rw [← request.isProbe_iff] at hcall
  rw [reception, Options.admission, if_neg hcall, if_neg (by simpa using hrunning), h]

theorem reception_of_passes (h : request.Passes server.options (server.running = true)) :
    server.reception request = .admitted := by
  have hcall := h.call
  rw [← request.isProbe_iff] at hcall
  rw [reception, Options.admission, if_neg hcall, if_neg (by simpa using h.running),
    Options.refusal?_of_isTyped h.method h.fits h.typed]

theorem passes_of_admitted (h : server.reception request = .admitted) :
    request.Passes server.options (server.running = true) := by
  have hcall : ¬request.IsProbe := fun hprobe => by
    simp [reception_of_isProbe hprobe] at h
  have hrunning : server.running = true := by
    by_contra hstopped
    simp [reception_of_stopped hcall hstopped] at h
  have hrefusal : ∀ refusal,
      server.options.refusal? request.head request.body.length ≠ some refusal :=
    fun refusal hsome => by simp [reception_of_refusal hcall hrunning hsome] at h
  have hmethod : ¬request.IsBarred := fun hbarred =>
    hrefusal _ (Options.refusal?_of_isBarred hbarred)
  have hfits : request.Fits server.options.maxBodyBytes := by
    by_contra hlarge
    exact hrefusal _ (Options.refusal?_of_not_fits hmethod hlarge)
  refine ⟨hcall, hrunning, hmethod, hfits, ?_⟩
  by_contra htyped
  exact hrefusal _ (Options.refusal?_of_not_isTyped hmethod hfits htyped)

end Reception

end Server

/-! ## Answers at the gates -/

/-- A status with a line of text, of which nobody should guess the type. -/
structure Response.Refuses (response : Response) (status : Nat) (line : String) : Prop where
  status : response.status = status
  body : response.body = (line ++ "\n").toUTF8.toList
  headers : response.headers.entries =
    [("content-type", "text/plain; charset=utf-8"), ("x-content-type-options", "nosniff")]

theorem Response.refuses_plain (status : Nat) (line : String) :
    (plain status line).Refuses status line where
  status := rfl
  body := rfl
  headers := by
    have hentries : (Headers.ofList [("content-type", plainContentType),
          ("x-content-type-options", "nosniff")]).entries =
        [("content-type", plainContentType), ("x-content-type-options", "nosniff")] := by
      decide +kernel
    exact hentries

/-- A response is what the first gate says that does not let a request through, and what the call
of the request leaves if all gates do. -/
structure Server.Gates (server : Server σ) (running : Prop) (world : World σ) (request : Request)
    (response : Response) : Prop where
  closed : ¬request.Passes server.options running → server.servedRuns request world = []
  probe : request.IsProbe → response = { status := 200, headers := {}, body := [] }
  stopped : ¬request.IsProbe → ¬running → response.Refuses 503 "server is stopped"
  barred : ¬request.IsProbe → running → request.IsBarred →
    response.Refuses 405 "method not allowed"
  large : ¬request.IsProbe → running → ¬request.IsBarred →
    ¬request.Fits server.options.maxBodyBytes →
    ∃ declared, request.head.Declares declared ∧
      response.Refuses 413 ("content length too large (" ++
        Nat.repr (max declared request.body.length) ++ ">" ++
        Nat.repr server.options.maxBodyBytes ++ ")")
  untyped : ¬request.IsProbe → running → ¬request.IsBarred →
    request.Fits server.options.maxBodyBytes → ¬request.IsTyped server.options →
    response.Refuses 415 "invalid content type, only application/json is supported"
  opened : request.Passes server.options running →
    ∃ course, server.Takes request.body (server.visit request world) course ∧
      server.servedRuns request world = course.runs ∧
      response = respond course.after.exchange
        (course.stage.reply server.options (Message.sent request.body))

namespace Server

theorem servedRuns_of_not_passes {server : Server σ} {request : Request}
    (h : ¬request.Passes server.options (server.running = true)) (world : World σ) :
    server.servedRuns request world = [] :=
  servedRuns_of_not_admitted (fun hadmitted => h (passes_of_admitted hadmitted)) world

theorem serve_gates (server : Server σ) (request : Request) (logged : Logged (World σ)) :
    ∃ response after, server.serve request logged = (.returned response, after) ∧
      server.Gates (server.running = true) logged.state request response := by
  obtain ⟨response, after, hserve⟩ := server.serve_returns request logged
  -- how the request is received decides the response
  have hrefused : ∀ {refusal}, server.reception request = .refused refusal →
      response.Refuses refusal.status refusal.message := by
    intro refusal hrefusal
    cases hserve.symm.trans (serve_of_refused hrefusal logged)
    exact Response.refuses_plain _ _
  refine ⟨response, after, hserve, ?_⟩
  constructor
  case closed => exact fun h => servedRuns_of_not_passes h logged.state
  case probe =>
    intro h
    cases hserve.symm.trans (serve_of_probe (reception_of_isProbe h) logged)
    rfl
  case stopped =>
    intro hcall hrunning
    cases hserve.symm.trans (serve_of_stopped (reception_of_stopped hcall hrunning) logged)
    exact Response.refuses_plain _ _
  case barred =>
    intro hcall hrunning hbarred
    exact hrefused (reception_of_refusal hcall hrunning (Options.refusal?_of_isBarred hbarred))
  case large =>
    intro hcall hrunning hmethod hfits
    exact ⟨_, RequestHead.declares_iff.2 rfl, hrefused
      (reception_of_refusal hcall hrunning (Options.refusal?_of_not_fits hmethod hfits))⟩
  case untyped =>
    intro hcall hrunning hmethod hfits htyped
    exact hrefused (reception_of_refusal hcall hrunning
      (Options.refusal?_of_not_isTyped hmethod hfits htyped))
  case opened =>
    intro h
    have hadmitted := reception_of_passes h
    obtain ⟨course, htakes⟩ := server.exists_takes request.body (server.visit request logged.state)
    obtain ⟨noted, hanswer⟩ := answer_of_takes htakes logged.log
    cases hserve.symm.trans ((serve_of_admitted hadmitted logged).trans hanswer)
    exact ⟨course, htakes, servedRuns_of_takes hadmitted htakes, rfl⟩

end Server

namespace Deployment

/-- Whatever was served before, a deployment that is not stopped runs something for a request only
if the request passes all the gates, and answers it at the first that is closed. Once it is stopped,
by whomever, it answers probes and refuses everything else. -/
theorem serve_past_gates (deployment : Deployment σ) (occurrences : List Occurrence)
    (log : List Event) (request : Request) :
    ∃ now response later, after occurrences ⟨deployment, log⟩ = now ∧
      serve request now = (.returned response, later) ∧
      now.state.server.options = deployment.server.options ∧
      now.state.server.Gates
        (deployment.server.running = true ∧ ¬StoppedBy occurrences ⟨deployment, log⟩)
        now.state.world request response ∧
      (.stop ∈ occurrences → StoppedBy occurrences ⟨deployment, log⟩) ∧
      (StoppedBy occurrences ⟨deployment, log⟩ → ¬request.IsProbe →
        response.Refuses 503 "server is stopped") := by
  obtain ⟨running, hserver, hrunning⟩ := after_server occurrences ⟨deployment, log⟩
  let now := after occurrences ⟨deployment, log⟩
  obtain ⟨response, later, hserve, hgates⟩ :=
    now.state.server.serve_gates request ⟨now.state.world, now.log⟩
  have hstate : (now.state.server.running = true) =
      (deployment.server.running = true ∧ ¬StoppedBy occurrences ⟨deployment, log⟩) := by
    rw [hserver]
    exact propext hrunning
  rw [hstate] at hgates
  obtain ⟨noted, hserved⟩ := serve_of_returned hserve
  refine ⟨now, response, _, rfl, hserved, by rw [hserver], hgates, fun h => stoppedBy_of_mem h _, ?_⟩
  exact fun hstop hcall => hgates.stopped hcall fun h => h.2 hstop

end Deployment

end Switchboard
