import Mathlib.Tactic
import Switchboard.Proofs.Gates

/-!
# The route and the server behind it

A request whose body the route reads is answered with the status that its server gives. A body that
is too large even for the route is refused there, before anyone asks whether the server runs and
which method was used.
-/

namespace Switchboard

namespace Options

theorem maxBodyBytes_lt_of_bufferLimit_lt {options : Options} {length : Nat}
    (hlimit : options.maxBodyBytes ≤ maxWord) (h : options.bufferLimit < length) :
    options.maxBodyBytes < length := by
  unfold bufferLimit at h
  omega

end Options

theorem Response.status_withLength (response : Response) :
    response.withLength.status = response.status := by
  rw [withLength]
  split <;> rfl

namespace Server

variable {server : Server σ} {request : Request} {logged after : Logged (World σ)}

theorem receive_of_buffered (h : request.body.length ≤ server.options.bufferLimit) :
    server.receive ⟨request, false⟩ = server.serve request := by
  rw [receive, if_neg (Nat.not_lt.2 h), if_neg Bool.false_ne_true]

theorem receive_of_oversized (h : server.options.bufferLimit < request.body.length)
    (logged : Logged (World σ)) :
    ∃ after, server.receive ⟨request, false⟩ logged =
      (.returned (routeReply 413 "request body too large"), after) := by
  rw [receive, if_pos h]
  exact ⟨_, rfl⟩

theorem exists_route_of_receive (hpath : request.head.target.path = server.options.path)
    {received : Response}
    (h : server.receive ⟨request, false⟩ logged = (.returned received, after)) :
    ∃ response, server.route ⟨request, false⟩ logged = (.returned response, after) ∧
      response.status = received.status := by
  have hroute : server.route ⟨request, false⟩ logged =
      (.returned (if request.head.method == "HEAD" then received.withLength.withoutBody
        else received.withLength), after) := by
    simp only [route, hpath, beq_self_eq_true, if_true]
    exact Action.bind_of_returned h
  refine ⟨_, hroute, ?_⟩
  split
  · exact received.status_withLength
  · exact received.status_withLength

theorem exists_serve_of_oversized (h : server.options.maxBodyBytes < request.body.length)
    (logged : Logged (World σ)) :
    ∃ response after, server.serve request logged = (.returned response, after) ∧
      (response.status = 413 ↔ server.running = true ∧ ¬request.IsBarred) := by
  have hcall : ¬request.IsProbe := fun hprobe => by
    simp [hprobe.body] at h
  have hfits : ¬request.Fits server.options.maxBodyBytes := fun hfits =>
    absurd hfits.body (Nat.not_le.2 h)
  by_cases hrunning : server.running = true
  · by_cases hbarred : request.IsBarred
    · have hrefused := reception_of_refusal hcall hrunning (Options.refusal?_of_isBarred hbarred)
      refine ⟨_, _, serve_of_refused hrefused logged, ?_⟩
      simp [hbarred, Response.plain, Refusal.status]
    · have hrefused :=
        reception_of_refusal hcall hrunning (Options.refusal?_of_not_fits hbarred hfits)
      refine ⟨_, _, serve_of_refused hrefused logged, ?_⟩
      simp [hrunning, hbarred, Response.plain, Refusal.status]
  · refine ⟨_, _, serve_of_stopped (reception_of_stopped hcall hrunning) logged, ?_⟩
    simp [hrunning, Response.plain]

/-- The route answers with the status of its server unless the body is more than the route reads,
and the server is stopped or the method is one that no call is made with. -/
theorem route_status_eq_iff (hlimit : server.options.maxBodyBytes ≤ maxWord)
    (hpath : request.head.target.path = server.options.path) (logged : Logged (World σ)) :
    ∃ routed served after later,
      server.route ⟨request, false⟩ logged = (.returned routed, after) ∧
      server.serve request logged = (.returned served, later) ∧
      (routed.status = served.status ↔
        request.body.length ≤ server.options.bufferLimit ∨
          server.running = true ∧ ¬request.IsBarred) := by
  by_cases hbuffered : request.body.length ≤ server.options.bufferLimit
  · obtain ⟨served, later, hserve⟩ := server.serve_returns request logged
    have hreceive := (congrFun (receive_of_buffered hbuffered) logged).trans hserve
    obtain ⟨routed, hroute, hstatus⟩ := exists_route_of_receive hpath hreceive
    exact ⟨routed, served, _, _, hroute, hserve, iff_of_true hstatus (.inl hbuffered)⟩
  · have hlarge := Nat.lt_of_not_le hbuffered
    obtain ⟨after, hreceive⟩ := receive_of_oversized hlarge logged
    obtain ⟨routed, hroute, hrouted⟩ := exists_route_of_receive hpath hreceive
    obtain ⟨served, later, hserve, hserved⟩ := exists_serve_of_oversized
      (Options.maxBodyBytes_lt_of_bufferLimit_lt hlimit hlarge) logged
    refine ⟨routed, served, _, _, hroute, hserve, ?_⟩
    rw [hrouted, or_iff_right hbuffered, ← hserved]
    exact eq_comm

def bodiless : Server Unit where
  options := { maxBodyBytes := 0 }
  registry := {}

def blanks : Request where
  body := [32, 32]

theorem bodiless_route_status_eq :
    bodiless.options.maxBodyBytes ≤ maxWord ∧
      blanks.head.target.path = bodiless.options.path ∧
      ∃ routed served after later,
        bodiless.route ⟨blanks, false⟩ ⟨{ host := () }, []⟩ = (.returned routed, after) ∧
        bodiless.serve blanks ⟨{ host := () }, []⟩ = (.returned served, later) ∧
        routed.status = served.status := by
  have hlimit : bodiless.options.maxBodyBytes ≤ maxWord := Nat.zero_le _
  have hpath : blanks.head.target.path = bodiless.options.path := rfl
  have hpost : ¬blanks.IsBarred := by
    unfold Request.IsBarred
    decide
  obtain ⟨routed, served, after, later, hroute, hserve, hiff⟩ :=
    route_status_eq_iff hlimit hpath ⟨{ host := () }, []⟩
  exact ⟨hlimit, hpath, routed, served, after, later, hroute, hserve, hiff.2 (.inr ⟨rfl, hpost⟩)⟩

/-- A stopped server refuses a request in another way than the route in front of it. -/
theorem stopped_route_status_ne :
    ∃ routed served after later,
      bodiless.stop.route ⟨blanks, false⟩ ⟨{ host := () }, []⟩ = (.returned routed, after) ∧
      bodiless.stop.serve blanks ⟨{ host := () }, []⟩ = (.returned served, later) ∧
      routed.status = 413 ∧ served.status = 503 := by
  have hlarge : bodiless.stop.options.bufferLimit < blanks.body.length := by decide
  have hpath : blanks.head.target.path = bodiless.stop.options.path := rfl
  obtain ⟨after, hreceive⟩ := receive_of_oversized hlarge ⟨{ host := () }, []⟩
  obtain ⟨routed, hroute, hstatus⟩ := exists_route_of_receive hpath hreceive
  exact ⟨routed, _, after, _, hroute, rfl, hstatus, rfl⟩

end Server

end Switchboard
