import Mathlib.Tactic
import Switchboard.Proofs.Order
import Switchboard.Proofs.Serving
import Switchboard.Proofs.Writes

/-!
# What is sent in reply

Middleware may write to the exchange of its request, and so does the server at the end. The first of
these writes is what is sent, in all of its parts, as long as no middleware puts another exchange in
place.
-/

namespace Switchboard

open ExchangeEdit

/-! ## The edits of a request -/

/-- All that a middleware does to the exchange of a visit is to edit it: no host's code can do more,
but for one that puts another exchange in its place. -/
def Middleware.EditsBy (entry : Middleware σ) (edits : String → Visit σ → List ExchangeEdit) :
    Prop :=
  ∀ path visit, (entry.handler path visit).2.exchange = visit.exchange.applyAll (edits path visit)

theorem Middleware.EditsBy.of_handler {entry : Middleware σ}
    {edits : String → Visit σ → List ExchangeEdit} (h : entry.EditsBy edits) {path : String}
    {visit after : Visit σ} {ending : Ending (Except ServiceError Unit)}
    (hhandler : entry.handler path visit = (ending, after)) :
    after.exchange = visit.exchange.applyAll (edits path visit) := by
  have hexchange := h path visit
  rw [hhandler] at hexchange
  exact hexchange

namespace Chain

variable {edits : Middleware σ → String → Visit σ → List ExchangeEdit}

/-- The edits that entries make for a path, in order: those of an entry that applies, and then those
of the entries after it unless it fails. -/
def editsOf (edits : Middleware σ → String → Visit σ → List ExchangeEdit) (path : String) :
    List (Middleware σ) → Visit σ → List ExchangeEdit
  | [], _ => []
  | entry :: entries, visit =>
    if entry.scope.appliesTo path then
      edits entry path visit ++
        match entry.handler path visit with
        | (.returned (.ok ()), between) => editsOf edits path entries between
        | (.returned (.error _), _) | (.panicked _, _) => []
    else editsOf edits path entries visit

theorem Passes.exchange_eq {path : String} {place : Nat} {entries : List (Middleware σ)}
    {visit after : Visit σ} {runs : List Run} {ending : Ending (Except ServiceError Unit)}
    (h : Passes path place entries visit runs ending after)
    (hedits : ∀ entry ∈ entries, entry.EditsBy (edits entry)) :
    after.exchange = visit.exchange.applyAll (editsOf edits path entries visit) := by
  induction h with
  | done => rfl
  | skip hscope _ ih =>
    rw [editsOf, if_neg (by simp [hscope])]
    exact ih (List.forall_mem_cons.1 hedits).2
  | @pass between place rest runs ending after entry visit hscope hhandler _ ih =>
    obtain ⟨hentry, hrest⟩ := List.forall_mem_cons.1 hedits
    have hbetween := hentry.of_handler hhandler
    rw [editsOf, if_pos hscope, hhandler, Exchange.applyAll_append, ← hbetween]
    exact ih hrest
  | stop hscope hhandler | panic hscope hhandler =>
    have hentry := (List.forall_mem_cons.1 hedits).1
    rw [editsOf, if_pos hscope, hhandler, List.append_nil]
    exact hentry.of_handler hhandler

theorem forall_mem_editsOf {P : ExchangeEdit → Prop} {path : String} {entries : List (Middleware σ)}
    (h : ∀ entry ∈ entries, ∀ visit, ∀ edit ∈ edits entry path visit, P edit) (visit : Visit σ) :
    ∀ edit ∈ editsOf edits path entries visit, P edit := by
  induction entries generalizing visit with
  | nil => exact fun edit hedit => absurd hedit List.not_mem_nil
  | cons entry entries ih =>
    obtain ⟨hentry, hrest⟩ := List.forall_mem_cons.1 h
    intro edit hedit
    rw [editsOf] at hedit
    split at hedit
    · rcases List.mem_append.1 hedit with hedit | hedit
      · exact hentry visit edit hedit
      · split at hedit
        · exact ih hrest _ edit hedit
        · cases hedit
        · cases hedit
    · exact ih hrest visit edit hedit

end Chain

namespace Server

variable {server : Server σ} {edits : Middleware σ → String → Visit σ → List ExchangeEdit}

def editsOf (server : Server σ) (edits : Middleware σ → String → Visit σ → List ExchangeEdit)
    (body : List UInt8) (visit : Visit σ) : List ExchangeEdit :=
  match Message.parse body with
  | .error _ => []
  | .ok message =>
    match server.address message with
    | .error _ => []
    | .ok address =>
      match server.registry.resolve address.space address.method with
      | .error _ => []
      | .ok _ =>
        Chain.editsOf edits address.path server.chain.entries
          (Action.enterGuard (visit.at address.path))

theorem forall_mem_editsOf {P : ExchangeEdit → Prop}
    (h : ∀ entry ∈ server.chain.entries, ∀ path visit, ∀ edit ∈ edits entry path visit, P edit)
    (body : List UInt8) (visit : Visit σ) : ∀ edit ∈ server.editsOf edits body visit, P edit := by
  unfold editsOf
  split
  · exact fun edit hedit => absurd hedit List.not_mem_nil
  split
  · exact fun edit hedit => absurd hedit List.not_mem_nil
  split
  · exact fun edit hedit => absurd hedit List.not_mem_nil
  · exact Chain.forall_mem_editsOf (fun entry hentry => h entry hentry _) _

theorem editsOf_of_targets {body : List UInt8} {message : Message} {address : Address}
    {plan : Plan σ} (h : server.Targets body message address plan) (visit : Visit σ) :
    server.editsOf edits body visit =
      Chain.editsOf edits address.path server.chain.entries
        (Action.enterGuard (visit.at address.path)) := by
  obtain ⟨entry, hservice, hmethod⟩ := h.found
  have haddress := address_of_asks h.toAsks
  have hresolve := Registry.resolve_of_found hservice hmethod
  simp only [editsOf, h.parsed, haddress, hresolve]

theorem Calls.exchange_eq {address : Address} {plan : Plan σ} {params : Option Json}
    {visit : Visit σ} {course : Course σ} (h : server.Calls address plan params visit course)
    (hedits : ∀ entry ∈ server.chain.entries, entry.EditsBy (edits entry)) :
    course.after.exchange =
      visit.exchange.applyAll
        (Chain.editsOf edits address.path server.chain.entries (Action.enterGuard visit)) := by
  -- neither the guard nor the method touches the exchange
  cases h with
  | stopped hpasses | stumbled hpasses | unbound hpasses => exact hpasses.exchange_eq hedits
  | failed hpasses | crashed hpasses | completed hpasses => exact hpasses.exchange_eq hedits

theorem Takes.exchange_eq {body : List UInt8} {visit : Visit σ} {course : Course σ}
    (h : server.Takes body visit course)
    (hedits : ∀ entry ∈ server.chain.entries, entry.EditsBy (edits entry)) :
    course.after.exchange = visit.exchange.applyAll (server.editsOf edits body visit) := by
  cases h with
  | unread hparse =>
    simp only [editsOf, hparse]
    rfl
  | unidentified hparse hid =>
    simp only [editsOf, hparse, address_of_unidentified hid]
    rfl
  | unsplit hparse hid hmethod =>
    simp only [editsOf, hparse, address_of_unsplit hid hmethod]
    rfl
  | unknownSpace hasks hservice =>
    have hresolve := fun method => Registry.resolve_of_no_service hservice method
    simp only [editsOf, hasks.parsed, address_of_asks hasks, hresolve]
    rfl
  | unknownMethod hasks hservice hmethod =>
    have hresolve := Registry.resolve_of_no_method hservice hmethod
    simp only [editsOf, hasks.parsed, address_of_asks hasks, hresolve]
    rfl
  | called htargets hcalls =>
    rw [editsOf_of_targets htargets]
    exact hcalls.exchange_eq hedits

end Server

/-! ## The reply -/

/-- The first of the edits of an exchange that writes is its response, at once and for good. -/
structure Exchange.WritesOnce (head : RequestHead) (edits : List ExchangeEdit) : Prop where
  status : ((ofRequest head).applyAll edits).response.status =
    ((firstWriting? edits).map (·.status)).getD 200
  body : ((ofRequest head).applyAll edits).response.body =
    ((firstWriting? edits).map (·.body)).getD []
  first : firstWriting? edits = none → ∀ status contentType body,
    (((ofRequest head).applyAll edits).tryWrite status contentType body).1 = true
  late : (firstWriting? edits).isSome → ∀ status contentType body,
    ((ofRequest head).applyAll edits).tryWrite status contentType body =
      (false, (ofRequest head).applyAll edits)
  stands : (firstWriting? edits).isSome → ∀ edit, edit.writing?.isSome →
    ((ofRequest head).applyAll edits).apply edit = (ofRequest head).applyAll edits
  stays : (firstWriting? edits).isSome → ∀ later,
    ((ofRequest head).applyAll (edits ++ later)).isWritten = true

theorem Exchange.writesOnce (head : RequestHead) (edits : List ExchangeEdit) :
    WritesOnce head edits := by
  have hopen : (ofRequest head).isWritten = false := rfl
  have hsettled := settledBy_applyAll hopen edits
  have hwritten := hsettled.isWritten_eq
  constructor
  case status => rw [response, hsettled.status]
  case body => rw [response, hsettled.body]; rfl
  case first =>
    intro hfirst
    rw [hfirst] at hwritten
    exact tryWrite_of_open hwritten
  case late =>
    intro hfirst
    exact tryWrite_of_isWritten (hwritten.trans hfirst)
  case stands =>
    intro hfirst edit hedit
    exact apply_of_isWritten (hwritten.trans hfirst) hedit
  case stays =>
    intro hfirst later
    have hkept : ((ofRequest head).applyAll edits).KeptBy later
        (((ofRequest head).applyAll edits).applyAll later) :=
      keptBy_applyAll (.inl (hwritten.trans hfirst))
    rw [applyAll_append, hkept.isWritten_eq]
    exact hwritten.trans hfirst

/-- A response is that of the first of some edits that writes, and a message if there is none. -/
structure Response.Delivers (response : Response) (edits : List ExchangeEdit)
    (answer : Message) : Prop where
  written : ∀ writing, firstWriting? edits = some writing →
    response.status = writing.status ∧ response.body = writing.body
  message : firstWriting? edits = none → response.status = 200 ∧ response.body = answer.text.toUTF8.toList
  headers : (∀ edit ∈ edits, edit.Spares "content-type" ∧ edit.Spares "x-content-type-options") →
    response.headers.values "x-content-type-options" = ["nosniff"] ∧
      (response.headers.values "content-type" = [jsonContentType] ↔
        firstWriting? edits = none ∨
          ∃ writing, firstWriting? edits = some writing ∧
            writing.contentType = some jsonContentType)

theorem Writing.sentType?_eq_json_iff (writing : Writing) :
    writing.sentType? = some jsonContentType ↔ writing.contentType = some jsonContentType := by
  have hvalue : Headers.isValue jsonContentType = true := by decide +kernel
  rw [sentType?, Option.filter_eq_some_iff, and_iff_left hvalue]

namespace Server

variable {server : Server σ} {edits : Middleware σ → String → Visit σ → List ExchangeEdit}

private theorem values_startHeaders :
    (Headers.ofList [("x-content-type-options", "nosniff")]).values "x-content-type-options" =
        ["nosniff"] ∧
      (Headers.ofList [("x-content-type-options", "nosniff")]).values "content-type" = [] := by
  decide +kernel

/-- The reply is what the edits of the middleware and then a write of the message make of an
exchange whose only header forbids guessing. -/
theorem Takes.delivers {request : Request} {world : World σ} {course : Course σ}
    (h : server.Takes request.body (server.visit request world) course)
    (hedits : ∀ entry ∈ server.chain.entries, entry.EditsBy (edits entry)) (answer : Message) :
    (respond course.after.exchange answer).Delivers
      (server.editsOf edits request.body (server.visit request world)) answer := by
  let visit := server.visit request world
  let made := server.editsOf edits request.body visit
  let envelope : Writing := ⟨200, some jsonContentType, answer.text.toUTF8.toList⟩
  let all := made ++ [.write envelope.status envelope.contentType envelope.body]
  have hopen : visit.exchange.isWritten = false := rfl
  have hsettled := Exchange.settledBy_applyAll hopen all
  have hfirst : firstWriting? all = (firstWriting? made).or (some envelope) :=
    firstWriting?_append made _
  have hrespond :
      respond course.after.exchange answer = (visit.exchange.applyAll all).response := by
    rw [respond, h.exchange_eq hedits, Exchange.applyAll_append]
    rfl
  rw [hrespond, Exchange.response]
  constructor
  case written =>
    intro writing hwriting
    rw [hsettled.status, hsettled.body, hfirst, hwriting]
    exact ⟨rfl, rfl⟩
  case message =>
    intro hnone
    rw [hsettled.status, hsettled.body, hfirst, hnone]
    exact ⟨rfl, rfl⟩
  case headers =>
    intro hspares
    have hnosniff : visit.exchange.headers.values "x-content-type-options" = ["nosniff"] :=
      values_startHeaders.1
    have huntyped : visit.exchange.headers.values "content-type" = [] := values_startHeaders.2
    have hall : ∀ edit ∈ all,
        edit.Spares "content-type" ∧ edit.Spares "x-content-type-options" := by
      intro edit hedit
      rcases List.mem_append.1 hedit with hedit | hedit
      · exact hspares edit hedit
      · rw [List.mem_singleton.1 hedit]
        exact ⟨trivial, trivial⟩
    have hname : Headers.lowerName "x-content-type-options" ≠ Headers.lowerName "content-type" := by
      decide +kernel
    have htyped := hsettled.typed fun edit hedit => (hall edit hedit).1
    refine ⟨?_, ?_⟩
    · rw [← hnosniff]
      exact hsettled.untyped _ hname fun edit hedit => (hall edit hedit).2
    · rw [htyped, huntyped, hfirst]
      cases firstWriting? made with
      | none =>
        have hsent : envelope.sentType? = some jsonContentType :=
          envelope.sentType?_eq_json_iff.2 rfl
        simp [hsent]
      | some writing =>
        have hsent := writing.sentType?_eq_json_iff
        cases htype : writing.sentType? <;> simp [htype] at hsent ⊢ <;> simp [hsent]

theorem respond_of_not_isWritten {exchange : Exchange} (h : exchange.isWritten = false)
    (answer : Message) :
    (respond exchange answer).status = 200 ∧
      (respond exchange answer).body = answer.text.toUTF8.toList := by
  have hwrite := Exchange.write_of_open h ⟨200, some jsonContentType, answer.text.toUTF8.toList⟩
  rw [respond, hwrite]
  exact ⟨rfl, rfl⟩

/-- The first write to an exchange is its response, and nothing that is done later changes it. A
request that is admitted is answered with the response that the middleware leaves written, or else
with 200 and its message. If all that middleware does to its exchange is to edit it, that response is
the first write. Unless middleware touches these headers, the type of the reply is then that of what
was written, and nobody should guess it. -/
theorem first_write_is_sent (server : Server σ) :
    (∀ head changes, Exchange.WritesOnce head changes) ∧
    ∀ request world log, server.reception request = .admitted →
      ∃ response after answer left,
        server.serve request ⟨world, log⟩ = (.returned response, after) ∧
        server.handle request.body ⟨server.visit request world, log⟩ = (.returned answer, left) ∧
        (left.state.exchange.isWritten = true → response = left.state.exchange.response) ∧
        (left.state.exchange.isWritten = false →
          response.status = 200 ∧ response.body = answer.text.toUTF8.toList) ∧
        ∀ edits, (∀ entry ∈ server.chain.entries, entry.EditsBy (edits entry)) →
          response.Delivers (server.editsOf edits request.body (server.visit request world))
            answer := by
  refine ⟨Exchange.writesOnce, fun request world log hadmitted => ?_⟩
  obtain ⟨course, htakes⟩ := server.exists_takes request.body (server.visit request world)
  obtain ⟨noted, hanswer⟩ := answer_of_takes htakes log
  obtain ⟨known, hhandle⟩ := htakes.handle log
  exact ⟨_, _, _, _, (serve_of_admitted hadmitted _).trans hanswer, hhandle,
    fun hwritten => respond_of_isWritten hwritten _,
    fun hopen => respond_of_not_isWritten hopen _, fun edits hedits => htakes.delivers hedits _⟩

def gatekeeper : Server Unit where
  options := { requireJsonContentType := false }
  registry := quiet.registry
  chain := ⟨[{
    scope := .ofScope .snake .all
    handler := fun _ visit =>
      let challenged := visit.exchange.setHeader "www-authenticate" "Bearer"
      (.returned (.error (.token "missing token")),
        { visit with exchange := challenged.abortWithStatus 401 }) }]⟩

def gatekeeperEdits (_ : Middleware Unit) (_ : String) (_ : Visit Unit) : List ExchangeEdit :=
  [.setHeader "www-authenticate" "Bearer", .abortWithStatus 401]

theorem gatekeeper_editsBy :
    ∀ entry ∈ gatekeeper.chain.entries, entry.EditsBy (gatekeeperEdits entry) := by
  intro entry hentry path visit
  obtain rfl := List.mem_singleton.1 hentry
  rfl

theorem gatekeeper_first_write_is_sent :
    ∃ response after,
      gatekeeper.serve { body := quietBody } ⟨{ host := () }, []⟩ = (.returned response, after) ∧
      response.status = 401 ∧ response.body = [] ∧
      response.headers.values "x-content-type-options" = ["nosniff"] ∧
      response.headers.values "content-type" ≠ [jsonContentType] := by
  obtain ⟨-, hserve⟩ := first_write_is_sent gatekeeper
  obtain ⟨response, after, answer, left, hserved, -, -, -, hdelivers⟩ :=
    hserve { body := quietBody } { host := () } [] (by decide +kernel)
  have hdelivers := hdelivers gatekeeperEdits gatekeeper_editsBy
  have hfirst : firstWriting? (gatekeeper.editsOf gatekeeperEdits quietBody
      (gatekeeper.visit { body := quietBody } { host := () })) = some ⟨401, none, []⟩ := by
    decide +kernel
  have hspares : ∀ edit ∈ gatekeeper.editsOf gatekeeperEdits quietBody
      (gatekeeper.visit { body := quietBody } { host := () }),
      edit.Spares "content-type" ∧ edit.Spares "x-content-type-options" := by
    apply forall_mem_editsOf
    intro entry _ path visit edit hedit
    rcases List.mem_cons.1 hedit with rfl | hedit
    · unfold ExchangeEdit.Spares
      decide +kernel
    · rw [List.mem_singleton.1 hedit]
      exact ⟨trivial, trivial⟩
  obtain ⟨hnosniff, htype⟩ := hdelivers.headers hspares
  obtain ⟨hstatus, hbody⟩ := hdelivers.written _ hfirst
  refine ⟨response, after, hserved, hstatus, hbody, hnosniff, ?_⟩
  rw [Ne, htype, hfirst]
  simp

def denying : MiddlewareHandler Unit := fun _ visit =>
  (.returned (.ok ()), { visit with exchange := visit.exchange.abortWithStatus 401 })

/-- A middleware that writes to an exchange of its own, which it puts in place. -/
def renewing : MiddlewareHandler Unit := fun _ visit =>
  (.returned (.ok ()),
    { visit with exchange := (Exchange.ofRequest visit.exchange.request).abortWithStatus 403 })

def forgetful : Server Unit :=
  (({ options := { requireJsonContentType := false }
      registry := quiet.registry } : Server Unit).addMiddleware .all denying).addMiddleware .all
        renewing

/-- The write of the first middleware is lost with its exchange, and so is the header that forbids
guessing. -/
theorem new_exchange_loses_write :
    forgetful.reception { body := quietBody } = .admitted ∧
      forgetful.servedRuns { body := quietBody } { host := () } =
        [.middleware 0 "tea.pour" "tea.pour", .middleware 1 "tea.pour" "tea.pour",
          .method "tea" "pour" "tea.pour"] ∧
      (denying "tea.pour" (forgetful.visit { body := quietBody } { host := () })).2.exchange.status =
        some 401 ∧
      (forgetful.serve { body := quietBody } ⟨{ host := () }, []⟩).1 =
        .returned { status := 403, headers := {}, body := [] } := by
  refine ⟨?_, ?_, ?_, ?_⟩
  all_goals decide +kernel

end Server

end Switchboard
