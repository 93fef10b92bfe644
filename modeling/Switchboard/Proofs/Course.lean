import Mathlib.Tactic
import Switchboard.Proofs.Paths
import Switchboard.Proofs.Recording

/-!
# The course of a request

A request goes through stages, and the first one that fails decides the answer. The rules below say
so stage by stage, without reference to how a server computes: decoding, the id, the parts of the
method's name, the lookup, the middleware that applies in the order of the chain, the binding of
arguments, and the method. Every request has one course.
-/

namespace Switchboard

inductive Json.Blank : Json → Prop
  | null : Blank .null
  | false : Blank (.bool false)
  | zero (n : Whole) : n.val = 0 → Blank (.whole n)
  | zeroFloat (x : Floating) : x.isZero → Blank (.float x)
  | empty : Blank (.string "")

theorem Json.isBlank_iff (value : Json) : value.isBlank ↔ value.Blank := by
  constructor
  · intro h
    cases value with
    | null => exact .null
    | bool b =>
      cases b with
      | false => exact .false
      | true => simp [isBlank] at h
    | whole n => exact .zero n (by simpa [isBlank] using h)
    | float x => exact .zeroFloat x h
    | string s =>
      have hs : s = "" := by simpa [isBlank] using h
      exact hs ▸ .empty
    | array _ | object _ => simp [isBlank] at h
  · rintro (_ | _ | ⟨n, hn⟩ | ⟨x, hx⟩ | _)
    · rfl
    · rfl
    · simp [isBlank, hn]
    · exact hx
    · rfl

/-- The stage at which a request ends. -/
inductive Stage
  | unread (error : Json.Error)
  | unidentified
  | unsplit
  | unknownSpace
  | unknownMethod
  | stopped (error : ServiceError)
  | unbound (error : BindError)
  | failed (error : ServiceError)
  | crashed (method : String) (crash : Crash)
  | completed (payload : Option Json)

namespace Stage

/-- The call did not get as far as the middleware. -/
def Early : Stage → Prop
  | unread _ | unidentified | unsplit | unknownSpace | unknownMethod => True
  | _ => False

def Completed : Stage → Prop
  | completed _ => True
  | _ => False

/-- The method returned a payload that says something. -/
def Pays (stage : Stage) (value : Json) : Prop :=
  stage = .completed (some value) ∧ ¬value.Blank

def error? (options : Options) : Stage → Option WireError
  | unread error => some { code := Code.parse, message := error.message }
  | unidentified => some { code := Code.invalidRequest, message := "id is invalid" }
  | unsplit => some { code := Code.methodNotFound, message := "wrong method" }
  | unknownSpace => some { code := Code.methodNotFound, message := "no namespace" }
  | unknownMethod => some { code := Code.methodNotFound, message := "no method" }
  | stopped error | failed error => some error.toWire
  | unbound error => some { code := Code.invalidParams, message := error.message }
  | crashed method crash => some
    { code := Code.internal
      message := "RPC method " ++ method ++ " handler crashed: " ++ crash.message
      data := if options.exposeBacktrace then some (.string crash.backtrace) else none }
  | completed _ => none

def payload? : Stage → Option Json
  | completed payload => payload.filter (!·.isBlank)
  | _ => none

theorem error?_eq_none_iff (options : Options) (stage : Stage) :
    stage.error? options = none ↔ stage.Completed := by
  cases stage <;> simp [error?, Completed]

theorem payload?_eq_some_iff (stage : Stage) (value : Json) :
    stage.payload? = some value ↔ stage.Pays value := by
  cases stage with
  | completed payload =>
    rw [payload?, Option.filter_eq_some_iff, Pays, ← Json.isBlank_iff]
    simp
  | _ => simp [payload?, Pays]

/-- The message that answers a client's message at a stage. What is not set stays the client's. -/
def reply (options : Options) (client : Message) (stage : Stage) : Message where
  id := some (client.id.getD Json.one)
  version := some protocolVersion
  result := stage.payload?.or client.result
  error := (stage.error? options).or client.error

private theorem payload?_of_error? {options : Options} {stage : Stage} {error : WireError}
    (h : stage.error? options = some error) : stage.payload? = none := by
  cases stage with
  | completed payload => simp [error?] at h
  | _ => rfl

theorem conclude_error {options : Options} {stage : Stage} {error : ServiceError}
    (h : stage.error? options = some error.toWire) (client : Message) :
    Server.conclude client (.error error) = stage.reply options client := by
  rw [reply, h, payload?_of_error? h]
  rfl

theorem conclude_completed (options : Options) (payload : Option Json) (client : Message) :
    Server.conclude client (.ok (payload.filter (!·.isBlank))) =
      (completed payload).reply options client := by
  rw [reply, payload?]
  cases payload.filter (!·.isBlank) <;> rfl

end Stage

def Message.sent (body : List UInt8) : Message :=
  match parse body with
  | .ok message => message
  | .error _ => {}

theorem Message.sent_of_ok {body : List UInt8} {message : Message} (h : parse body = .ok message) :
    sent body = message := by
  rw [sent, h]

theorem Message.sent_of_error {body : List UInt8} {error : Json.Error}
    (h : parse body = .error error) : sent body = {} := by
  rw [sent, h]

theorem Message.exists_of_parse_any {body : List UInt8} {check : Message → Bool}
    (h : (parse body).toOption.any check = true) :
    ∃ message, parse body = .ok message ∧ check message = true := by
  cases hparse : parse body with
  | error error =>
    rw [hparse] at h
    cases h
  | ok message =>
    rw [hparse] at h
    exact ⟨message, rfl, h⟩

/-- Where a request ends, what ran for it, and the state in which it leaves. -/
structure Course (σ : Type) where
  stage : Stage
  runs : List Run
  after : Visit σ

namespace Chain

/-- What entries do for a path, of which the first stands at the given place of its chain: those
that apply run in order, each on the state that the one before it left, up to the first that does
not return in peace. -/
inductive Passes {σ : Type} (path : String) : Nat → List (Middleware σ) → Visit σ → List Run →
    Ending (Except ServiceError Unit) → Visit σ → Prop
  | done : Passes path place [] visit [] (.returned (.ok ())) visit
  | skip : entry.scope.appliesTo path = false →
      Passes path (place + 1) rest visit runs ending after →
      Passes path place (entry :: rest) visit runs ending after
  | pass : entry.scope.appliesTo path = true →
      entry.handler path visit = (.returned (.ok ()), between) →
      Passes path (place + 1) rest between runs ending after →
      Passes path place (entry :: rest) visit
        (.middleware place path visit.context.method :: runs) ending after
  | stop : entry.scope.appliesTo path = true →
      entry.handler path visit = (.returned (.error error), after) →
      Passes path place (entry :: rest) visit
        [.middleware place path visit.context.method] (.returned (.error error)) after
  | panic : entry.scope.appliesTo path = true →
      entry.handler path visit = (.panicked payload, after) →
      Passes path place (entry :: rest) visit
        [.middleware place path visit.context.method] (.panicked payload) after

end Chain

def Message.Identified (message : Message) : Prop :=
  ∃ id, message.id = some id ∧ (∀ items, id ≠ .array items) ∧ ∀ members, id ≠ .object members

theorem Message.hasValidId_iff (message : Message) :
    message.hasValidId ↔ message.Identified := by
  unfold hasValidId Identified
  cases message.id with
  | none => simp
  | some id => cases id <;> simp

def Visit.at (path : String) (visit : Visit σ) : Visit σ :=
  { visit with context.method := path }

namespace Server

/-- The message that a body spells, and the folded names of the method that it asks for. -/
structure Asks (server : Server σ) (body : List UInt8) (message : Message)
    (address : Address) : Prop where
  parsed : Message.parse body = .ok message
  identified : message.Identified
  named : ∃ first second, message.method.toList = first ++ separator :: second ∧
    separator ∉ first ∧
    address = ⟨server.options.naming.fold (String.ofList first),
      server.options.naming.fold (String.ofList second)⟩

theorem exists_asks_of_parse_any {server : Server σ} {body : List UInt8} (first second : List Char)
    (hfirst : separator ∉ first)
    (h : (Message.parse body).toOption.any (fun message =>
      message.hasValidId && message.method.toList == first ++ separator :: second) = true) :
    ∃ message, server.Asks body message ⟨server.options.naming.fold (String.ofList first),
      server.options.naming.fold (String.ofList second)⟩ := by
  obtain ⟨message, hparse, hmessage⟩ := Message.exists_of_parse_any h
  rw [Bool.and_eq_true, beq_iff_eq] at hmessage
  exact ⟨message, hparse, message.hasValidId_iff.1 hmessage.1, first, second, hmessage.2, hfirst,
    rfl⟩

/-- The call of a body gets as far as the middleware: there is an entry for its method. -/
structure Targets (server : Server σ) (body : List UInt8) (message : Message)
    (address : Address) (plan : Plan σ) : Prop extends server.Asks body message address where
  found : ∃ entry, server.registry.service? address.space = some entry ∧
    entry.methods.get? address.method = some plan

/-- What comes of a call: the middleware that applies, the binding and the method, in a guard. -/
inductive Calls (server : Server σ) (address : Address) (plan : Plan σ) (params : Option Json)
    (visit : Visit σ) : Course σ → Prop
  | stopped {runs : List Run} :
      Chain.Passes address.path 0 server.chain.entries (Action.enterGuard visit) runs
        (.returned (.error error)) after →
      Calls server address plan params visit ⟨.stopped error, runs, Action.leaveGuard after⟩
  | stumbled {runs : List Run} :
      Chain.Passes address.path 0 server.chain.entries (Action.enterGuard visit) runs
        (.panicked payload) after →
      Calls server address plan params visit
        ⟨.crashed plan.name (Action.report payload after), runs, Action.leaveCrash after⟩
  | unbound {runs : List Run} :
      Chain.Passes address.path 0 server.chain.entries (Action.enterGuard visit) runs
        (.returned (.ok ())) after →
      plan.bind params = .error error →
      Calls server address plan params visit ⟨.unbound error, runs, Action.leaveGuard after⟩
  | failed {runs : List Run} :
      Chain.Passes address.path 0 server.chain.entries (Action.enterGuard visit) runs
        (.returned (.ok ())) between →
      plan.bind params = .ok method →
      method between.context between.world = (.returned (.error error), world) →
      Calls server address plan params visit
        ⟨.failed error, runs ++ [.method address.space address.method between.context.method],
          Action.leaveGuard { between with world }⟩
  | crashed {runs : List Run} :
      Chain.Passes address.path 0 server.chain.entries (Action.enterGuard visit) runs
        (.returned (.ok ())) between →
      plan.bind params = .ok method →
      method between.context between.world = (.panicked payload, world) →
      Calls server address plan params visit
        ⟨.crashed plan.name (Action.report payload { between with world }),
          runs ++ [.method address.space address.method between.context.method],
          Action.leaveCrash { between with world }⟩
  | completed {runs : List Run} :
      Chain.Passes address.path 0 server.chain.entries (Action.enterGuard visit) runs
        (.returned (.ok ())) between →
      plan.bind params = .ok method →
      method between.context between.world = (.returned (.ok returned), world) →
      Calls server address plan params visit
        ⟨.completed returned, runs ++ [.method address.space address.method between.context.method],
          Action.leaveGuard { between with world }⟩

/-- The course of the request with a body, stage by stage. -/
inductive Takes (server : Server σ) (body : List UInt8) (visit : Visit σ) : Course σ → Prop
  | unread : Message.parse body = .error error →
      Takes server body visit ⟨.unread error, [], visit⟩
  | unidentified : Message.parse body = .ok message → ¬message.Identified →
      Takes server body visit ⟨.unidentified, [], visit⟩
  | unsplit : Message.parse body = .ok message → message.Identified →
      separator ∉ message.method.toList →
      Takes server body visit ⟨.unsplit, [], visit⟩
  | unknownSpace {address : Address} : server.Asks body message address →
      server.registry.service? address.space = none →
      Takes server body visit ⟨.unknownSpace, [], visit.at address.path⟩
  | unknownMethod {address : Address} : server.Asks body message address →
      server.registry.service? address.space = some entry →
      entry.methods.get? address.method = none →
      Takes server body visit ⟨.unknownMethod, [], visit.at address.path⟩
  | called {address : Address} : server.Targets body message address plan →
      server.Calls address plan message.params (visit.at address.path) course →
      Takes server body visit course

end Server

end Switchboard
