import Switchboard.Message
import Switchboard.Server

/-!
# Dispatch

From the body of a request to the message that answers it. The message that was read becomes the
answer: its result and error are set, and what belongs to a request is cleared.
-/

namespace Switchboard

namespace Action

def context : Action (Logged (Visit σ)) Context := fun logged =>
  (.returned logged.state.context, logged)

def setPath (path : String) : Action (Logged (Visit σ)) Unit :=
  modify fun logged =>
    { logged with state.context.method := path }

end Action

/-- A method as a request names it, folded. -/
structure Address where
  space : String
  method : String
deriving DecidableEq, Repr

namespace Address

def path (address : Address) : String :=
  address.space ++ separator.toString ++ address.method

end Address

namespace Server

def address (server : Server σ) (message : Message) : Except WireError Address :=
  if message.hasValidId then do
    let (space, method) ← message.splitMethod
    .ok ⟨server.options.naming.fold space, server.options.naming.fold method⟩
  else .error (.invalidRequest "id is invalid")

/-- The error that a caller learns of a crash, the method being named as it was declared. -/
def crashError (server : Server σ) (method : String) (crash : Crash) : WireError :=
  let error : WireError :=
    .internal ("RPC method " ++ method ++ " handler crashed: " ++ crash.message)
  if server.options.exposeBacktrace then error.withData (.string crash.backtrace) else error

def crashEvent (error : WireError) (crash : Crash) : Event where
  level := .error
  target := Event.dispatchTarget
  message := error.message ++ "\n" ++ crash.backtrace

def run (server : Server σ) (path : String) (plan : Plan σ) (params : Option Json) :
    Action (Logged (Visit σ)) (Except ServiceError (Option Json)) := do
  match ← server.chain.run path with
  | .error error => return .error error
  | .ok () =>
    let context ← Action.context
    let outcome ← Action.unlogged (Action.onWorld (plan.call context params))
    return outcome.mapError .wire

/-- The payload of the call that a message asks for. Payloads that say nothing count as none, and
a panic counts as an error. -/
def outcome (server : Server σ) (message : Message) :
    Action (Logged (Visit σ)) (Except ServiceError (Option Json)) := do
  match server.address message with
  | .error error => return .error (.wire error)
  | .ok address =>
    Action.setPath address.path
    match server.registry.resolve address.space address.method with
    | .error error => return .error (.wire error)
    | .ok plan =>
      match ← Action.guarded (server.run address.path plan message.params) with
      | .ok (.ok payload) => return .ok (payload.filter (!·.isBlank))
      | .ok (.error error) => return .error error
      | .error crash =>
        let error := server.crashError plan.name crash
        Action.emit (crashEvent error crash)
        return .error (.wire error)

def conclude (message : Message) : Except ServiceError (Option Json) → Message
  | .error error => (message.setError error).finish
  | .ok none => message.finish
  | .ok (some payload) => { message with result := some payload }.finish

/-- The message that answers a body. -/
def handle (server : Server σ) (body : List UInt8) : Action (Logged (Visit σ)) Message := do
  match Message.parse body with
  | .error error => return conclude {} (.error (.wire (.parse error.message)))
  | .ok message =>
    let outcome ← server.outcome message
    return conclude message outcome

end Server

end Switchboard
