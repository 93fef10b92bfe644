import Switchboard.Server.Admission
import Switchboard.Server.Dispatch

/-!
# Serving requests

From a request to its response. The message that answers an admitted request is sent with status
200, unless middleware wrote a response before.
-/

namespace Switchboard

def plainContentType : String := "text/plain; charset=utf-8"

namespace Response

def plain (status : Nat) (line : String) : Response where
  status := status
  headers := .ofList
    [("content-type", plainContentType), ("x-content-type-options", "nosniff")]
  body := (line ++ "\n").toUTF8.toList

end Response

namespace Action

/-- Visits a world with a context and an exchange, and leaves with the exchange. -/
def visiting (context : Context) (exchange : Exchange) (action : Action (Logged (Visit σ)) α) :
    Action (Logged (World σ)) (α × Exchange) := fun logged =>
  match action { state := { context, exchange, world := logged.state }, log := logged.log } with
  | (.returned value, logged) =>
    (.returned (value, logged.state.exchange), ⟨logged.state.world, logged.log⟩)
  | (.panicked payload, logged) => (.panicked payload, ⟨logged.state.world, logged.log⟩)

end Action

namespace Server

def rejectedEvent (refusal : Refusal) : Event where
  level := .debug
  target := Event.dispatchTarget
  message := "request rejected"
  fields := [("status", refusal.statusLine), ("message", refusal.message)]

def servedEvent (requestId : Option String) (message : Message) : Event where
  level := .debug
  target := Event.dispatchTarget
  message := "request served"
  fields := [("request_id", requestId.getD "-"), ("response", message.text)]

def answer (server : Server σ) (request : Request) : Action (Logged (World σ)) Response := do
  let context := Context.ofRequest request.head.headers request.extensions
    server.options.requestIdHeader
  let exchange : Exchange :=
    { request := request.head, headers := .ofList [("x-content-type-options", "nosniff")] }
  let (message, exchange) ← Action.visiting context exchange (server.handle request.body)
  Action.emit (servedEvent context.requestId message)
  return (exchange.write 200 (some jsonContentType) message.text.toUTF8.toList).response

def serve (server : Server σ) (request : Request) : Action (Logged (World σ)) Response := do
  match server.options.admission server.running request.head request.body.length with
  | .probe => return {}
  | .stopped => return .plain 503 "server is stopped"
  | .refused refusal =>
    Action.emit (rejectedEvent refusal)
    return .plain refusal.status refusal.message
  | .admitted => server.answer request

end Server

end Switchboard
