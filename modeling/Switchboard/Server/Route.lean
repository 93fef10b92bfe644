import Switchboard.Server.Serve

/-!
# The route in front of a server

Requests come in on the path of the server's options. Their bodies are read before the server sees
them, up to one byte over its limit, so that it finds for itself that a body is too large.
-/

namespace Switchboard

/-- A request whose body comes in as a stream. -/
structure Inbound where
  request : Request
  /-- Whether the stream fails after the body. -/
  broken : Bool := false

namespace Response

def withLength (response : Response) : Response :=
  if (response.headers.get? "content-length").isSome then response
  else
    { response with
      headers := response.headers.set "content-length" (Nat.repr response.body.length) }

def withoutBody (response : Response) : Response :=
  { response with body := [] }

end Response

namespace Options

def bufferLimit (options : Options) : Nat :=
  min (options.maxBodyBytes + 1) maxWord

end Options

namespace Server

def routeReply (status : Nat) (line : String) : Response where
  status := status
  headers := .ofList [("content-type", plainContentType)]
  body := (line ++ "\n").toUTF8.toList

def routeEvent (message : String) : Event where
  level := .debug
  target := Event.dispatchTarget
  message := message

def receive (server : Server σ) (inbound : Inbound) : Action (Logged (World σ)) Response := do
  if server.options.bufferLimit < inbound.request.body.length then
    Action.emit (routeEvent "request body over the limit")
    return routeReply 413 "request body too large"
  else if inbound.broken then
    Action.emit (routeEvent "failed to read request body")
    return routeReply 400 "failed to read request body"
  else server.serve inbound.request

def route (server : Server σ) (inbound : Inbound) : Action (Logged (World σ)) Response := do
  let head := inbound.request.head
  let response ←
    if head.target.path == server.options.path then server.receive inbound
    else Action.pure { status := 404 }
  let response := response.withLength
  return if head.method == "HEAD" then response.withoutBody else response

end Server

end Switchboard
