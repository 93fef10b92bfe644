import Switchboard.Server.Route
import Switchboard.Service

/-!
# Deployments

A server and the world in which its services live: registrations run the hooks of services, and
requests run their methods.
-/

namespace Switchboard

structure Deployment (σ : Type) where
  server : Server σ
  world : World σ

instance : Threaded (Deployment σ) where
  thread deployment := deployment.world.thread
  withThread deployment thread := { deployment with world := { deployment.world with thread } }
  thread_withThread _ _ := rfl

namespace Deployment

abbrev Task (σ α : Type) := Action (Logged (Deployment σ)) α

def inWorld (action : Action (Logged (World σ)) α) : Task σ α := fun logged =>
  match action { state := logged.state.world, log := logged.log } with
  | (ending, after) => (ending, ⟨{ logged.state with world := after.state }, after.log⟩)

def current : Task σ (Server σ) := fun logged => (.returned logged.state.server, logged)

def setServer (server : Server σ) : Task σ Unit :=
  Action.modify fun logged => { logged with state.server := server }

def note (events : List Event) : Task σ Unit :=
  Action.modify fun logged => { logged with log := logged.log ++ events }

def add (registration : Registration σ) : Task σ (Except RegistryError Unit) := do
  let server ← current
  note (server.registry.events registration)
  match server.registry.add registration with
  | .error error => return .error error
  | .ok (_, registry) =>
    setServer { server with registry }
    return .ok ()

/-- Registers a service, under the explicit name if there is one and it is not empty. -/
def register (service : Service σ) (explicit : Option String) :
    Task σ (Except RegistryError Unit) := do
  let registration ← inWorld (Action.unlogged (service.registration explicit))
  add registration

def registerDefinition (definition : Definition σ) : Task σ (Except RegistryError Unit) :=
  add definition.registration

def registerAll : List (Service σ × Option String) → Task σ (Except RegistryError Unit)
  | [] => Action.pure (.ok ())
  | (service, explicit) :: services => do
    match ← register service explicit with
    | .error error => return .error error
    | .ok () => registerAll services

def setGlobalExcludes (names : List String) : Task σ Unit := do
  let server ← current
  setServer { server with registry := server.registry.setGlobalExcludes names }

def registerApp (app : App σ) : Task σ (Except RegistryError Unit) := do
  if !app.excludedMethods.isEmpty then
    setGlobalExcludes app.excludedMethods
  registerAll app.services

def insist (task : Task σ (Except RegistryError Unit)) : Task σ Unit := do
  match ← task with
  | .error error => Action.panic (.text error.message)
  | .ok () => return ()

def addMiddleware (scope : Scope) (handler : MiddlewareHandler σ) : Task σ Unit := do
  let server ← current
  note (CompiledScope.ofScope server.options.naming scope).events
  setServer (server.addMiddleware scope handler)

def stop : Task σ Unit := do
  let server ← current
  note server.stopEvents
  setServer server.stop

/-- Stops the server if the host's code did. The request that runs this code has passed the switch
before, so that only later ones are refused. -/
def settle : Task σ Unit := fun logged =>
  if logged.state.world.stopped then stop logged else (.returned (), logged)

def attend (action : Server σ → Action (Logged (World σ)) α) : Task σ α := do
  let server ← current
  let answer ← inWorld (action server)
  settle
  return answer

def serve (request : Request) : Task σ Response :=
  attend (·.serve request)

def route (inbound : Inbound) : Task σ Response :=
  attend (·.route inbound)

def handle (context : Context) (exchange : Exchange) (body : List UInt8) :
    Task σ (Message × Exchange) :=
  attend fun server => Action.visiting context exchange (server.handle body)

end Deployment

end Switchboard
