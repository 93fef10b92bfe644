import Switchboard.Middleware.Chain
import Switchboard.Options
import Switchboard.Registry

/-!
# Servers

A server is what calls are answered from: options, the registry and the chain of middleware. It
runs until it is stopped.
-/

namespace Switchboard

structure Server (σ : Type) where
  options : Options
  registry : Registry σ
  chain : Chain σ := {}
  running : Bool := true

namespace Server

def ofOptions (options : Options) : Server σ where
  options := options
  registry := { naming := options.naming }

def addMiddleware (server : Server σ) (scope : Scope) (handler : MiddlewareHandler σ) :
    Server σ :=
  { server with chain := server.chain.add server.options.naming scope handler }

def stop (server : Server σ) : Server σ :=
  { server with running := false }

def stopEvents (server : Server σ) : List Event :=
  if server.running then
    [{ level := .info
       target := Event.dispatchTarget
       message := "RPC server shutting down" }]
  else []

end Server

end Switchboard
