import Switchboard.Middleware.Scope
import Switchboard.Error
import Switchboard.Visit

/-!
# Middleware

Middleware runs before a method, in the order in which it was added, as far as its scope applies.
The first error ends the run.
-/

namespace Switchboard

abbrev MiddlewareHandler (σ : Type) :=
  String → Action (Visit σ) (Except ServiceError Unit)

structure Middleware (σ : Type) where
  scope : CompiledScope
  handler : MiddlewareHandler σ

structure Chain (σ : Type) where
  entries : List (Middleware σ) := []

namespace Chain

def add (chain : Chain σ) (naming : Naming) (scope : Scope) (handler : MiddlewareHandler σ) :
    Chain σ :=
  ⟨chain.entries ++ [{ scope := .ofScope naming scope, handler }]⟩

def size (chain : Chain σ) : Nat :=
  chain.entries.length

def runningEvent (index : Nat) (path : String) : Event where
  level := .debug
  target := Event.middlewareTarget
  message := "running middleware"
  fields := [("index", Nat.repr index), ("method", path)]

/-- Runs entries, of which the first has the given index in its chain. -/
def runFrom (path : String) : Nat → List (Middleware σ) →
    Action (Logged (Visit σ)) (Except ServiceError Unit)
  | _, [] => Action.pure (.ok ())
  | index, entry :: entries =>
    if entry.scope.appliesTo path then
      Action.bind (Action.emit (runningEvent index path)) fun _ =>
      Action.bind (Action.unlogged (entry.handler path)) fun
        | .ok () => runFrom path (index + 1) entries
        | .error error => Action.pure (.error error)
    else runFrom path (index + 1) entries

def run (chain : Chain σ) (path : String) : Action (Logged (Visit σ)) (Except ServiceError Unit) :=
  runFrom path 0 chain.entries

def describe (chain : Chain σ) : String :=
  "MiddlewareChain \x7b len: " ++ Nat.repr chain.size ++ " \x7d"

end Chain

end Switchboard
