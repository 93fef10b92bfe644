import Switchboard.Context
import Switchboard.Http.Exchange
import Switchboard.Log
import Switchboard.Recovery

/-!
# Visits

What one call passes around: its context and exchange, which middleware may change, and the world
of the host. The log is kept beside it, out of reach of the host's code.
-/

namespace Switchboard

/-- The state that middleware works on. -/
structure Visit (σ : Type) where
  context : Context
  exchange : Exchange
  world : World σ

instance : Threaded (Visit σ) where
  thread visit := visit.world.thread
  withThread visit thread := { visit with world := { visit.world with thread } }
  thread_withThread _ _ := rfl

/-- A state and the events noted so far. -/
structure Logged (ω : Type) where
  state : ω
  log : List Event := []

instance [Threaded ω] : Threaded (Logged ω) where
  thread logged := Threaded.thread logged.state
  withThread logged thread := { logged with state := Threaded.withThread logged.state thread }
  thread_withThread _ _ := Threaded.thread_withThread _ _

namespace Action

def emit (event : Event) : Action (Logged ω) Unit :=
  modify fun logged => { logged with log := logged.log ++ [event] }

def unlogged (action : Action ω α) : Action (Logged ω) α := fun logged =>
  match action logged.state with
  | (ending, state) => (ending, { logged with state })

def onWorld (action : Action (World σ) α) : Action (Visit σ) α := fun visit =>
  match action visit.world with
  | (ending, world) => (ending, { visit with world })

end Action

end Switchboard
