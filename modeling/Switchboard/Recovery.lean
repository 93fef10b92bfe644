import Switchboard.Action

/-!
# Recovery from panics

A guard runs a computation and turns a panic into a report. Inside a guard every panic records
where it was raised, in a slot of its thread that the report takes; outside of all guards a panic
is left to the host.
-/

namespace Switchboard

/-- Where a panic was raised: the panics of a thread are numbered. -/
structure Backtrace where
  number : Nat
deriving DecidableEq, Repr

def Backtrace.text (backtrace : Backtrace) : String :=
  "backtrace of panic " ++ Nat.repr backtrace.number

structure Thread where
  depth : Nat := 0
  raised : Nat := 0
  /-- The backtrace of the latest panic inside a guard, until a report takes it. -/
  slot : Option Backtrace := none
  /-- The panics left to the host, the latest first. -/
  unguarded : List PanicPayload := []
deriving DecidableEq, Repr

def Thread.notice (thread : Thread) (payload : PanicPayload) : Thread :=
  let raised := thread.raised + 1
  if 0 < thread.depth then { thread with raised, slot := some ⟨raised⟩ }
  else { thread with raised, unguarded := payload :: thread.unguarded }

class Threaded (ω : Type) where
  thread : ω → Thread
  withThread : ω → Thread → ω
  thread_withThread : ∀ w t, thread (withThread w t) = t

/-- A panic that a guard stopped. -/
structure Crash where
  message : String
  /-- Empty if no backtrace was recorded. -/
  backtrace : String
deriving DecidableEq, Repr

namespace Action

def panic [Threaded ω] (payload : PanicPayload) : Action ω α := fun w =>
  (.panicked payload, Threaded.withThread w ((Threaded.thread w).notice payload))

def leaveGuard [Threaded ω] (w : ω) : ω :=
  let thread := Threaded.thread w
  Threaded.withThread w { thread with depth := thread.depth - 1 }

def guard [Threaded ω] (action : Action ω α) (w : ω) : Except Crash α × ω :=
  let thread := Threaded.thread w
  match action (Threaded.withThread w { thread with depth := thread.depth + 1 }) with
  | (.returned value, w) => (.ok value, leaveGuard w)
  | (.panicked payload, w) =>
    let w := leaveGuard w
    let thread := Threaded.thread w
    (.error
        { message := payload.message
          backtrace := (thread.slot.map Backtrace.text).getD "" },
      Threaded.withThread w { thread with slot := none })

def guarded [Threaded ω] (action : Action ω α) : Action ω (Except Crash α) := fun w =>
  let (result, w) := guard action w
  (.returned result, w)

/-- Runs a computation and swallows a panic: tells whether there was one. -/
def swallow (action : Action ω Unit) : Action ω Bool := fun w =>
  match action w with
  | (.returned _, w) => (.returned false, w)
  | (.panicked _, w) => (.returned true, w)

end Action

/-- The state that the host's code works on: its own, its thread, and the switch of its server. -/
structure World (σ : Type) where
  host : σ
  thread : Thread := {}
  stopped : Bool := false

namespace World

def withHost (world : World σ) (host : τ) : World τ where
  host := host
  thread := world.thread
  stopped := world.stopped

@[simp] theorem host_withHost (world : World σ) (host : τ) : (world.withHost host).host = host :=
  rfl

@[simp] theorem withHost_withHost (world : World σ) (host : τ) (other : υ) :
    (world.withHost host).withHost other = world.withHost other :=
  rfl

@[simp] theorem withHost_host (world : World σ) : world.withHost world.host = world :=
  rfl

end World

instance : Threaded (World σ) where
  thread := World.thread
  withThread w thread := { w with thread }
  thread_withThread _ _ := rfl

end Switchboard
