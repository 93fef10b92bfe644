import Mathlib.Tactic
import Switchboard.Visit

/-!
# Laws of actions

What an action does to one state. A guard is entered and left one level of its thread at a time,
and a crash takes the recorded backtrace with it.
-/

namespace Switchboard

/-- What a report says of a payload: the text that it carries, or that it carries none. -/
inductive PanicPayload.Says : PanicPayload → String → Prop
  | text (s : String) : Says (.text s) s
  | other : Says .other "non-string panic payload"

theorem PanicPayload.says_message (payload : PanicPayload) : payload.Says payload.message := by
  cases payload with
  | text s => exact .text s
  | other => exact .other

namespace Action

@[simp] theorem pure_apply (value : α) (w : ω) :
    Action.pure value w = (.returned value, w) := rfl

theorem bind_of_returned {first : Action ω α} {second : α → Action ω β} {w after : ω} {value : α}
    (h : first w = (.returned value, after)) :
    (first >>= second) w = second value after := by
  change Action.bind first second w = _
  simp only [Action.bind, h]

theorem bind_of_panicked {first : Action ω α} {second : α → Action ω β} {w after : ω}
    {payload : PanicPayload} (h : first w = (.panicked payload, after)) :
    (first >>= second) w = (.panicked payload, after) := by
  change Action.bind first second w = _
  simp only [Action.bind, h]

theorem unlogged_apply {action : Action ω α} {w after : ω} {ending : Ending α}
    (h : action w = (ending, after)) (log : List Event) :
    unlogged action ⟨w, log⟩ = (ending, ⟨after, log⟩) := by
  simp only [unlogged, h]

@[simp] theorem emit_apply (event : Event) (w : ω) (log : List Event) :
    emit event ⟨w, log⟩ = (.returned (), ⟨w, log ++ [event]⟩) := rfl

section Guard

variable [Threaded ω]

def enterGuard (w : ω) : ω :=
  let thread := Threaded.thread w
  Threaded.withThread w { thread with depth := thread.depth + 1 }

/-- The report of a panic that ends the computation of a guard in a state. -/
def report (payload : PanicPayload) (after : ω) : Crash where
  message := payload.message
  backtrace := ((Threaded.thread after).slot.map Backtrace.text).getD ""

def leaveCrash (after : ω) : ω :=
  let left := leaveGuard after
  Threaded.withThread left { Threaded.thread left with slot := none }

theorem guard_of_returned {action : Action ω α} {w after : ω} {value : α}
    (h : action (enterGuard w) = (.returned value, after)) :
    guard action w = (.ok value, leaveGuard after) := by
  unfold enterGuard at h
  simp only [guard, h]

theorem guard_of_panicked {action : Action ω α} {w after : ω} {payload : PanicPayload}
    (h : action (enterGuard w) = (.panicked payload, after)) :
    guard action w = (.error (report payload after), leaveCrash after) := by
  have hslot : (Threaded.thread (leaveGuard after)).slot = (Threaded.thread after).slot := by
    unfold leaveGuard
    rw [Threaded.thread_withThread]
  unfold enterGuard at h
  simp only [guard, h, report, leaveCrash, hslot]

theorem guarded_of_returned {action : Action ω α} {w after : ω} {value : α}
    (h : action (enterGuard w) = (.returned value, after)) :
    guarded action w = (.returned (.ok value), leaveGuard after) := by
  simp only [guarded, guard_of_returned h]

theorem guarded_of_panicked {action : Action ω α} {w after : ω} {payload : PanicPayload}
    (h : action (enterGuard w) = (.panicked payload, after)) :
    guarded action w = (.returned (.error (report payload after)), leaveCrash after) := by
  simp only [guarded, guard_of_panicked h]

theorem guarded_logged_of_returned {action : Action (Logged ω) α} {w after : ω} {value : α}
    {log noted : List Event} (h : action ⟨enterGuard w, log⟩ = (.returned value, ⟨after, noted⟩)) :
    guarded action ⟨w, log⟩ = (.returned (.ok value), ⟨leaveGuard after, noted⟩) :=
  guarded_of_returned (w := Logged.mk w log) h

theorem guarded_logged_of_panicked {action : Action (Logged ω) α} {w after : ω}
    {payload : PanicPayload} {log noted : List Event}
    (h : action ⟨enterGuard w, log⟩ = (.panicked payload, ⟨after, noted⟩)) :
    guarded action ⟨w, log⟩ =
      (.returned (.error (report payload after)), ⟨leaveCrash after, noted⟩) :=
  guarded_of_panicked (w := Logged.mk w log) h

end Guard

end Action

end Switchboard
