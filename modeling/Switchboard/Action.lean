/-!
# Actions

A computation of the host's code works on a state and either returns a value or panics. What it
did to the state before a panic stands.
-/

namespace Switchboard

inductive PanicPayload
  | text (s : String)
  | other
deriving DecidableEq, Repr

namespace PanicPayload

def message : PanicPayload → String
  | text s => s
  | other => "non-string panic payload"

end PanicPayload

inductive Ending (α : Type)
  | returned (value : α)
  | panicked (payload : PanicPayload)
deriving DecidableEq, Repr

def Action (ω α : Type) : Type := ω → Ending α × ω

namespace Action

protected def pure (value : α) : Action ω α := fun w => (.returned value, w)

protected def bind (first : Action ω α) (second : α → Action ω β) : Action ω β := fun w =>
  match first w with
  | (.returned value, w) => second value w
  | (.panicked payload, w) => (.panicked payload, w)

instance : Monad (Action ω) where
  pure := Action.pure
  bind := Action.bind

def get : Action ω ω := fun w => (.returned w, w)

def modify (f : ω → ω) : Action ω Unit := fun w => (.returned (), f w)

/-- Starts to unwind without telling the thread. -/
def unwind (payload : PanicPayload) : Action ω α := fun w => (.panicked payload, w)

end Action

end Switchboard
