import Mathlib.Tactic
import Switchboard.Proofs.Actions
import Switchboard.Plan

/-!
# Binding by position

A method is called with the values that its parameters read from the elements of a request, each
from the one in its place, or from `null` past the last element. If there are too many elements, or
one cannot be read, the method is not called, and the error tells the first thing that is wrong.
-/

namespace Switchboard

namespace Values

def get : {parameters : List Parameter} → Values parameters → (i : Fin parameters.length) →
    (parameters.get i).Carrier
  | _ :: _, values, ⟨0, _⟩ => values.1
  | _ :: _, values, ⟨i + 1, h⟩ => get values.2 ⟨i, Nat.lt_of_succ_lt_succ h⟩

end Values

namespace Arguments

/-! ## Single arguments -/

def past (elements : List Json) (count : Nat) : Arguments where
  elements := elements.drop count
  supplied := elements.length
  index := count

def ofRequest (parameters : List Parameter) (params : Option Json) :
    Except BindError (Values parameters) := do
  let arguments ← ofParams params parameters.length
  arguments.bindAll parameters

variable {parameters : List Parameter} {params : Option Json} {elements : List Json}

end Arguments

/-! ## Calls -/

namespace Handler

/-- A handler that notes what it is called with in the host's state. -/
def noting (handler : Handler σ) : Handler (σ × List (Context × Values handler.parameters)) where
  parameters := handler.parameters
  takesContext := handler.takesContext
  errorPosition := handler.errorPosition
  body context values := fun world =>
    match handler.body context values (world.withHost world.host.1) with
    | (ending, after) =>
      (ending, after.withHost (after.host, world.host.2 ++ [(context, values)]))

def calls (handler : Handler σ) (context : Context) (params : Option Json) (world : World σ) :
    List (Context × Values handler.parameters) :=
  ((Plan.ofHandler "" handler.noting).call context params
    (world.withHost (world.host, []))).2.host.2

theorem bind_ofHandler (name : String) (handler : Handler σ) (params : Option Json) :
    (Plan.ofHandler name handler).bind params =
      (Arguments.ofRequest handler.parameters params).map fun values context =>
        handler.body context values := by
  simp only [Plan.ofHandler, Arguments.ofRequest]
  cases Arguments.ofParams params handler.parameters.length with
  | error error => rfl
  | ok arguments =>
    change (arguments.bindAll handler.parameters >>= _) =
      (arguments.bindAll handler.parameters).map _
    cases arguments.bindAll handler.parameters <;> rfl

end Handler

end Switchboard
