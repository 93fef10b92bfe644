import Switchboard.Arguments
import Switchboard.Context
import Switchboard.Recovery
import Switchboard.Text.Quoted

/-!
# Plans

A plan is what the program knows of one exposed method: its declared name, the types of its
arguments, whether it takes the context, where it reports errors, and how it is called.
-/

namespace Switchboard

/-- How what a method returns becomes a payload or an error. -/
structure Returns (ρ : Type) where
  /-- The place of the error in what the method returns: the first of nothing else, or the second
  after a payload. -/
  errorPosition : Option Nat
  outcome : ρ → Except ServiceError (Option Json)

namespace Returns

def payload (codec : Codec α) (value : α) : Except ServiceError (Option Json) :=
  match codec.encode value with
  | .ok json => .ok (some json)
  | .error error => .error (.other error.message)

def nothing : Returns Unit where
  errorPosition := none
  outcome _ := .ok none

def plain (codec : Codec α) : Returns α where
  errorPosition := none
  outcome := payload codec

def fallible (codec : Codec α) : Returns (Except ServiceError α) where
  errorPosition := some 1
  outcome
    | .ok value => payload codec value
    | .error error => .error error

def check : Returns (Except ServiceError Unit) where
  errorPosition := some 0
  outcome
    | .ok () => payload .unit ()
    | .error error => .error error

end Returns

structure Handler (σ : Type) where
  parameters : List Parameter
  takesContext : Bool := false
  errorPosition : Option Nat
  body : Context → Values parameters → Action (World σ) (Except ServiceError (Option Json))

namespace Handler

def acting (parameters : List Parameter) (returns : Returns ρ)
    (body : Values parameters → Action (World σ) ρ) : Handler σ where
  parameters := parameters
  errorPosition := returns.errorPosition
  body := fun _ values => do return returns.outcome (← body values)

def pure (parameters : List Parameter) (returns : Returns ρ) (body : Values parameters → ρ) :
    Handler σ :=
  acting parameters returns fun values => Action.pure (body values)

def withContext (parameters : List Parameter) (returns : Returns ρ)
    (body : Context → Values parameters → ρ) : Handler σ where
  parameters := parameters
  takesContext := true
  errorPosition := returns.errorPosition
  body := fun context values => Action.pure (returns.outcome (body context values))

end Handler

structure Plan (σ : Type) where
  name : String
  argTypes : List String
  takesContext : Bool
  errorPosition : Option Nat
  /-- Binds the arguments. What comes of it is the run of the method in a context. -/
  bind : Option Json →
    Except BindError (Context → Action (World σ) (Except ServiceError (Option Json)))

namespace Plan

def call (plan : Plan σ) (context : Context) (params : Option Json) :
    Action (World σ) (Except WireError (Option Json)) :=
  match plan.bind params with
  | .error error => Action.pure (.error error.toWire)
  | .ok method => do
    let outcome ← method context
    return outcome.mapError ServiceError.toWire

def ofHandler (name : String) (handler : Handler σ) : Plan σ where
  name := name
  argTypes := handler.parameters.map (·.typeName)
  takesContext := handler.takesContext
  errorPosition := handler.errorPosition
  bind params := do
    let arguments ← Arguments.ofParams params handler.parameters.length
    let values ← arguments.bindAll handler.parameters
    return fun context => handler.body context values

def describe (plan : Plan σ) : String :=
  "CallablePlan \x7b method_name: " ++ quoted plan.name
    ++ ", arg_types: " ++ quotedList plan.argTypes
    ++ ", has_context: " ++ (if plan.takesContext then "true" else "false")
    ++ ", error_position: "
    ++ (match plan.errorPosition with
      | some position => "Some(" ++ Nat.repr position ++ ")"
      | none => "None")
    ++ ", .. \x7d"

end Plan

end Switchboard
