import Switchboard.Json.Codec
import Switchboard.Error

/-!
# Arguments

The elements of a request's parameters are bound to the parameters of a method by position. There
may not be more elements than parameters; where there are fewer, the rest is bound from `null`.
-/

namespace Switchboard

inductive BindError
  | notAnArray
  | tooMany (expected got : Nat)
  /-- No element was given, and `null` is not a value of the type. -/
  | missing (index : Nat) (typeName : String)
  | invalid (index : Nat) (typeName : String) (source : Json.Error)

namespace BindError

def message : BindError → String
  | notAnArray => "non-array params"
  | tooMany expected _ => "too many arguments, want at most " ++ Nat.repr expected
  | missing index _ => "missing value for required argument " ++ Nat.repr index
  | invalid index _ source => "invalid argument " ++ Nat.repr index ++ ": " ++ source.message

def toWire (error : BindError) : WireError :=
  .invalidParams error.message

end BindError

structure Parameter where
  {Carrier : Type}
  typeName : String
  decode : Json → Except Json.Error Carrier

@[reducible] def Codec.parameter (codec : Codec α) : Parameter where
  Carrier := α
  typeName := codec.typeName
  decode := codec.decode

@[reducible] def Values : List Parameter → Type
  | [] => Unit
  | parameter :: parameters => parameter.Carrier × Values parameters

/-- The elements that are still to be bound. -/
structure Arguments where
  elements : List Json
  supplied : Nat
  index : Nat

namespace Arguments

/-- The elements of the parameters of a request, for a method that takes so many. Absent
parameters and `null` are no elements. -/
def ofParams (params : Option Json) (expected : Nat) : Except BindError Arguments :=
  let check (elements : List Json) : Except BindError Arguments :=
    if expected < elements.length then .error (.tooMany expected elements.length)
    else .ok ⟨elements, elements.length, 0⟩
  match params with
  | none | some .null => check []
  | some (.array elements) => check elements
  | some _ => .error .notAnArray

def next (arguments : Arguments) (parameter : Parameter) :
    Except BindError parameter.Carrier × Arguments :=
  let index := arguments.index
  match arguments.elements with
  | element :: rest =>
    ((parameter.decode element).mapError (.invalid index parameter.typeName),
      { arguments with elements := rest, index := index + 1 })
  | [] =>
    ((parameter.decode .null).mapError fun _ => .missing index parameter.typeName,
      { arguments with index := index + 1 })

def bindAll : (parameters : List Parameter) → Arguments → Except BindError (Values parameters)
  | [], _ => .ok ()
  | parameter :: parameters, arguments =>
    match arguments.next parameter with
    | (.error error, _) => .error error
    | (.ok value, rest) => (bindAll parameters rest).map fun values => (value, values)

end Arguments

end Switchboard
