import Switchboard.Declaration.Attribute
import Switchboard.Declaration.TypeExpr

/-!
# Declared methods

The declaration of a method of a service, and whether and how the method is exposed.
-/

namespace Switchboard

inductive Visibility
  | everywhere
  | restricted
  | hidden
deriving DecidableEq, Repr

def Visibility.ofText : String → Visibility
  | "pub" => everywhere
  | "" => hidden
  | _ => restricted

structure DeclaredMethod where
  name : String
  visibility : Visibility := .hidden
  isAsync : Bool := false
  isUnsafe : Bool := false
  isVariadic : Bool := false
  generics : List String := []
  receiver : Option TypeExpr := none
  parameters : List TypeExpr := []
  returns : Option TypeExpr := none
  attributes : List Attribute := []

structure ExposureOptions where
  skip : Bool := false
  name : Option String := none
deriving DecidableEq, Repr

namespace ExposureOptions

def attributePath : String := "rpc"

def readItem : ItemReader ExposureOptions := fun _ item options =>
  match item.key with
  | "skip" => do
    item.assigned.nothing?
    .ok { options with skip := true }
  | "name" => do .ok { options with name := some (← item.assigned.string?) }
  | _ => .error (.keyExpected "\x60skip\x60 or \x60name = \"...\"\x60")

def readAttribute (attr : Attribute)
    (before : ExposureOptions × Option AttributeError) :
    ExposureOptions × Option AttributeError :=
  match attr.read readItem before.1 with
  | .ok options => (options, before.2)
  | .error error => (before.1, some error)

/-- What the attributes of a method say: of two names the later counts, and of errors the last. -/
def ofAttributes (attributes : List Attribute) : Except AttributeError ExposureOptions :=
  let (options, error) := (attributes.filter (·.path == attributePath)).foldl
    (fun before attr => readAttribute attr before) ({}, none)
  match error with
  | some error => .error error
  | none => .ok options

def others (attributes : List Attribute) : List Attribute :=
  attributes.filter (·.path != attributePath)

end ExposureOptions

/-- How what a method returns reaches the wire. -/
inductive ReturnShape
  | outcome
  | payload
deriving DecidableEq, Repr

structure ExposedMethod where
  name : String
  calls : String
  takesContext : Bool
  arguments : List TypeExpr
  shape : ReturnShape

namespace ExposedMethod

def passed (method : ExposedMethod) : Nat :=
  method.arguments.length + if method.takesContext then 1 else 0

end ExposedMethod

namespace TypeExpr

def returnShape? : TypeExpr → Option ReturnShape
  | parens inner | group inner => inner.returnShape?
  | tuple [] => some .outcome
  | tuple _ | never | opaqueType _ | traitObject _ | pointer .. | function .. => none
  | reference life _ _ => if life == some "static" then some .payload else none
  | path _ name _ => some (if name == "Result" || name == "Json" then .outcome else .payload)
  | lifetime _ | inferred | array .. | slice _ | expansion _ | verbatim _ => some .payload

def isContext : TypeExpr → Bool
  | reference _ mutable target => !mutable && target.endsIn "RequestContext"
  | _ => false

def isBorrowed : TypeExpr → Bool
  | reference .. | opaqueType _ => true
  | _ => false

end TypeExpr

namespace DeclaredMethod

def plainName (method : DeclaredMethod) : String :=
  match method.name.toList with
  | 'r' :: '#' :: rest => String.ofList rest
  | _ => method.name

def isPlain (method : DeclaredMethod) : Bool :=
  method.visibility == .everywhere && !method.isAsync && !method.isUnsafe && !method.isVariadic
    && method.generics.isEmpty

def borrowsReceiver (method : DeclaredMethod) : Bool :=
  method.receiver.any (·.isSharedReference)

def splitContext : List TypeExpr → Bool × List TypeExpr
  | first :: rest => if first.isContext then (true, rest) else (false, first :: rest)
  | [] => (false, [])

def exposed? (method : DeclaredMethod) (rename : Option String) : Option ExposedMethod :=
  let (takesContext, arguments) := splitContext method.parameters
  let shape := match method.returns with
    | none => some .outcome
    | some type => type.returnShape?
  match shape with
  | none => none
  | some shape =>
    if method.isPlain && method.borrowsReceiver && !arguments.any (·.isBorrowed) then
      some
        { name := rename.getD method.plainName
          calls := method.name
          takesContext
          arguments
          shape }
    else none

end DeclaredMethod

end Switchboard
