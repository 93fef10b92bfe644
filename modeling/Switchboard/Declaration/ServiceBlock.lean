import Switchboard.Declaration.Method

/-!
# Service blocks

A block of declarations makes a type a service: its hooks are forwarded to the registration, and
its other methods are exposed where that is possible.
-/

namespace Switchboard

inductive ExpansionError
  | notInherent
  | notAStructure
  | badAttribute (error : AttributeError)
deriving DecidableEq, Repr

namespace ExpansionError

def message : ExpansionError → String
  | notInherent => "#[rpc_service] goes on an inherent impl block"
  | notAStructure => "RpcApp can only be derived for structs"
  | badAttribute error => error.message

end ExpansionError

inductive BlockItem
  | method (method : DeclaredMethod)
  | constant (name : String)

structure ServiceBlock where
  self : TypeExpr
  interface : Option String := none
  items : List BlockItem := []

/-- What a registration asks a service for. -/
inductive Hook
  | ownName
  | excluded
  | construct
deriving DecidableEq, Repr

namespace Hook

def methodName : Hook → String
  | ownName => "rpc_namespace"
  | excluded => "excluded_methods"
  | construct => "constructor"

def all : List Hook := [ownName, excluded, construct]

end Hook

structure ServiceOutline where
  typeName : String
  self : TypeExpr
  hooks : List Hook
  methods : List ExposedMethod
  block : List (String × List String)

namespace ServiceBlock

def methods (block : ServiceBlock) : List DeclaredMethod :=
  block.items.filterMap fun
    | .method method => some method
    | .constant _ => none

def typeName : TypeExpr → String
  | .path _ name _ => name
  | type => type.text

def withOptions (block : ServiceBlock) :
    Except AttributeError (List (DeclaredMethod × ExposureOptions)) :=
  block.methods.mapM fun method => do
    .ok (method, ← ExposureOptions.ofAttributes method.attributes)

def isHook (method : DeclaredMethod) : Bool :=
  Hook.all.any (·.methodName == method.name)

def exposure (method : DeclaredMethod) (options : ExposureOptions) : Option ExposedMethod :=
  if isHook method || options.skip then none else method.exposed? options.name

def outline (block : ServiceBlock) : Except ExpansionError ServiceOutline :=
  if block.interface.isSome then .error .notInherent
  else
    match block.withOptions with
    | .error error => .error (.badAttribute error)
    | .ok methods =>
      .ok
        { typeName := typeName block.self
          self := block.self
          hooks := Hook.all.filter fun hook => block.methods.any (·.name == hook.methodName)
          methods := methods.filterMap fun (method, options) => exposure method options
          block := block.methods.map fun method =>
            (method.name, (ExposureOptions.others method.attributes).map (·.path)) }

end ServiceBlock

end Switchboard
