import Switchboard.Declaration.ServiceBlock

/-!
# App structures

A structure whose marked fields are services is an app: it registers them in the order of their
declaration, and hides the methods that its own attributes name.
-/

namespace Switchboard

inductive AppShape
  | record
  | other
deriving DecidableEq, Repr

structure AppField where
  name : String
  attributes : List Attribute := []
deriving DecidableEq, Repr

structure AppStructure where
  name : String
  generics : List String := []
  shape : AppShape := .record
  fields : List AppField := []
  attributes : List Attribute := []
deriving DecidableEq, Repr

/-- The registration of the service in a field, under the explicit name if there is one. -/
structure FieldRegistration where
  field : String
  name : Option String
deriving DecidableEq, Repr

structure AppOutline where
  self : String
  excluded : Option (List String)
  registrations : List FieldRegistration
deriving DecidableEq, Repr

namespace AppStructure

def readExcludes : ItemReader (List String) := fun isLast item names =>
  match item.key with
  | "exclude" => do .ok (names ++ (← item.assigned.strings? isLast))
  | _ => .error (.keyExpected "\x60exclude(\"...\")\x60")

def excludes (app : AppStructure) : Except AttributeError (List String) :=
  (app.attributes.filter (·.path == "rpc_app")).foldlM
    (fun names attr => attr.read readExcludes names) []

def readName : ItemReader (Option String) := fun _ item _ =>
  match item.key with
  | "name" => do .ok (some (← item.assigned.string?))
  | _ => .error (.keyExpected "\x60name = \"...\"\x60")

def registration (field : AppField) (mark : Attribute) :
    Except AttributeError FieldRegistration :=
  match mark.items with
  | none => .ok { field := field.name, name := none }
  | some _ => do .ok { field := field.name, name := ← mark.read readName none }

def registrations (field : AppField) : Except AttributeError (List FieldRegistration) :=
  (field.attributes.filter (·.path == "rpc")).mapM (registration field)

def parameterName (parameter : String) : String :=
  let text := TypeExpr.skipBlanks parameter.toList
  let text := (TypeExpr.afterWord? "const".toList text).getD text
  String.ofList
    ((text.takeWhile fun c => c != ':' && c != '=').filter fun c => !c.isWhitespace)

/-- The parameters as arguments, those that are lifetimes first. Each keeps the comma that it is
declared with. -/
def argumentsText (generics : List String) : String :=
  let isLifetime (parameter : String) : Bool := parameter.startsWith "'"
  let names := generics.map parameterName
  let pieces := names.zipIdx.map fun (name, i) =>
    (name, if i + 1 < names.length then "," else "")
  let lifetimes := pieces.filter (isLifetime ·.1)
  let others := pieces.filter (!isLifetime ·.1)
  let joint := match lifetimes.getLast? with
    | some (_, "") => if others.isEmpty then "" else ","
    | _ => ""
  let join (pieces : List (String × String)) : String :=
    String.join (pieces.map fun (name, comma) => name ++ comma)
  if generics.isEmpty then "" else "<" ++ join lifetimes ++ joint ++ join others ++ ">"

def outline (app : AppStructure) : Except ExpansionError AppOutline := do
  let excludes ← app.excludes.mapError .badAttribute
  if app.shape == .other then .error .notAStructure
  let registrations ← (app.fields.mapM registrations).mapError .badAttribute
  .ok
    { self := app.name ++ argumentsText app.generics
      excluded := if excludes.isEmpty then none else some excludes
      registrations := registrations.flatten }

end AppStructure

end Switchboard
