import Switchboard.Registry.MethodTable

/-!
# The registry

Services by namespace. Namespaces and method names are folded before they are stored, so that a
lookup with folded names finds a method however the caller spelled it.
-/

namespace Switchboard

inductive RegistryError
  | duplicateNamespace (name : String)
  | invalidNamespace (name : String)
deriving DecidableEq, Repr

namespace RegistryError

def message : RegistryError → String
  | duplicateNamespace name => "namespace [" ++ name ++ "] exists"
  | invalidNamespace name =>
    "invalid namespace [" ++ name ++ "]: must be non-empty and must not contain '.'"

end RegistryError

/-- The value behind a service: its type, and what can be seen of it. -/
structure Backing where
  typeName : String
  snapshot : Json := .null

/-- A service before it is added: nothing is folded yet. -/
structure Registration (σ : Type) where
  name : String
  typeName : String
  backing : Option Backing := none
  plans : List (Plan σ)
  excluded : List String := []

structure Entry (σ : Type) where
  name : String
  typeName : String
  backing : Option Backing := none
  methods : MethodTable σ

namespace Entry

def snapshot? (entry : Entry σ) (typeName : String) : Option Json :=
  (entry.backing.filter (·.typeName == typeName)).map (·.snapshot)

def describe (entry : Entry σ) : String :=
  "ServiceEntry \x7b name: " ++ quoted entry.name
    ++ ", type_name: " ++ quoted entry.typeName
    ++ ", methods: " ++ quotedList entry.methods.names
    ++ " \x7d"

end Entry

structure Registry (σ : Type) where
  naming : Naming := .snake
  services : List (String × Entry σ) := []
  /-- Names of methods that every service added from now on hides. -/
  globalExcludes : List String := []

inductive Verdict (σ : Type)
  | refused (error : RegistryError)
  | hollow
  | accepted (entry : Entry σ)

namespace Registry

def service? (registry : Registry σ) (name : String) : Option (Entry σ) :=
  (registry.services.find? (·.1 == name)).map (·.2)

def contains (registry : Registry σ) (name : String) : Bool :=
  registry.services.any (·.1 == name)

def size (registry : Registry σ) : Nat :=
  registry.services.length

def isEmpty (registry : Registry σ) : Bool :=
  registry.services.isEmpty

def namespaces (registry : Registry σ) : List String :=
  (registry.services.map (·.1)).mergeSort fun a b => a ≤ b

def setGlobalExcludes (registry : Registry σ) (names : List String) : Registry σ :=
  { registry with globalExcludes := names }

def isNamespace (name : String) : Bool :=
  !name.isEmpty && !name.toList.contains separator

/-- The folded names that the methods of a registration must not have. -/
def skippedNames (registry : Registry σ) (registration : Registration σ) : List String :=
  (reservedNames ++ registration.excluded ++ registry.globalExcludes).map registry.naming.fold

def exposed (registry : Registry σ) (registration : Registration σ) : MethodTable σ :=
  .ofPlans registry.naming (registry.skippedNames registration) registration.plans

/-- A bad name is found before a lack of methods, and that before a taken name. -/
def judge (registry : Registry σ) (registration : Registration σ) : Verdict σ :=
  let name := registry.naming.fold registration.name
  let methods := registry.exposed registration
  if !isNamespace name then .refused (.invalidNamespace name)
  else if methods.isEmpty then .hollow
  else if registry.contains name then .refused (.duplicateNamespace name)
  else
    .accepted
      { name, typeName := registration.typeName, backing := registration.backing, methods }

/-- Adds a service, unless it has no methods left. Tells whether it did. -/
def add (registry : Registry σ) (registration : Registration σ) :
    Except RegistryError (Bool × Registry σ) :=
  match registry.judge registration with
  | .refused error => .error error
  | .hollow => .ok (false, registry)
  | .accepted entry =>
    .ok (true, { registry with services := registry.services ++ [(entry.name, entry)] })

def events (registry : Registry σ) (registration : Registration σ) : List Event :=
  let name := registry.naming.fold registration.name
  let sifted := MethodTable.events name registry.naming (registry.skippedNames registration) {}
    registration.plans
  match registry.judge registration with
  | .refused (.invalidNamespace _) => []
  | .refused (.duplicateNamespace _) => sifted
  | .hollow => sifted ++
    [{ level := .warn
       target := Event.registryTarget
       message := "service exposes no methods, not registered"
       fields := [("namespace", name), ("type_name", registration.typeName)] }]
  | .accepted entry => sifted ++
    [{ level := .debug
       target := Event.registryTarget
       message := "service registered"
       fields := [("namespace", name), ("type_name", entry.typeName),
         ("methods", Nat.repr entry.methods.size)] }]

/-- The plan of a method, both names being folded. -/
def resolve (registry : Registry σ) (name method : String) : Except WireError (Plan σ) :=
  match registry.service? name with
  | none => .error (.methodNotFound "no namespace")
  | some entry =>
    match entry.methods.get? method with
    | none => .error (.methodNotFound "no method")
    | some plan => .ok plan

def describe (registry : Registry σ) : String :=
  let entries := registry.services.mergeSort fun a b => a.1 ≤ b.1
  "Registry \x7b naming: " ++ registry.naming.label
    ++ ", services: \x7b"
    ++ ", ".intercalate (entries.map fun (name, entry) => quoted name ++ ": " ++ entry.describe)
    ++ "\x7d, global_excludes: " ++ quotedList registry.globalExcludes
    ++ " \x7d"

end Registry

end Switchboard
