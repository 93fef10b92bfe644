import Switchboard.Registry

/-!
# Services

What is registered: services with hooks, definitions that are put together from handlers, and apps
that bundle services.
-/

namespace Switchboard

/-- A value whose methods can be called, with the hooks that its registration runs. -/
structure Service (σ : Type) where
  {Instance : Type}
  typeName : String
  fresh : Instance
  ownName : Instance → Action (World σ) (Option String) := fun _ => Action.pure none
  /-- Sets the value up, before its methods are looked at. -/
  construct : Instance → Action (World σ) Instance := Action.pure
  excluded : Instance → Action (World σ) (List String) := fun _ => Action.pure []
  methods : Instance → Action (World σ) (List (Plan σ))
  backing : Instance → Backing := fun _ => { typeName }

namespace Service

/-- What a service is registered as. The name is the explicit one if it is not empty, else the one
that the service asks for before it is set up, and else that of its type. -/
def registration (service : Service σ) (explicit : Option String) :
    Action (World σ) (Registration σ) := do
  let asked : Action (World σ) (Option String) :=
    match explicit.filter (!·.isEmpty) with
    | some name => Action.pure (some name)
    | none => service.ownName service.fresh
  let name ← asked
  let ready ← service.construct service.fresh
  let excluded ← service.excluded ready
  let plans ← service.methods ready
  return {
    name := name.getD service.typeName
    typeName := service.typeName
    backing := some (service.backing ready)
    plans
    excluded }

end Service

structure Definition (σ : Type) where
  name : String
  plans : List (Plan σ) := []
  excluded : List String := []

namespace Definition

def method (definition : Definition σ) (name : String) (handler : Handler σ) : Definition σ :=
  { definition with plans := definition.plans ++ [.ofHandler name handler] }

def exclude (definition : Definition σ) (names : List String) : Definition σ :=
  { definition with excluded := definition.excluded ++ names }

def registration (definition : Definition σ) : Registration σ where
  name := definition.name
  typeName := "ServiceDef"
  plans := definition.plans
  excluded := definition.excluded

end Definition

structure App (σ : Type) where
  /-- Names of methods that the services of this app and all later ones hide; if there are none,
  those of an earlier app stay. -/
  excludedMethods : List String := []
  services : List (Service σ × Option String) := []

end Switchboard
