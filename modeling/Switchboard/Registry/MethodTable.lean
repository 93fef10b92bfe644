import Switchboard.Log
import Switchboard.Naming
import Switchboard.Plan

/-!
# Method tables

The methods of a service by folded name. A plan enters the table of its service unless its folded
name is skipped or was taken by an earlier plan.
-/

namespace Switchboard

/-- The hooks of a service, which are never exposed as methods. -/
def reservedNames : List String :=
  ["constructor", "excluded_methods", "rpc_namespace"]

structure MethodTable (σ : Type) where
  entries : List (String × Plan σ) := []

inductive Fate
  | kept
  | excluded
  | shadowed
deriving DecidableEq, Repr

namespace MethodTable

def get? (table : MethodTable σ) (name : String) : Option (Plan σ) :=
  (table.entries.find? (·.1 == name)).map (·.2)

def contains (table : MethodTable σ) (name : String) : Bool :=
  table.entries.any (·.1 == name)

def size (table : MethodTable σ) : Nat :=
  table.entries.length

def isEmpty (table : MethodTable σ) : Bool :=
  table.entries.isEmpty

def names (table : MethodTable σ) : List String :=
  (table.entries.map (·.1)).mergeSort fun a b => a ≤ b

def fate (table : MethodTable σ) (skipped : List String) (name : String) : Fate :=
  if skipped.contains name then .excluded
  else if table.contains name then .shadowed
  else .kept

def offer (naming : Naming) (skipped : List String) (table : MethodTable σ) (plan : Plan σ) :
    MethodTable σ :=
  let name := naming.fold plan.name
  match table.fate skipped name with
  | .kept => ⟨table.entries ++ [(name, plan)]⟩
  | .excluded | .shadowed => table

def ofPlans (naming : Naming) (skipped : List String) (plans : List (Plan σ)) : MethodTable σ :=
  plans.foldl (offer naming skipped) {}

def offerEvents (space : String) (naming : Naming) (skipped : List String) (table : MethodTable σ)
    (plan : Plan σ) : List Event :=
  let name := naming.fold plan.name
  match table.fate skipped name with
  | .kept => []
  | .excluded =>
    [{ level := .debug
       target := Event.registryTarget
       message := "method excluded"
       fields := [("namespace", space), ("method", name)] }]
  | .shadowed =>
    [{ level := .warn
       target := Event.registryTarget
       message := "duplicate method after normalization, keeping the first"
       fields := [("namespace", space), ("method", name), ("declared", plan.name)] }]

def events (space : String) (naming : Naming) (skipped : List String) :
    MethodTable σ → List (Plan σ) → List Event
  | _, [] => []
  | table, plan :: plans =>
    offerEvents space naming skipped table plan
      ++ events space naming skipped (offer naming skipped table plan) plans

end MethodTable

end Switchboard
