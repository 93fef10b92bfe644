import Mathlib.Tactic
import Switchboard.Proofs.Actions
import Switchboard.Server.Dispatch

/-!
# Recorded servers

A recorded server is a server whose host keeps a list of what was run: every middleware notes the
path that it is handed and the one that its context holds, and every method notes the keys of its
entry once its arguments are bound. Nothing that is recorded can see the record.
-/

namespace Switchboard

/-- What ran for a request. -/
inductive Run
  | middleware (place : Nat) (given seen : String)
  | method (space name seen : String)
deriving DecidableEq, Repr

/-- A host's state beside the record of what ran. -/
structure Recorded (σ : Type) where
  host : σ
  runs : List Run

namespace World

def recorded (runs : List Run) (world : World σ) : World (Recorded σ) :=
  world.withHost ⟨world.host, runs⟩

def erased (world : World (Recorded σ)) : World σ :=
  world.withHost world.host.host

end World

namespace Visit

def recorded (runs : List Run) (visit : Visit σ) : Visit (Recorded σ) where
  context := visit.context
  exchange := visit.exchange
  world := visit.world.recorded runs

def erased (visit : Visit (Recorded σ)) : Visit σ where
  context := visit.context
  exchange := visit.exchange
  world := visit.world.erased

end Visit

namespace Middleware

def recording (place : Nat) (entry : Middleware σ) : Middleware (Recorded σ) where
  scope := entry.scope
  handler path := fun visit =>
    match entry.handler path visit.erased with
    | (ending, after) =>
      (ending, after.recorded
        (visit.world.host.runs ++ [.middleware place path visit.context.method]))

theorem recording_handler {entry : Middleware σ} {path : String} {visit after : Visit σ}
    {ending : Ending (Except ServiceError Unit)} (h : entry.handler path visit = (ending, after))
    (place : Nat) (runs : List Run) :
    (entry.recording place).handler path (visit.recorded runs) =
      (ending, after.recorded (runs ++ [.middleware place path visit.context.method])) := by
  have herased : (visit.recorded runs).erased = visit := rfl
  simp only [recording, herased, h]
  rfl

end Middleware

namespace Chain

def recordFrom : Nat → List (Middleware σ) → List (Middleware (Recorded σ))
  | _, [] => []
  | place, entry :: entries => entry.recording place :: recordFrom (place + 1) entries

def recording (chain : Chain σ) : Chain (Recorded σ) :=
  ⟨recordFrom 0 chain.entries⟩

end Chain

namespace Plan

def recording (space name : String) (plan : Plan σ) : Plan (Recorded σ) where
  name := plan.name
  argTypes := plan.argTypes
  takesContext := plan.takesContext
  errorPosition := plan.errorPosition
  bind params := (plan.bind params).map fun method context world =>
    match method context world.erased with
    | (ending, after) =>
      (ending, after.recorded (world.host.runs ++ [.method space name context.method]))

theorem recording_bind_error {plan : Plan σ} {params : Option Json} {error : BindError}
    (h : plan.bind params = .error error) (space name : String) :
    (plan.recording space name).bind params = .error error := by
  simp only [recording, h]
  rfl

theorem recording_bind_ok {plan : Plan σ} {params : Option Json}
    {method : Context → Action (World σ) (Except ServiceError (Option Json))}
    (h : plan.bind params = .ok method) (space name : String) :
    ∃ recorded, (plan.recording space name).bind params = .ok recorded ∧
      ∀ {context : Context} {world after : World σ}
        {ending : Ending (Except ServiceError (Option Json))} (runs : List Run),
        method context world = (ending, after) →
          recorded context (world.recorded runs) =
            (ending, after.recorded (runs ++ [.method space name context.method])) := by
  refine ⟨_, by simp only [recording, h]; rfl, ?_⟩
  intro context world after ending runs hmethod
  have herased : (world.recorded runs).erased = world := rfl
  simp only [herased, hmethod]
  rfl

end Plan

namespace MethodTable

def recording (space : String) (table : MethodTable σ) : MethodTable (Recorded σ) :=
  ⟨table.entries.map fun (name, plan) => (name, plan.recording space name)⟩

private theorem get?_recording (space name : String) (table : MethodTable σ) :
    (table.recording space).get? name = (table.get? name).map (·.recording space name) := by
  unfold get? recording
  rw [List.find?_map]
  cases hfound : table.entries.find? (·.1 == name) with
  | none => simpa [Function.comp_def] using hfound
  | some found =>
    have hname : found.1 = name := by simpa using List.find?_some hfound
    simp [hfound, hname]

theorem get?_recording_of_none {name : String} {table : MethodTable σ}
    (h : table.get? name = none) (space : String) :
    (table.recording space).get? name = none := by
  rw [get?_recording, h]
  rfl

theorem get?_recording_of_some {name : String} {table : MethodTable σ} {plan : Plan σ}
    (h : table.get? name = some plan) (space : String) :
    (table.recording space).get? name = some (plan.recording space name) := by
  rw [get?_recording, h]
  rfl

end MethodTable

def Entry.recording (space : String) (entry : Entry σ) : Entry (Recorded σ) where
  name := entry.name
  typeName := entry.typeName
  backing := entry.backing
  methods := entry.methods.recording space

namespace Registry

def recording (registry : Registry σ) : Registry (Recorded σ) where
  naming := registry.naming
  services := registry.services.map fun (space, entry) => (space, entry.recording space)
  globalExcludes := registry.globalExcludes

private theorem service?_recording (registry : Registry σ) (space : String) :
    registry.recording.service? space = (registry.service? space).map (·.recording space) := by
  unfold service? recording
  rw [List.find?_map]
  cases hfound : registry.services.find? (·.1 == space) with
  | none => simpa [Function.comp_def] using hfound
  | some found =>
    have hspace : found.1 = space := by simpa using List.find?_some hfound
    simp [hfound, hspace]

theorem service?_recording_of_none {registry : Registry σ} {space : String}
    (h : registry.service? space = none) :
    registry.recording.service? space = none := by
  rw [service?_recording, h]
  rfl

theorem service?_recording_of_some {registry : Registry σ} {space : String} {entry : Entry σ}
    (h : registry.service? space = some entry) :
    registry.recording.service? space = some (entry.recording space) := by
  rw [service?_recording, h]
  rfl

end Registry

namespace Server

def recording (server : Server σ) : Server (Recorded σ) where
  options := server.options
  registry := server.registry.recording
  chain := server.chain.recording
  running := server.running

/-- What a server runs to answer a body. -/
def runs (server : Server σ) (body : List UInt8) (visit : Visit σ) : List Run :=
  (server.recording.handle body ⟨visit.recorded [], []⟩).2.state.world.host.runs

end Server

end Switchboard
