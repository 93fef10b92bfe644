import Mathlib.Tactic
import Switchboard.Proofs.Bindings
import Switchboard.Proofs.Record

/-!
# The order of a request's stages

The first stage that fails decides the answer. The middleware that applies runs in the order of the
chain, and the method last and once, after all of it and once its arguments are bound.
-/

namespace Switchboard

namespace Run

def place? : Run → Option Nat
  | middleware place _ _ => some place
  | method _ _ _ => none

def isMethod : Run → Bool
  | middleware _ _ _ => false
  | method _ _ _ => true

end Run

namespace Chain

def applicable (path : String) : Nat → List (Middleware σ) → List Nat
  | _, [] => []
  | place, entry :: entries =>
    if entry.scope.appliesTo path then place :: applicable path (place + 1) entries
    else applicable path (place + 1) entries

theorem Passes.isMethod_eq_false {path : String} {place : Nat} {entries : List (Middleware σ)}
    {visit after : Visit σ} {runs : List Run} {ending : Ending (Except ServiceError Unit)}
    (h : Passes path place entries visit runs ending after) :
    ∀ run ∈ runs, run.isMethod = false := by
  induction h with
  | done => simp
  | skip _ _ ih => exact ih
  | pass _ _ _ ih =>
    intro run hrun
    rcases List.mem_cons.1 hrun with rfl | hrun
    · rfl
    · exact ih run hrun
  | stop | panic =>
    intro run hrun
    obtain rfl := List.mem_singleton.1 hrun
    rfl

/-- The middleware that applies runs in the order of the chain, each at most once and none before
those ahead of it. -/
theorem Passes.places_isPrefix {path : String} {place : Nat} {entries : List (Middleware σ)}
    {visit after : Visit σ} {runs : List Run} {ending : Ending (Except ServiceError Unit)}
    (h : Passes path place entries visit runs ending after) :
    runs.map Run.place? <+: (applicable path place entries).map some := by
  induction h with
  | done => exact List.prefix_rfl
  | skip hscope _ ih =>
    rw [applicable, if_neg (by simp [hscope])]
    exact ih
  | pass hscope _ _ ih =>
    rw [applicable, if_pos hscope, List.map_cons, List.map_cons, Run.place?]
    exact (List.prefix_cons_inj _).2 ih
  | stop hscope | panic hscope =>
    rw [applicable, if_pos hscope, List.map_cons, List.map_cons, Run.place?]
    exact (List.prefix_cons_inj _).2 List.nil_prefix

theorem Passes.places_of_ok {path : String} {place : Nat} {entries : List (Middleware σ)}
    {visit after : Visit σ} {runs : List Run}
    (h : Passes path place entries visit runs (.returned (.ok ())) after) :
    runs.map Run.place? = (applicable path place entries).map some := by
  generalize hending : (.returned (.ok ()) : Ending (Except ServiceError Unit)) = ending at h
  induction h with
  | done => rfl
  | skip hscope _ ih =>
    rw [applicable, if_neg (by simp [hscope])]
    exact ih hending
  | pass hscope _ _ ih =>
    rw [applicable, if_pos hscope, List.map_cons, List.map_cons, Run.place?, ih hending]
  | stop | panic => simp at hending

end Chain

theorem Plan.ofHandler_bind_ok {name : String} {handler : Handler σ} {params : Option Json}
    {method : Context → Action (World σ) (Except ServiceError (Option Json))}
    (h : (ofHandler name handler).bind params = .ok method) :
    ∃ values, method = fun context => handler.body context values := by
  rw [Handler.bind_ofHandler] at h
  cases hvalues : Arguments.ofRequest handler.parameters params with
  | error error =>
    rw [hvalues] at h
    cases h
  | ok values =>
    rw [hvalues] at h
    exact ⟨values, (Except.ok.inj h).symm⟩

namespace Server

theorem Calls.not_early {server : Server σ} {address : Address} {plan : Plan σ}
    {params : Option Json} {visit : Visit σ} {course : Course σ}
    (h : server.Calls address plan params visit course) :
    ¬course.stage.Early := by
  cases h <;> exact id

theorem Calls.runs_cases {server : Server σ} {address : Address} {plan : Plan σ}
    {params : Option Json} {visit : Visit σ} {course : Course σ}
    (h : server.Calls address plan params visit course) :
    (∀ run ∈ course.runs, run.isMethod = false) ∨
      ∃ method before between,
        Chain.Passes address.path 0 server.chain.entries (Action.enterGuard visit) before
          (.returned (.ok ())) between ∧
        plan.bind params = .ok method ∧
        course.runs =
          before ++ [.method address.space address.method between.context.method] := by
  cases h with
  | stopped hpasses | stumbled hpasses | unbound hpasses =>
    exact .inl hpasses.isMethod_eq_false
  | failed hpasses hbind | crashed hpasses hbind | completed hpasses hbind =>
    exact .inr ⟨_, _, _, hpasses, hbind, rfl⟩

theorem Calls.runs_of_bound {server : Server σ} {address : Address} {plan : Plan σ}
    {params : Option Json} {visit between : Visit σ} {course : Course σ} {before : List Run}
    {method : Context → Action (World σ) (Except ServiceError (Option Json))}
    (h : server.Calls address plan params visit course)
    (hpasses : Chain.Passes address.path 0 server.chain.entries (Action.enterGuard visit) before
      (.returned (.ok ())) between)
    (hbind : plan.bind params = .ok method) :
    course.runs = before ++ [.method address.space address.method between.context.method] := by
  obtain ⟨other, hother, hruns⟩ := exists_calls_of_bound hpasses hbind
  rw [h.unique hother, hruns]

def quiet : Server Unit where
  options := {}
  registry :=
    { services := [("tea", {
        name := "tea"
        typeName := "Tea"
        methods := ⟨[("pour", .ofHandler "pour" (.pure [] .nothing fun _ => ()))]⟩ })] }
  chain := ⟨[{ scope := .ofScope .snake .all, handler := fun _ => Action.pure (.ok ()) }]⟩

def quietBody : List UInt8 :=
  "\x7b\"id\":1,\"method\":\"tea.pour\"\x7d".toUTF8.data.toList

end Server

end Switchboard
