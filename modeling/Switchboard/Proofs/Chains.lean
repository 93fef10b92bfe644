import Mathlib.Tactic
import Switchboard.Proofs.Order

/-!
# Laws of chains

A chain runs the handlers of the entries that apply, one after the other. So a chain of two parts
runs the first and then, if that ends in peace, the second, and entries that do not apply can stand
anywhere in it.
-/

namespace Switchboard

namespace Action

/-- A computation and, if it ends in peace, another one on the state that it leaves. -/
def andThen (first second : Action ω (Except ε Unit)) : Action ω (Except ε Unit) :=
  Action.bind first fun
    | .ok () => second
    | .error error => Action.pure (.error error)

section AndThen

variable {first second : Action ω (Except ε Unit)} {w between : ω}

theorem andThen_of_ok (h : first w = (.returned (.ok ()), between)) :
    first.andThen second w = second between := by
  simp only [andThen, Action.bind, h]

theorem andThen_of_ne_ok {ending : Ending (Except ε Unit)} (h : first w = (ending, between))
    (hending : ending ≠ .returned (.ok ())) : first.andThen second w = (ending, between) := by
  rcases ending with (error | _) | payload
  · simp only [andThen, Action.bind, h, Action.pure]
  · exact absurd rfl hending
  · simp only [andThen, Action.bind, h]

end AndThen

theorem pure_andThen (second : Action ω (Except ε Unit)) :
    andThen (Action.pure (.ok ())) second = second :=
  rfl

theorem andThen_pure (first : Action ω (Except ε Unit)) :
    first.andThen (Action.pure (.ok ())) = first := by
  funext w
  rcases hfirst : first w with ⟨ending, between⟩
  by_cases hending : ending = .returned (.ok ())
  · subst hending
    rw [andThen_of_ok hfirst, pure_apply]
  · exact andThen_of_ne_ok hfirst hending

theorem andThen_assoc (first second third : Action ω (Except ε Unit)) :
    (first.andThen second).andThen third = first.andThen (second.andThen third) := by
  funext w
  rcases hfirst : first w with ⟨ending, between⟩
  by_cases hending : ending = .returned (.ok ())
  · subst hending
    rw [andThen_of_ok hfirst]
    simp only [andThen, Action.bind, hfirst]
  · rw [andThen_of_ne_ok hfirst hending, andThen_of_ne_ok (andThen_of_ne_ok hfirst hending) hending]

def withoutLog (action : Action (Logged ω) α) : Action ω α := fun w =>
  match action ⟨w, []⟩ with
  | (ending, after) => (ending, after.state)

end Action

namespace Chain

/-! ## Handlers in turn -/

/-- Handlers one after the other, each on the state that the one before it left, up to the first
that does not end in peace. -/
def inTurn (path : String) : List (MiddlewareHandler σ) →
    Action (Visit σ) (Except ServiceError Unit)
  | [] => Action.pure (.ok ())
  | handler :: handlers => (handler path).andThen (inTurn path handlers)

theorem inTurn_append (path : String) (first second : List (MiddlewareHandler σ)) :
    inTurn path (first ++ second) = (inTurn path first).andThen (inTurn path second) := by
  induction first with
  | nil => exact (Action.pure_andThen _).symm
  | cons handler rest ih => rw [List.cons_append, inTurn, inTurn, ih, Action.andThen_assoc]

def applying (path : String) (entries : List (Middleware σ)) : List (MiddlewareHandler σ) :=
  (entries.filter (·.scope.appliesTo path)).map (·.handler)

section Applying

variable {path : String} {entry : Middleware σ}

theorem applying_cons_of_applies (h : entry.scope.appliesTo path = true)
    (entries : List (Middleware σ)) :
    applying path (entry :: entries) = entry.handler :: applying path entries := by
  simp only [applying, List.filter_cons, h, if_true, List.map_cons]

theorem applying_cons_of_not_applies (h : entry.scope.appliesTo path = false)
    (entries : List (Middleware σ)) :
    applying path (entry :: entries) = applying path entries := by
  simp only [applying, List.filter_cons, h, Bool.false_eq_true, if_false]

theorem applying_append (first second : List (Middleware σ)) :
    applying path (first ++ second) = applying path first ++ applying path second := by
  rw [applying, List.filter_append, List.map_append]
  rfl

end Applying

/-- Entries with more entries among them, at any places, that do not apply to a path. -/
inductive Padded {σ : Type} (path : String) : List (Middleware σ) → List (Middleware σ) → Prop
  | done : Padded path [] []
  | keep (entry : Middleware σ) :
      Padded path fewer more → Padded path (entry :: fewer) (entry :: more)
  | insert : entry.scope.appliesTo path = false →
      Padded path fewer more → Padded path fewer (entry :: more)

theorem Padded.applying_eq {path : String} {fewer more : List (Middleware σ)}
    (h : Padded path fewer more) : applying path more = applying path fewer := by
  induction h with
  | done => rfl
  | keep entry _ ih =>
    cases hscope : entry.scope.appliesTo path with
    | true => rw [applying_cons_of_applies hscope, applying_cons_of_applies hscope, ih]
    | false => rw [applying_cons_of_not_applies hscope, applying_cons_of_not_applies hscope, ih]
  | insert hscope _ ih => rw [applying_cons_of_not_applies hscope, ih]

/-! ## One run -/

section Passes

variable {path : String} {place : Nat} {entries : List (Middleware σ)}
  {visit after : Visit σ} {runs : List Run} {ending : Ending (Except ServiceError Unit)}

theorem Passes.inTurn_eq (h : Passes path place entries visit runs ending after) :
    inTurn path (applying path entries) visit = (ending, after) := by
  induction h with
  | done => rfl
  | skip hscope _ ih =>
    rw [applying_cons_of_not_applies hscope]
    exact ih
  | pass hscope hhandler _ ih =>
    rw [applying_cons_of_applies hscope, inTurn, Action.andThen_of_ok hhandler]
    exact ih
  | stop hscope hhandler | panic hscope hhandler =>
    rw [applying_cons_of_applies hscope, inTurn]
    exact Action.andThen_of_ne_ok hhandler (by simp)

def events (path : String) (runs : List Run) : List Event :=
  (runs.filterMap Run.place?).map (runningEvent · path)

theorem Passes.runFrom_eq (h : Passes path place entries visit runs ending after)
    (log : List Event) :
    Chain.runFrom path place entries ⟨visit, log⟩ =
      (ending, ⟨after, log ++ events path runs⟩) := by
  induction h generalizing log with
  | done => rw [events, List.filterMap_nil, List.map_nil, List.append_nil]; rfl
  | skip hscope _ ih =>
    rw [runFrom_skip hscope]
    exact ih log
  | pass hscope hhandler _ ih =>
    rw [runFrom_applied hscope hhandler]
    simp only [ih, List.append_assoc]
    rfl
  | stop hscope hhandler | panic hscope hhandler => exact runFrom_applied hscope hhandler _ _ log

theorem Passes.exists_last (h : Passes path place entries visit runs ending after)
    (hending : ending ≠ .returned (.ok ())) :
    ∃ ahead entry rest before between, entries = ahead ++ entry :: rest ∧
      Passes path place ahead visit before (.returned (.ok ())) between ∧
      entry.scope.appliesTo path = true ∧
      entry.handler path between = (ending, after) ∧
      runs = before ++ [.middleware (place + ahead.length) path between.context.method] := by
  induction h with
  | done => exact absurd rfl hending
  | @skip place rest visit runs ending after entry hscope _ ih =>
    obtain ⟨ahead, last, later, before, between, rfl, hahead, hlast, hhandler, hruns⟩ :=
      ih hending
    refine ⟨entry :: ahead, last, later, before, between, rfl, .skip hscope hahead, hlast, hhandler,
      ?_⟩
    rw [hruns, List.length_cons, Nat.add_assoc, Nat.add_comm 1]
  | @pass middle place rest runs ending after entry visit hscope hpassed _ ih =>
    obtain ⟨ahead, last, later, before, between, rfl, hahead, hlast, hhandler, hruns⟩ :=
      ih hending
    refine ⟨entry :: ahead, last, later, _, between, rfl, .pass hscope hpassed hahead, hlast,
      hhandler, ?_⟩
    rw [hruns, List.length_cons, Nat.add_assoc, Nat.add_comm 1]
    rfl
  | stop hscope hhandler | panic hscope hhandler =>
    exact ⟨[], _, _, [], _, rfl, .done, hscope, hhandler, rfl⟩

end Passes

def effect (chain : Chain σ) (path : String) : Action (Visit σ) (Except ServiceError Unit) :=
  Action.withoutLog (chain.run path)

theorem effect_eq_inTurn (chain : Chain σ) (path : String) :
    chain.effect path = inTurn path (applying path chain.entries) := by
  funext visit
  obtain ⟨runs, ending, after, hpasses⟩ := exists_passes path 0 chain.entries visit
  rw [hpasses.inTurn_eq]
  simp only [effect, Action.withoutLog, run, hpasses.runFrom_eq]

def runs (chain : Chain σ) (path : String) (visit : Visit σ) : List Run :=
  (chain.recording.run path ⟨visit.recorded [], []⟩).2.state.world.host.runs

theorem Passes.chain_runs {chain : Chain σ} {path : String} {visit after : Visit σ}
    {runs : List Run} {ending : Ending (Except ServiceError Unit)}
    (h : Passes path 0 chain.entries visit runs ending after) :
    chain.runs path visit = runs := by
  have hrecorded := (h.recorded []).runFrom_eq []
  rw [Chain.runs, run]
  exact congrArg (fun result => result.2.state.world.host.runs) hrecorded

instance : Append (Chain σ) where
  append first second := ⟨first.entries ++ second.entries⟩

theorem entries_append (first second : Chain σ) :
    (first ++ second).entries = first.entries ++ second.entries :=
  rfl

theorem effect_append (first second : Chain σ) (path : String) :
    (first ++ second).effect path = (first.effect path).andThen (second.effect path) := by
  rw [effect_eq_inTurn, effect_eq_inTurn, effect_eq_inTurn, entries_append, applying_append,
    inTurn_append]

theorem effect_singleton (entry : Middleware σ) (path : String) :
    (⟨[entry]⟩ : Chain σ).effect path =
      if entry.scope.appliesTo path then entry.handler path else Action.pure (.ok ()) := by
  rw [effect_eq_inTurn]
  split
  · rename_i hscope
    rw [applying_cons_of_applies hscope]
    exact Action.andThen_pure _
  · rename_i hscope
    rw [applying_cons_of_not_applies (by simpa using hscope)]
    rfl

theorem effect_add (chain : Chain σ) (naming : Naming) (scope : Scope)
    (handler : MiddlewareHandler σ) (path : String) :
    (chain.add naming scope handler).effect path =
      (chain.effect path).andThen
        (if (CompiledScope.ofScope naming scope).appliesTo path then handler path
          else Action.pure (.ok ())) := by
  let entry : Middleware σ := { scope := .ofScope naming scope, handler }
  have hadd : chain.add naming scope handler = chain ++ ⟨[entry]⟩ := rfl
  rw [hadd, effect_append, effect_singleton]

/-- The middleware that applies to a path runs in the order of the chain, each on the state that
the one before it left: all of it, or up to the first that does not end in peace, and then the
chain ends as that one does. -/
structure RunsInOrder (chain : Chain σ) (path : String) (visit : Visit σ)
    (ending : Ending (Except ServiceError Unit)) (after : Visit σ) : Prop where
  inTurn : Chain.inTurn path (applying path chain.entries) visit = (ending, after)
  ahead : (chain.runs path visit).map Run.place? <+: (applicable path 0 chain.entries).map some
  all : ending = .returned (.ok ()) →
    (chain.runs path visit).map Run.place? = (applicable path 0 chain.entries).map some
  halted : ending ≠ .returned (.ok ()) →
    ∃ before entry rest between, chain.entries = before ++ entry :: rest ∧
      entry.scope.appliesTo path = true ∧
      Chain.inTurn path (applying path before) visit = (.returned (.ok ()), between) ∧
      entry.handler path between = (ending, after) ∧
      (chain.runs path visit).map Run.place? =
        (applicable path 0 before ++ [before.length]).map some

theorem Passes.runsInOrder {chain : Chain σ} {path : String} {visit after : Visit σ}
    {runs : List Run} {ending : Ending (Except ServiceError Unit)}
    (h : Passes path 0 chain.entries visit runs ending after) :
    chain.RunsInOrder path visit ending after where
  inTurn := h.inTurn_eq
  ahead := by
    rw [h.chain_runs]
    exact h.places_isPrefix
  all hending := by
    subst hending
    rw [h.chain_runs]
    exact h.places_of_ok
  halted hending := by
    obtain ⟨before, entry, rest, earlier, between, hentries, hbefore, hscope, hhandler, hruns⟩ :=
      h.exists_last hending
    refine ⟨before, entry, rest, between, hentries, hscope, hbefore.inTurn_eq, hhandler, ?_⟩
    rw [h.chain_runs, hruns, List.map_append, List.map_append, hbefore.places_of_ok, Nat.zero_add]
    rfl

end Chain

/-! ## Scopes -/

/-- A pattern, as it is written, matches a path: it is the path, or folds to it, or is a regular
expression that matches in it. -/
def Pattern.Matches (naming : Naming) (raw path : String) : Prop :=
  raw = path ∨ naming.foldPath raw = path ∨
    ∃ regex, Regex.compile raw = some regex ∧ regex.occursIn path = true

theorem Pattern.selects_compile_iff {naming : Naming} {raw path : String} :
    (compile naming raw).selects path = true ↔ Matches naming raw path := by
  simp [selects, compile, Matches, Option.any_eq_true, or_assoc]

namespace CompiledScope

theorem appliesTo_iff {scope : CompiledScope} {path : String} :
    scope.appliesTo path = true ↔
      scope.included = [] ∧ scope.excluded = [] ∨
        (∃ pattern ∈ scope.included, pattern.selects path = true) ∧
          ∀ pattern ∈ scope.excluded, pattern.selects path = false := by
  rw [appliesTo]
  split
  · rename_i hempty
    rw [Bool.and_eq_true, List.isEmpty_iff, List.isEmpty_iff] at hempty
    simp [hempty]
  · rename_i hsome
    rw [Bool.and_eq_true, List.isEmpty_iff, List.isEmpty_iff] at hsome
    simp [hsome]

variable {naming : Naming} {scope : Scope} {path : String}

theorem appliesTo_ofScope_iff :
    (ofScope naming scope).appliesTo path = true ↔
      scope.included = [] ∧ scope.excluded = [] ∨
        (∃ raw ∈ scope.included, Pattern.Matches naming raw path) ∧
          ∀ raw ∈ scope.excluded, ¬Pattern.Matches naming raw path := by
  rw [appliesTo_iff]
  simp [ofScope, ← Pattern.selects_compile_iff]

theorem appliesTo_of_except {patterns : List String}
    (h : (ofScope naming (scope.except patterns)).appliesTo path = true) :
    (ofScope naming scope).appliesTo path = true := by
  rw [appliesTo_ofScope_iff] at h ⊢
  simp only [Scope.except, List.append_eq_nil_iff] at h
  rcases h with ⟨hincluded, hexcluded, -⟩ | ⟨hmatched, hnone⟩
  · exact .inl ⟨hincluded, hexcluded⟩
  · exact .inr ⟨hmatched, fun raw hraw => hnone raw (List.mem_append_left _ hraw)⟩

end CompiledScope

namespace Chain

def addAll (chain : Chain σ) (naming : Naming) (parts : List (Scope × MiddlewareHandler σ)) :
    Chain σ :=
  parts.foldl (fun chain part => chain.add naming part.1 part.2) chain

theorem effect_addAll (chain : Chain σ) (naming : Naming)
    (parts : List (Scope × MiddlewareHandler σ)) (path : String) :
    (chain.addAll naming parts).effect path =
      (chain.effect path).andThen
        (inTurn path ((parts.filter fun part =>
          (CompiledScope.ofScope naming part.1).appliesTo path).map (·.2))) := by
  induction parts generalizing chain with
  | nil => exact (Action.andThen_pure _).symm
  | cons part parts ih =>
    have hcons : chain.addAll naming (part :: parts) =
        (chain.add naming part.1 part.2).addAll naming parts := rfl
    rw [hcons, ih, effect_add, Action.andThen_assoc, List.filter_cons]
    split
    · rw [List.map_cons, inTurn]
    · rw [Action.pure_andThen]

/-- A chain runs what applies to a path, in order and up to the first error, and what applies is
told by the patterns as they are written. So the parts of a chain can be run one after the other,
entries that do not apply make no difference, and exceptions only narrow a scope. -/
theorem runs_what_applies (chain : Chain σ) (path : String) :
    (∀ visit, ∃ ending after, chain.RunsInOrder path visit ending after ∧
      ∀ log, chain.run path ⟨visit, log⟩ =
        (ending, ⟨after, log ++ events path (chain.runs path visit)⟩)) ∧
    (∀ naming scope handler, (chain.add naming scope handler).effect path =
      (chain.effect path).andThen
        (if (CompiledScope.ofScope naming scope).appliesTo path then handler path
          else Action.pure (.ok ()))) ∧
    (∀ naming parts, (chain.addAll naming parts).effect path =
      (chain.effect path).andThen
        (inTurn path ((parts.filter fun part =>
          (CompiledScope.ofScope naming part.1).appliesTo path).map (·.2)))) ∧
    (∀ second : Chain σ,
      (chain ++ second).effect path = (chain.effect path).andThen (second.effect path)) ∧
    (∀ padded : Chain σ, Padded path chain.entries padded.entries →
      padded.effect path = chain.effect path) ∧
    (∀ scope : CompiledScope, scope.appliesTo path = true ↔
      scope.included = [] ∧ scope.excluded = [] ∨
        (∃ pattern ∈ scope.included, pattern.selects path = true) ∧
          ∀ pattern ∈ scope.excluded, pattern.selects path = false) ∧
    (∀ (naming : Naming) (scope : Scope),
      (CompiledScope.ofScope naming scope).appliesTo path = true ↔
        scope.included = [] ∧ scope.excluded = [] ∨
          (∃ raw ∈ scope.included, Pattern.Matches naming raw path) ∧
            ∀ raw ∈ scope.excluded, ¬Pattern.Matches naming raw path) ∧
    ∀ (naming : Naming) (scope : Scope) (patterns : List String),
      (CompiledScope.ofScope naming (scope.except patterns)).appliesTo path = true →
        (CompiledScope.ofScope naming scope).appliesTo path = true := by
  refine ⟨fun visit => ?_, fun naming scope handler => chain.effect_add naming scope handler path,
    fun naming parts => chain.effect_addAll naming parts path,
    fun second => chain.effect_append second path, fun padded hpadded => ?_,
    fun _ => CompiledScope.appliesTo_iff, fun _ _ => CompiledScope.appliesTo_ofScope_iff,
    fun _ _ _ => CompiledScope.appliesTo_of_except⟩
  · obtain ⟨runs, ending, after, hpasses⟩ := exists_passes path 0 chain.entries visit
    refine ⟨ending, after, hpasses.runsInOrder, fun log => ?_⟩
    rw [hpasses.chain_runs]
    exact hpasses.runFrom_eq log
  · rw [effect_eq_inTurn, effect_eq_inTurn, hpadded.applying_eq]

end Chain

end Switchboard
