import Mathlib.Tactic
import Switchboard.Recovery.Script
import Switchboard.Proofs.Actions

/-!
# Guards of a thread

What a script comes to can be told from its text, without a thread: its first own panic ends it,
since guards and swallowers stop the panics of their bodies. A run agrees with that at any depth:
each guard returns if its closure does and else reports the payload of the panic, the depth is the
same after as before, and the host is told of the panics that are raised while no guard is active.
-/

namespace Switchboard

/-! ## The history of a thread -/

/-- What happens to a thread. -/
inductive Incident
  | raised (guards : Nat) (payload : PanicPayload)
  | unwound (payload : PanicPayload)
  | reported
deriving DecidableEq, Repr

/-- The panic that is left to the host: one that is raised while no guard is active. -/
def Incident.leftToHost? : Incident → Option PanicPayload
  | raised 0 payload => some payload
  | _ => none

namespace Thread

def within (thread : Thread) (guards : Nat) : Thread :=
  { thread with depth := guards }

/-- The thread once an incident happened to it, at the depth that it had. -/
def undergo (thread : Thread) : Incident → Thread
  | .raised guards payload => ((thread.within guards).notice payload).within thread.depth
  | .unwound _ => thread
  | .reported => { thread with slot := none }

def after (thread : Thread) (history : List Incident) : Thread :=
  history.foldl undergo thread

theorem after_append (thread : Thread) (first second : List Incident) :
    thread.after (first ++ second) = (thread.after first).after second :=
  List.foldl_append

theorem after_snoc (thread : Thread) (history : List Incident) (incident : Incident) :
    thread.after (history ++ [incident]) = (thread.after history).undergo incident := by
  rw [after_append]
  rfl

theorem notice_within (thread : Thread) (guards : Nat) (payload : PanicPayload) :
    (thread.within guards).notice payload =
      (thread.undergo (.raised guards payload)).within guards := by
  unfold undergo notice
  dsimp only
  split <;> rfl

theorem unguarded_undergo (thread : Thread) (incident : Incident) :
    (thread.undergo incident).unguarded = incident.leftToHost?.toList ++ thread.unguarded := by
  cases incident with
  | raised guards payload => cases guards <;> rfl
  | unwound | reported => rfl

theorem unguarded_after (thread : Thread) (history : List Incident) :
    (thread.after history).unguarded =
      (history.filterMap Incident.leftToHost?).reverse ++ thread.unguarded := by
  induction history generalizing thread with
  | nil => rfl
  | cons incident rest ih =>
    have hrest := ih (thread.undergo incident)
    rw [unguarded_undergo] at hrest
    change ((thread.undergo incident).after rest).unguarded = _
    rw [hrest, List.filterMap_cons]
    cases incident.leftToHost? with
    | none => rfl
    | some payload => simp

end Thread

/-! ## What a script comes to -/

def PanicKind.payload (text : String) : PanicKind → PanicPayload
  | .formatted => .text ("formatted " ++ text)
  | .other => .other
  | .text | .resumed => .text text

def PanicKind.incident (guards : Nat) (text : String) : PanicKind → Incident
  | .resumed => .unwound (payload text .resumed)
  | kind => .raised guards (kind.payload text)

/-- The panic of a step that is one. The panics in the body of a guard or a swallower go no
further. -/
def Step.panic? : Step α → Option PanicPayload
  | .panic kind text => some (kind.payload text)
  | _ => none

namespace Script

def panic? (script : List (Step α)) : Option PanicPayload :=
  script.findSome? Step.panic?

def ending : Option PanicPayload → Ending Unit
  | none => .returned ()
  | some payload => .panicked payload

end Script

mutual

def Step.incidents (guards : Nat) : Step α → List Incident
  | .note _ => []
  | .panic kind text => [kind.incident guards text]
  | .guarded body _ =>
    Script.incidents (guards + 1) body ++
      (if (Script.panic? body).isSome then [.reported] else [])
  | .swallowed body => Script.incidents guards body

def Script.incidents (guards : Nat) : List (Step α) → List Incident
  | [] => []
  | step :: rest =>
    step.incidents guards ++ (if step.panic?.isSome then [] else Script.incidents guards rest)

end

/-- A panic that leaves the closure of a guard. -/
structure Escape where
  past : List Incident
  outer : Nat
  kind : PanicKind
  text : String
deriving DecidableEq, Repr

namespace Escape

def payload (escape : Escape) : PanicPayload :=
  escape.kind.payload escape.text

def history (escape : Escape) : List Incident :=
  escape.past ++ [escape.kind.incident (escape.outer + 1) escape.text]

end Escape

def Script.escape? (past : List Incident) (outer : Nat) : List (Step α) → Option Escape
  | [] => none
  | .panic kind text :: _ => some ⟨past, outer, kind, text⟩
  | step :: rest => escape? (past ++ step.incidents (outer + 1)) outer rest

inductive Finding (α : Type)
  | text (s : String)
  | returned (value : α)
  | crashed (escape : Escape)
  | swallowed (panicked : Bool)
deriving DecidableEq, Repr

mutual

def Step.findings (past : List Incident) (guards : Nat) : Step α → List (Finding α)
  | .note text => [.text text]
  | .panic _ _ => []
  | .guarded body value =>
    Script.findings past (guards + 1) body ++
      [match Script.escape? past guards body with
        | none => .returned value
        | some escape => .crashed escape]
  | .swallowed body =>
    Script.findings past guards body ++ [.swallowed (Script.panic? body).isSome]

def Script.findings (past : List Incident) (guards : Nat) : List (Step α) → List (Finding α)
  | [] => []
  | step :: rest =>
    step.findings past guards ++
      (if step.panic?.isSome then []
        else Script.findings (past ++ step.incidents guards) guards rest)

end

theorem Script.escape?_cases (past : List Incident) (outer : Nat) (script : List (Step α)) :
    (panic? script = none ∧ escape? past outer script = none) ∨
      ∃ escape, escape? past outer script = some escape ∧ panic? script = some escape.payload ∧
        past ++ incidents (outer + 1) script = escape.history := by
  induction script generalizing past with
  | nil => exact .inl ⟨rfl, rfl⟩
  | cons step rest ih =>
    have hrest (hstep : step.panic? = none)
        (hescape : escape? past outer (step :: rest) =
          escape? (past ++ step.incidents (outer + 1)) outer rest) :
        (panic? (step :: rest) = none ∧ escape? past outer (step :: rest) = none) ∨
          ∃ escape, escape? past outer (step :: rest) = some escape ∧
            panic? (step :: rest) = some escape.payload ∧
            past ++ incidents (outer + 1) (step :: rest) = escape.history := by
      have hpanic : panic? (step :: rest) = panic? rest := by
        unfold panic?
        rw [List.findSome?_cons, hstep]
      rw [hescape, hpanic, incidents, hstep, ← List.append_assoc]
      exact ih _
    cases step with
    | panic kind text =>
      refine .inr ⟨_, rfl, rfl, ?_⟩
      rw [incidents, Step.incidents]
      rfl
    | note | guarded | swallowed => exact hrest rfl rfl

/-! ## Runs -/

def Escape.crash (start : Thread) (escape : Escape) : Crash where
  message := escape.payload.message
  backtrace := ((start.after escape.history).slot.map Backtrace.text).getD ""

def Finding.note (start : Thread) : Finding α → Note α
  | text s => .text s
  | returned value => .returned value
  | crashed escape => .crashed (escape.crash start)
  | swallowed panicked => .swallowed panicked

namespace Script

theorem raise_apply (kind : PanicKind) (text : String) (thread : Thread) (guards : Nat)
    (notes : List (Note α)) (stopped : Bool) :
    raise kind text ⟨notes, thread.within guards, stopped⟩ =
      (.panicked (kind.payload text),
        ⟨notes, (thread.undergo (kind.incident guards text)).within guards, stopped⟩) := by
  have hpanic : ∀ payload : PanicPayload,
      (Action.panic payload : Action (State α) Unit) ⟨notes, thread.within guards, stopped⟩ =
        (.panicked payload,
          ⟨notes, (thread.undergo (.raised guards payload)).within guards, stopped⟩) := by
    intro payload
    rw [← Thread.notice_within]
    rfl
  cases kind with
  | resumed => rfl
  | text | formatted | other => exact hpanic _

theorem run_cons_of_returned {step : Step α} {rest : List (Step α)} {w between : State α}
    (h : runStep step w = (.returned (), between)) : run (step :: rest) w = run rest between := by
  rw [run]
  simp only [Action.bind, h]

theorem run_cons_of_panicked {step : Step α} {rest : List (Step α)} {w between : State α}
    {payload : PanicPayload} (h : runStep step w = (.panicked payload, between)) :
    run (step :: rest) w = (.panicked payload, between) := by
  rw [run]
  simp only [Action.bind, h]

/-- What a guard returns around a script, on a thread that began as `start` and has a past. -/
def verdict (start : Thread) (past : List Incident) (guards : Nat) (body : List (Step α)) :
    Except Crash Unit :=
  match escape? past guards body with
  | none => .ok ()
  | some escape => .error (escape.crash start)

/-- A run of a script, on a thread that began as `start` and has a past, is what its text tells. -/
def Told (start : Thread) (past : List Incident) (guards : Nat) (notes : List (Note α))
    (stopped : Bool) (script : List (Step α)) : Prop :=
  run script ⟨notes, (start.after past).within guards, stopped⟩ =
    (ending (panic? script),
      ⟨notes ++ (findings past guards script).map (·.note start),
        (start.after (past ++ incidents guards script)).within guards, stopped⟩)

theorem guard_of_told {start : Thread} {past : List Incident} {guards : Nat}
    {notes : List (Note α)} {stopped : Bool} {body : List (Step α)}
    (h : Told start past (guards + 1) notes stopped body) (value : α) :
    Action.guard (run body) ⟨notes, (start.after past).within guards, stopped⟩ =
      (verdict start past guards body,
        ⟨notes ++ (findings past (guards + 1) body).map (·.note start),
          (start.after (past ++ (Step.guarded body value).incidents guards)).within guards,
          stopped⟩) := by
  unfold Told at h
  unfold verdict
  rw [Step.incidents]
  rcases escape?_cases past guards body with
    ⟨hpanic, hescape⟩ | ⟨escape, hescape, hpanic, hhistory⟩
  · rw [hpanic] at h
    have hguard := Action.guard_of_returned
      (w := (⟨notes, (start.after past).within guards, stopped⟩ : State α)) h
    rw [hguard, hescape, hpanic, if_neg (by simp), List.append_nil]
    rfl
  · rw [hpanic, hhistory] at h
    have hguard := Action.guard_of_panicked
      (w := (⟨notes, (start.after past).within guards, stopped⟩ : State α)) h
    rw [hguard, hescape, hpanic, if_pos (by simp), ← List.append_assoc, hhistory,
      Thread.after_snoc]
    rfl

mutual

/-- What was said of a script holds of each step. In the body of a guard the thread is one level
deeper, and the past of the step after it has the report. -/
theorem runStep_eq (start : Thread) (step : Step α) (past : List Incident) (guards : Nat)
    (notes : List (Note α)) (stopped : Bool) :
    runStep step ⟨notes, (start.after past).within guards, stopped⟩ =
      (ending step.panic?,
        ⟨notes ++ (step.findings past guards).map (·.note start),
          (start.after (past ++ step.incidents guards)).within guards, stopped⟩) := by
  match step with
  | .note text =>
    rw [Step.findings, Step.incidents, List.append_nil]
    rfl
  | .panic kind text =>
    rw [runStep, raise_apply, Step.findings, Step.incidents, Thread.after_snoc, List.map_nil,
      List.append_nil]
    rfl
  | .guarded body value =>
    have hguard := guard_of_told (told start body past (guards + 1) notes stopped) value
    unfold verdict at hguard
    rw [runStep, Step.findings, List.map_append, ← List.append_assoc]
    simp only [hguard]
    cases escape? past guards body <;> rfl
  | .swallowed body =>
    have hbody := told start body past guards notes stopped
    unfold Told at hbody
    rw [runStep, Step.findings, Step.incidents, List.map_append, ← List.append_assoc]
    change Action.bind (Action.swallow (run body)) _ _ = _
    simp only [Action.bind, Action.swallow, hbody]
    cases panic? body <;> rfl

theorem told (start : Thread) (script : List (Step α)) (past : List Incident) (guards : Nat)
    (notes : List (Note α)) (stopped : Bool) : Told start past guards notes stopped script := by
  unfold Told
  match script with
  | [] =>
    rw [findings, incidents, List.map_nil, List.append_nil, List.append_nil]
    rfl
  | step :: rest =>
    have hstep := runStep_eq start step past guards notes stopped
    rw [findings, incidents, panic?, List.findSome?_cons]
    cases hpanic : step.panic? with
    | none =>
      -- the rest begins where the step ended, with what the step did in its past
      rw [hpanic] at hstep
      have hrest := told start rest (past ++ step.incidents guards) guards
        (notes ++ (step.findings past guards).map (·.note start)) stopped
      unfold Told at hrest
      rw [run_cons_of_returned hstep, hrest, panic?]
      simp
    | some payload =>
      rw [hpanic] at hstep
      rw [run_cons_of_panicked hstep]
      simp [ending]

end

/-! ## The law -/

theorem panic?_eq_none_iff {script : List (Step α)} :
    panic? script = none ↔ ∀ kind text, .panic kind text ∉ script := by
  unfold panic?
  rw [List.findSome?_eq_none_iff]
  constructor
  · intro h kind text hmem
    have hstep := h _ hmem
    cases hstep
  · intro h step hstep
    cases step with
    | panic kind text => exact absurd hstep (h kind text)
    | note | guarded | swallowed => rfl

theorem panic?_eq_some_iff {script : List (Step α)} {payload : PanicPayload} :
    panic? script = some payload ↔
      ∃ front kind text rest, script = front ++ .panic kind text :: rest ∧
        (∀ kind text, .panic kind text ∉ front) ∧ kind.payload text = payload := by
  have hfirst : panic? script = some payload ↔ ∃ front step rest,
      script = front ++ step :: rest ∧ step.panic? = some payload ∧
        ∀ other ∈ front, other.panic? = none :=
    List.findSome?_eq_some_iff
  have hnone : ∀ front : List (Step α), (∀ other ∈ front, other.panic? = none) ↔
      ∀ kind text, .panic kind text ∉ front := by
    intro front
    rw [← panic?_eq_none_iff]
    exact List.findSome?_eq_none_iff.symm
  rw [hfirst]
  constructor
  · rintro ⟨front, step, rest, hscript, hstep, hfront⟩
    cases step with
    | panic kind text =>
      exact ⟨front, kind, text, rest, hscript, (hnone front).1 hfront, Option.some.inj hstep⟩
    | note | guarded | swallowed => cases hstep
  · rintro ⟨front, kind, text, rest, hscript, hfront, hpayload⟩
    exact ⟨front, _, rest, hscript, congrArg some hpayload, (hnone front).2 hfront⟩

end Script

/-- A note tells a finding, with a backtrace or without. -/
inductive Note.Tells : Note α → Finding α → Prop
  | text (s : String) : Tells (.text s) (.text s)
  | returned (value : α) : Tells (.returned value) (.returned value)
  | crashed (escape : Escape) {message : String} (backtrace : String) :
      escape.payload.Says message → Tells (.crashed ⟨message, backtrace⟩) (.crashed escape)
  | swallowed (panicked : Bool) : Tells (.swallowed panicked) (.swallowed panicked)

theorem Finding.tells_note (start : Thread) (finding : Finding α) :
    (finding.note start).Tells finding := by
  cases finding with
  | text s => exact .text s
  | returned value => exact .returned value
  | crashed escape => exact .crashed escape _ escape.payload.says_message
  | swallowed panicked => exact .swallowed panicked

namespace Script

theorem run_apply (script : List (Step α)) (w : State α) :
    run script w =
      (ending (panic? script),
        { w with
          host := w.host ++ (findings [] w.thread.depth script).map (·.note w.thread)
          thread :=
            (w.thread.after (incidents w.thread.depth script)).within w.thread.depth }) :=
  told w.thread script [] w.thread.depth w.host w.stopped

theorem guard_closure (script : List (Step α)) (value : β) (w : State α) :
    ∃ result after, Action.guard (run script >>= fun _ => pure value) w = (result, after) ∧
      after.thread.depth = w.thread.depth ∧
      (panic? script = none ∧ result = .ok value ∨
        ∃ payload backtrace, panic? script = some payload ∧
          result = .error ⟨payload.message, backtrace⟩) := by
  have hrun := run_apply script (Action.enterGuard w)
  have hdepth : w.thread.depth + 1 - 1 = w.thread.depth := Nat.add_sub_cancel _ _
  cases hpanic : panic? script with
  | none =>
    rw [hpanic] at hrun
    have hclosure : (run script >>= fun _ => pure value) (Action.enterGuard w) =
        (.returned value, _) := Action.bind_of_returned hrun
    exact ⟨_, _, Action.guard_of_returned hclosure, hdepth, .inl ⟨rfl, rfl⟩⟩
  | some payload =>
    rw [hpanic] at hrun
    have hclosure : (run script >>= fun _ => pure value) (Action.enterGuard w) =
        (.panicked payload, _) := Action.bind_of_panicked hrun
    exact ⟨_, _, Action.guard_of_panicked hclosure, hdepth, .inr ⟨payload, _, rfl, rfl⟩⟩

/-- However guards, panics and swallowers nest in a script, and at any depth: the run finds what
the text tells, at the end the depth is what it was, and the host was told of the panics that were
raised while no guard was active. A guard around the script returns the value of its closure if no
step of the script is a panic, and else reports the first one. -/
theorem guards_contain_panics (script : List (Step α)) (value : β) (w : State α) :
    (∃ notes thread,
      run script w = (ending (panic? script), { w with host := w.host ++ notes, thread }) ∧
      List.Forall₂ Note.Tells notes (findings [] w.thread.depth script) ∧
      thread.depth = w.thread.depth ∧
      thread.unguarded =
        ((incidents w.thread.depth script).filterMap Incident.leftToHost?).reverse ++
          w.thread.unguarded) ∧
    ∃ result after, Action.guard (run script >>= fun _ => pure value) w = (result, after) ∧
      after.thread.depth = w.thread.depth ∧
      (∀ v, result = .ok v ↔ v = value ∧ ∀ kind text, .panic kind text ∉ script) ∧
      (∀ crash, result = .error crash →
        ∃ front kind text rest, script = front ++ .panic kind text :: rest ∧
          (∀ kind text, .panic kind text ∉ front) ∧
          crash.message = match kind with
            | .text | .resumed => text
            | .formatted => "formatted " ++ text
            | .other => "non-string panic payload") := by
  constructor
  · refine ⟨_, _, run_apply script w, ?_, rfl, ?_⟩
    · rw [List.forall₂_map_left_iff, List.forall₂_same]
      exact fun finding _ => finding.tells_note w.thread
    · exact Thread.unguarded_after w.thread (incidents w.thread.depth script)
  · obtain ⟨result, after, hguard, hdepth, hresult⟩ := guard_closure script value w
    refine ⟨result, after, hguard, hdepth, ?_⟩
    rcases hresult with ⟨hpanic, rfl⟩ | ⟨payload, backtrace, hpanic, rfl⟩
    · have hnone := panic?_eq_none_iff.1 hpanic
      refine ⟨fun v => ?_, nofun⟩
      rw [and_iff_left hnone, Except.ok.injEq, eq_comm]
    · have hsome : ¬∀ kind text, .panic kind text ∉ script := by
        rw [← panic?_eq_none_iff, hpanic]
        exact Option.some_ne_none payload
      refine ⟨fun v => iff_of_false nofun fun h => hsome h.2, ?_⟩
      intro crash hcrash
      obtain rfl := Except.error.inj hcrash
      obtain ⟨front, kind, text, rest, hscript, hfront, rfl⟩ := panic?_eq_some_iff.1 hpanic
      refine ⟨front, kind, text, rest, hscript, hfront, ?_⟩
      cases kind <;> rfl

def restless : List (Step Nat) :=
  [.guarded [.panic .text "inner"] 1, .panic .other "outer"]

theorem restless_is_reported :
    ∃ crash after, Action.guard (run restless >>= fun _ => pure 2)
        { host := [], thread := { depth := 3 } } = (.error crash, after) ∧
      crash.message = "non-string panic payload" ∧ after.thread.depth = 3 := by
  obtain ⟨-, result, after, hguard, hdepth, hok, hcrash⟩ :=
    guards_contain_panics restless 2 { host := [], thread := { depth := 3 } }
  cases result with
  | ok v =>
    obtain ⟨-, hnone⟩ := (hok v).1 rfl
    exact absurd (List.mem_cons_of_mem _ List.mem_cons_self) (hnone .other "outer")
  | error crash =>
    refine ⟨crash, after, hguard, ?_, hdepth⟩
    obtain ⟨front, kind, text, rest, hscript, -, hmessage⟩ := hcrash crash rfl
    -- the guard is no panic, so that the second step is the first one
    rcases front with _ | ⟨first, _ | ⟨second, front⟩⟩
    · cases hscript
    · cases hscript
      exact hmessage
    · simp [restless] at hscript

example : (run [.guarded [.guarded [.panic .text "inner"] 1] 2] { host := [] }).2.host =
    [.crashed ⟨"inner", "backtrace of panic 1"⟩, .returned 2] := by
  decide +kernel

end Script

end Switchboard
