import Mathlib.Tactic
import Switchboard.Proofs.Guards

/-!
# Whose backtrace a crash reports

The thread has one slot for backtraces. A panic inside of a guard fills it, and only the report of
a crash empties it: what a swallowed panic recorded is left there, and the next panic that unwinds
without a record of its own is reported with it.
-/

namespace Switchboard

/-! ## Records -/

def Incident.isRaised : Incident → Bool
  | raised _ _ => true
  | _ => false

/-- A record is left: a panic was raised inside of a guard, and no crash was reported since. -/
def LeavesRecord (history : List Incident) : Prop :=
  ∃ before guards payload since, history = before ++ .raised guards payload :: since ∧
    0 < guards ∧ .reported ∉ since

theorem not_leavesRecord_nil : ¬LeavesRecord [] := by
  rintro ⟨before, guards, payload, since, h, -⟩
  simp at h

theorem leavesRecord_snoc_iff {history : List Incident} {incident : Incident} :
    LeavesRecord (history ++ [incident]) ↔
      (∃ guards payload, incident = .raised guards payload ∧ 0 < guards) ∨
        incident ≠ .reported ∧ LeavesRecord history := by
  constructor
  · rintro ⟨before, guards, payload, since, h, hguards, hsince⟩
    rcases List.eq_nil_or_concat since with rfl | ⟨since, last, rfl⟩
    · obtain ⟨-, hlast⟩ := List.append_inj' h rfl
      exact .inl ⟨guards, payload, List.singleton_inj.1 hlast, hguards⟩
    · rw [List.concat_eq_append, ← List.cons_append, ← List.append_assoc] at h
      obtain ⟨hhistory, hlast⟩ := List.append_inj' h rfl
      obtain rfl := List.singleton_inj.1 hlast
      rw [List.concat_eq_append, List.mem_append, List.mem_singleton, not_or] at hsince
      exact .inr ⟨Ne.symm hsince.2, before, guards, payload, since, hhistory, hguards, hsince.1⟩
  · rintro (⟨guards, payload, rfl, hguards⟩ | ⟨hincident, hleft⟩)
    · exact ⟨history, guards, payload, [], rfl, hguards, List.not_mem_nil⟩
    · obtain ⟨before, guards, payload, since, rfl, hguards, hsince⟩ := hleft
      refine ⟨before, guards, payload, since ++ [incident], by simp, hguards, ?_⟩
      rw [List.mem_append, List.mem_singleton, not_or]
      exact ⟨hsince, Ne.symm hincident⟩

namespace Thread

theorem raised_undergo (thread : Thread) (incident : Incident) :
    (thread.undergo incident).raised = thread.raised + [incident].countP Incident.isRaised := by
  cases incident with
  | raised guards payload => cases guards <;> rfl
  | unwound | reported => rfl

theorem raised_after (thread : Thread) (history : List Incident) :
    (thread.after history).raised = thread.raised + history.countP Incident.isRaised := by
  induction history using List.reverseRecOn with
  | nil => rfl
  | append_singleton history incident ih =>
    rw [after_snoc, raised_undergo, ih, List.countP_append, Nat.add_assoc]

theorem slot_undergo_raised (thread : Thread) {guards : Nat} (hguards : 0 < guards)
    (payload : PanicPayload) :
    (thread.undergo (.raised guards payload)).slot = some ⟨thread.raised + 1⟩ := by
  cases guards with
  | zero => exact absurd hguards (Nat.lt_irrefl 0)
  | succ outer => rfl

theorem slot_undergo_of_unguarded (thread : Thread) (payload : PanicPayload) :
    (thread.undergo (.raised 0 payload)).slot = thread.slot := rfl

theorem slot_after_eq_none_iff (history : List Incident) :
    (({} : Thread).after history).slot = none ↔ ¬LeavesRecord history := by
  induction history using List.reverseRecOn with
  | nil => exact iff_of_true rfl not_leavesRecord_nil
  | append_singleton history incident ih =>
    rw [after_snoc, leavesRecord_snoc_iff]
    cases incident with
    | raised guards payload =>
      rcases Nat.eq_zero_or_pos guards with rfl | hguards
      · rw [slot_undergo_of_unguarded, ih]
        simp
      · rw [slot_undergo_raised _ hguards]
        exact iff_of_false (by simp) (not_not_intro (.inl ⟨guards, payload, rfl, hguards⟩))
    | unwound payload =>
      show (({} : Thread).after history).slot = none ↔ _
      rw [ih]
      simp
    | reported =>
      refine iff_of_true rfl ?_
      rintro (⟨guards, payload, h, -⟩ | ⟨h, -⟩)
      · cases h
      · exact h rfl

end Thread

theorem Backtrace.text_ne_empty (backtrace : Backtrace) : backtrace.text ≠ "" := by
  unfold text
  rw [Ne, String.append_eq_empty_iff]
  exact fun h => absurd h.1 (by decide)

theorem PanicKind.incident_of_ne_resumed {kind : PanicKind} (h : kind ≠ .resumed) (guards : Nat)
    (text : String) : kind.incident guards text = .raised guards (kind.payload text) := by
  cases kind with
  | resumed => exact absurd rfl h
  | text | formatted | other => rfl

namespace Escape

def record (escape : Escape) : Option Backtrace :=
  if escape.kind = .resumed then none
  else some ⟨escape.past.countP Incident.isRaised + 1⟩

/-- The backtrace that is the panic's own: empty if the thread has no record of it. -/
def ownBacktrace (escape : Escape) : String :=
  (escape.record.map Backtrace.text).getD ""

theorem slot_of_ne_resumed {escape : Escape} (h : escape.kind ≠ .resumed) :
    (({} : Thread).after escape.history).slot = escape.record := by
  have hnumber : (({} : Thread).after escape.past).raised =
      escape.past.countP Incident.isRaised := by
    rw [Thread.raised_after]
    exact Nat.zero_add _
  unfold history record
  rw [if_neg h, Thread.after_snoc, PanicKind.incident_of_ne_resumed h,
    Thread.slot_undergo_raised _ (Nat.succ_pos _), hnumber]

theorem slot_of_resumed {escape : Escape} (h : escape.kind = .resumed) :
    (({} : Thread).after escape.history).slot = (({} : Thread).after escape.past).slot := by
  unfold history
  rw [Thread.after_snoc, h]
  rfl

theorem crash_backtrace_iff (escape : Escape) :
    (escape.crash {}).backtrace = escape.ownBacktrace ↔
      escape.kind ≠ .resumed ∨ ¬LeavesRecord escape.past := by
  unfold crash ownBacktrace
  by_cases hkind : escape.kind = .resumed
  · have hrecord : escape.record = none := if_pos hkind
    rw [slot_of_resumed hkind, hrecord, or_iff_right (not_not_intro hkind),
      ← Thread.slot_after_eq_none_iff]
    cases (({} : Thread).after escape.past).slot with
    | none => exact iff_of_true rfl rfl
    | some backtrace => exact iff_of_false backtrace.text_ne_empty (Option.some_ne_none _)
  · rw [slot_of_ne_resumed hkind]
    exact iff_of_true rfl (.inl hkind)

end Escape

/-! ## The law -/

def Note.crash? : Note α → Option Crash
  | crashed crash => some crash
  | _ => none

def Finding.escape? : Finding α → Option Escape
  | crashed escape => some escape
  | _ => none

theorem Finding.crash?_note (start : Thread) (finding : Finding α) :
    (finding.note start).crash? = finding.escape?.map (Escape.crash start) := by
  cases finding <;> rfl

namespace Script

/-- On a thread with any past, the crashes that a script notes are those of the panics that leave
the closures of its guards. Each carries the backtrace that was recorded for its own panic, and none
if there was no record, exactly if the thread was told of the panic or no record was left before. -/
theorem crash_has_own_backtrace_iff (script : List (Step α)) (past : List Incident)
    (guards : Nat) (notes : List (Note α)) (stopped : Bool) :
    ∃ noted thread, run script ⟨notes, (({} : Thread).after past).within guards, stopped⟩ =
        (ending (panic? script), ⟨notes ++ noted, thread, stopped⟩) ∧
      List.Forall₂
        (fun crash escape => crash.message = escape.payload.message ∧
          (crash.backtrace = escape.ownBacktrace ↔
            escape.kind ≠ .resumed ∨ ¬LeavesRecord escape.past))
        (noted.filterMap Note.crash?)
        ((findings past guards script).filterMap Finding.escape?) := by
  refine ⟨_, _, told {} script past guards notes stopped, ?_⟩
  have hcrashes : ((findings past guards script).map (·.note {})).filterMap Note.crash? =
      ((findings past guards script).filterMap Finding.escape?).map (Escape.crash {}) := by
    rw [List.filterMap_map, List.map_filterMap]
    exact List.filterMap_congr fun finding _ => finding.crash?_note {}
  rw [hcrashes, List.forall₂_map_left_iff, List.forall₂_same]
  exact fun escape _ => ⟨rfl, escape.crash_backtrace_iff⟩

/-- A panic that a closure swallows is told as the panic that leaves it. -/
theorem swallowed_panic_is_told :
    let script : List (Step Unit) :=
      [.guarded [.swallowed [.panic .text "stale"], .panic .resumed "then"] ()]
    let escape : Escape := ⟨[.raised 1 (.text "stale")], 0, .resumed, "then"⟩
    (run script { host := [] }).2.host =
      [.swallowed true, .crashed ⟨"then", "backtrace of panic 1"⟩] ∧
    findings [] 0 script = [.swallowed true, .crashed escape] ∧
    escape.ownBacktrace = "" := by
  decide +kernel

end Script

end Switchboard
