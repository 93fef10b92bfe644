import Mathlib.Tactic
import Switchboard.Proofs.ArrayRecords
import Switchboard.Proofs.Order

/-!
# Arrays in the place of requests

A body that is an array of the values of a message's fields is taken for a request. Every other
body that does not start an object is answered with a parse error, and runs nothing.
-/

namespace Switchboard

theorem Message.shape_proper : ∀ field ∈ shape.fields, field.Proper := by
  simp only [shape, List.forall_mem_cons, List.not_mem_nil, false_imp_iff, implies_true, and_true]
  refine ⟨?_, ?_, ?_, ?_, ?_, ?_⟩
  · exact Json.Field.proper_of_refuses Json.refuses_readAny _ _
  · exact Json.Field.proper_of_refuses (fun _ => Json.refuses_readText.readOption) _ _
  · exact Json.Field.proper_of_refuses (fun _ => Json.refuses_readText) _ _
  · exact Json.Field.proper_of_refuses (fun depth => (Json.refuses_readAny depth).readOption) _ _
  · exact Json.Field.proper_of_refuses (fun depth => (Json.refuses_readAny depth).readOption) _ _
  · exact Json.Field.proper_of_refuses
      (fun depth => (WireError.shape.refuses_read depth).readOption) _ _

theorem Chain.Passes.runs_ne_nil {path : String} {place : Nat} {entries : List (Middleware σ)}
    {visit after : Visit σ} {runs : List Run} {ending : Ending (Except ServiceError Unit)}
    (h : Passes path place entries visit runs ending after) (hending : ending ≠ .returned (.ok ())) :
    runs ≠ [] := by
  induction h with
  | done => exact absurd rfl hending
  | skip _ _ ih => exact ih hending
  | pass | stop | panic => exact List.cons_ne_nil _ _

namespace Server

theorem Takes.code_ne_parse {server : Server σ} {body : List UInt8} {message : Message}
    (hparse : Message.parse body = .ok message) {visit : Visit σ} {course : Course σ}
    (h : server.Takes body visit course) (hruns : course.runs = []) :
    ∃ error, course.stage.error? server.options = some error ∧ error.code ≠ Code.parse := by
  cases h with
  | unread herror => simp [hparse] at herror
  | unidentified => exact ⟨_, rfl, (by decide : Code.invalidRequest ≠ Code.parse)⟩
  | unsplit | unknownSpace | unknownMethod =>
    exact ⟨_, rfl, (by decide : Code.methodNotFound ≠ Code.parse)⟩
  | called _ hcalls =>
    cases hcalls with
    | stopped hpasses | stumbled hpasses => exact absurd hruns (hpasses.runs_ne_nil (by simp))
    | unbound => exact ⟨_, rfl, (by decide : Code.invalidParams ≠ Code.parse)⟩
    | failed | crashed | completed => simp at hruns

/-- A body that does not start an object is answered with a parse error, and runs nothing, if and
only if it is not an array of the values of a message's fields. -/
theorem parse_error_iff_not_speltByArray (server : Server σ) {body : List UInt8}
    (hobject : ∀ rest, Json.skipSpace body ≠ 123 :: rest) (visit : Visit σ) (log : List Event) :
    ∃ answer after, server.handle body ⟨visit, log⟩ = (.returned answer, after) ∧
      ((∃ error, answer.error = some error ∧ error.code = Code.parse) ∧
          server.runs body visit = [] ↔
        ¬∃ message, Message.shape.SpeltByArray body message) := by
  obtain ⟨course, hcourse⟩ := server.exists_takes body visit
  obtain ⟨noted, hhandle⟩ := hcourse.handle log
  refine ⟨_, _, hhandle, ?_⟩
  rw [hcourse.runs_eq]
  have hspelt : ∀ message, Message.parse body = .ok message ↔
      Message.shape.SpeltByArray body message := fun message =>
    Message.shape.parseBytes_eq_ok_iff Message.shape_proper hobject
  constructor
  · rintro ⟨⟨error, herror, hcode⟩, hruns⟩ ⟨message, hmessage⟩
    obtain ⟨own, hown, hne⟩ := hcourse.code_ne_parse ((hspelt message).2 hmessage) hruns
    rw [Stage.reply, hown, Option.some_or] at herror
    cases herror
    exact hne hcode
  · intro hnone
    cases hparse : Message.parse body with
    | ok message => exact absurd ⟨message, (hspelt message).1 hparse⟩ hnone
    | error error =>
      obtain rfl := hcourse.unique (.unread hparse)
      exact ⟨⟨_, rfl, rfl⟩, rfl⟩

def arrayBody : List UInt8 :=
  "[1,\"2.0\",\"tea.pour\"]".toUTF8.data.toList

/-- A text that is an array runs a method. -/
theorem array_runs_method :
    (∃ items, Json.parseBytes arrayBody = .ok (.array items)) ∧
      quiet.runs arrayBody { context := {}, exchange := {}, world := { host := () } } =
        [.middleware 0 "tea.pour" "tea.pour", .method "tea" "pour" "tea.pour"] := by
  refine ⟨⟨_, rfl⟩, ?_⟩
  decide +kernel

theorem arrayBody_speltByArray :
    (∀ rest, Json.skipSpace arrayBody ≠ 123 :: rest) ∧
      ∃ message, Message.shape.SpeltByArray arrayBody message := by
  have hobject : ∀ rest, Json.skipSpace arrayBody ≠ 123 :: rest := by
    intro rest h
    have hhead : (Json.skipSpace arrayBody).head? = some 91 := by decide +kernel
    rw [h] at hhead
    simp at hhead
  refine ⟨hobject, ?_⟩
  obtain ⟨answer, after, -, hiff⟩ := quiet.parse_error_iff_not_speltByArray hobject
    { context := {}, exchange := {}, world := { host := () } } []
  by_contra hnone
  have hidle := (hiff.2 hnone).2
  have hbusy : quiet.runs arrayBody { context := {}, exchange := {}, world := { host := () } } ≠
      [] := by decide +kernel
  exact hbusy hidle

end Server

end Switchboard
