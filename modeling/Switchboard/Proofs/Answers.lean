import Mathlib.Tactic
import Switchboard.Proofs.Determinism

/-!
# Answers

What a client learns of the course of its request. The members of a reply that a client sends itself
are in the way.
-/

namespace Switchboard

/-- An answer tells how a request ended: it has an error if and only if the request failed, the
payload of the request's own method if there is one that says something, and never both. -/
structure Stage.ToldBy (stage : Stage) (answer : Message) : Prop where
  error : answer.error.isSome ↔ ¬stage.Completed
  result : ∀ value, answer.result = some value ↔ stage.Pays value
  terminal : ¬(answer.result.isSome ∧ answer.error.isSome)

namespace Stage

theorem Pays.completed {stage : Stage} {value : Json} (h : stage.Pays value) :
    stage.Completed := by
  rw [h.1]
  trivial

private theorem reply_error_isSome_iff (options : Options) (client : Message) (stage : Stage) :
    (stage.reply options client).error.isSome ↔ ¬stage.Completed ∨ client.error.isSome := by
  rw [reply, Option.isSome_or, Bool.or_eq_true, Option.isSome_iff_ne_none, ne_eq,
    error?_eq_none_iff]

private theorem reply_result_eq_some_iff (options : Options) (client : Message) (stage : Stage)
    (value : Json) :
    (stage.reply options client).result = some value ↔
      stage.Pays value ∨ (¬∃ paid, stage.Pays paid) ∧ client.result = some value := by
  have hnone : stage.payload? = none ↔ ¬∃ paid, stage.Pays paid := by
    rw [Option.eq_none_iff_forall_ne_some, not_exists]
    exact forall_congr' fun paid => not_congr (stage.payload?_eq_some_iff paid)
  rw [reply, Option.or_eq_some_iff, payload?_eq_some_iff, hnone]

theorem toldBy_reply_iff (options : Options) (client : Message) (stage : Stage) :
    stage.ToldBy (stage.reply options client) ↔
      (stage.Completed → client.error = none) ∧
        ((¬∃ value, stage.Pays value) → client.result = none) := by
  constructor
  · intro h
    constructor
    · intro hcompleted
      by_contra herror
      have hsome : (stage.reply options client).error.isSome :=
        (reply_error_isSome_iff options client stage).2
          (.inr (Option.isSome_iff_ne_none.2 herror))
      exact h.error.1 hsome hcompleted
    · intro hpays
      rw [Option.eq_none_iff_forall_ne_some]
      intro value hresult
      have hvalue : (stage.reply options client).result = some value :=
        (reply_result_eq_some_iff options client stage value).2 (.inr ⟨hpays, hresult⟩)
      exact hpays ⟨value, (h.result value).1 hvalue⟩
  · rintro ⟨herror, hresult⟩
    have hfails : (stage.reply options client).error.isSome ↔ ¬stage.Completed := by
      rw [reply_error_isSome_iff]
      refine ⟨fun h => h.elim id fun hsome hcompleted => ?_, .inl⟩
      rw [herror hcompleted] at hsome
      cases hsome
    have hpays : ∀ value, (stage.reply options client).result = some value ↔
        stage.Pays value := by
      intro value
      rw [reply_result_eq_some_iff]
      refine ⟨fun h => h.elim id fun ⟨hnone, hvalue⟩ => ?_, .inl⟩
      rw [hresult hnone] at hvalue
      cases hvalue
    refine ⟨hfails, hpays, fun ⟨hsome, hfailed⟩ => ?_⟩
    obtain ⟨value, hvalue⟩ := Option.isSome_iff_exists.1 hsome
    exact hfails.1 hfailed ((hpays value).1 hvalue).completed

end Stage

namespace Server

/-- An answer tells how its request ended if and only if the client sent no error with a request
that completes, and no result with one whose method pays nothing. -/
theorem answer_tells_stage_iff (server : Server σ) (body : List UInt8) (visit : Visit σ)
    (log : List Event) :
    ∃ course answer noted, (∀ other, server.Takes body visit other ↔ other = course) ∧
      server.handle body ⟨visit, log⟩ = (.returned answer, ⟨course.after, noted⟩) ∧
      (course.stage.ToldBy answer ↔
        (course.stage.Completed → (Message.sent body).error = none) ∧
          ((¬∃ value, course.stage.Pays value) → (Message.sent body).result = none)) := by
  obtain ⟨course, hcourse⟩ := server.existsUnique_takes body visit
  obtain ⟨noted, hhandle⟩ := ((hcourse course).2 rfl).handle log
  exact ⟨course, _, noted, hcourse, hhandle, Stage.toldBy_reply_iff _ _ _⟩

def strayBody : List UInt8 :=
  "\x7b\"id\":1,\"method\":\"tea\",\"result\":5\x7d".toUTF8.data.toList

/-- A result that a client sends with its request stands beside the error of the answer. -/
theorem stray_result_beside_error :
    ∃ answer after,
      (ofOptions {} : Server Unit).handle strayBody
          ⟨{ context := {}, exchange := {}, world := { host := () } }, []⟩ =
        (.returned answer, after) ∧ answer.result.isSome ∧ answer.error.isSome := by
  have hcheck : (Message.parse strayBody).toOption.any (fun message =>
      message.hasValidId && message.method == "tea" && message.result.isSome) = true := by
    decide +kernel
  obtain ⟨message, hparse, hmessage⟩ := Message.exists_of_parse_any hcheck
  simp only [Bool.and_eq_true, beq_iff_eq] at hmessage
  obtain ⟨⟨hid, hmethod⟩, hresult⟩ := hmessage
  have hunsplit : separator ∉ message.method.toList := by
    rw [hmethod]
    decide
  obtain ⟨noted, hhandle⟩ :=
    (Takes.unsplit hparse (message.hasValidId_iff.1 hid) hunsplit).handle []
  refine ⟨_, _, hhandle, ?_, ?_⟩
  · rw [Stage.reply, Message.sent_of_ok hparse]
    exact hresult
  · rw [Stage.reply]
    rfl

end Server

end Switchboard
