import Mathlib.Tactic
import Switchboard.Proofs.Addresses
import Switchboard.Proofs.Chains
import Switchboard.Proofs.PathFolding

/-!
# Patterns of calls

A pattern is folded as a path, a call in two parts. Both come to the same path, so that a pattern
that spells a call as its client does selects it, whatever it means as a regular expression.
-/

namespace Switchboard

namespace Pattern

theorem selects_fold (naming : Naming) (raw : String) :
    (compile naming raw).selects (naming.fold raw) = true := by
  rw [selects, compile, naming.foldPath_eq_fold]
  simp

end Pattern

namespace CompiledScope

variable {naming : Naming} {scope : Scope} {raw path : String}

private theorem appliesTo_iff_of_ne_nil (h : scope.included ≠ [] ∨ scope.excluded ≠ []) :
    (ofScope naming scope).appliesTo path = true ↔
      (∃ other ∈ scope.included, (Pattern.compile naming other).selects path = true) ∧
        ∀ other ∈ scope.excluded, (Pattern.compile naming other).selects path = false := by
  have hsome : ¬(scope.included = [] ∧ scope.excluded = []) := not_and_or.2 h
  rw [appliesTo_iff]
  simp [ofScope, hsome]

theorem appliesTo_of_excluded (hraw : raw ∈ scope.excluded)
    (h : (Pattern.compile naming raw).selects path = true) :
    (ofScope naming scope).appliesTo path = false := by
  rw [← Bool.not_eq_true, appliesTo_iff_of_ne_nil (.inr (List.ne_nil_of_mem hraw))]
  rintro ⟨-, hnone⟩
  rw [hnone raw hraw] at h
  cases h

theorem appliesTo_iff_of_included (hraw : raw ∈ scope.included)
    (h : (Pattern.compile naming raw).selects path = true) :
    (ofScope naming scope).appliesTo path = true ↔
      ∀ other ∈ scope.excluded, (Pattern.compile naming other).selects path = false := by
  rw [appliesTo_iff_of_ne_nil (.inl (List.ne_nil_of_mem hraw))]
  exact and_iff_right ⟨raw, hraw, h⟩

end CompiledScope

namespace Server

theorem given_eq_path {server : Server σ} {body : List UInt8} {message : Message}
    {address : Address} (hparse : Message.parse body = .ok message)
    (haddress : server.address message = .ok address) {visit : Visit σ} {place : Nat}
    {given seen : String} (hrun : .middleware place given seen ∈ server.runs body visit) :
    given = address.path := by
  obtain ⟨course, htakes⟩ := server.exists_takes body visit
  rw [htakes.runs_eq] at hrun
  cases htakes with
  | unread | unidentified | unsplit | unknownSpace | unknownMethod => cases hrun
  | called htargets hcalls =>
    obtain rfl := Except.ok.inj (hparse.symm.trans htargets.parsed)
    obtain rfl := Except.ok.inj (haddress.symm.trans (address_of_asks htargets.toAsks))
    exact (hcalls.middleware_sees hrun).1

/-- The path that a call is dispatched on is its method folded as a path, and as a whole. So every
pattern that folds to the same selects the call: an exception for it holds, and so does a rule that
has no exception for it. -/
theorem spelt_patterns_select_call (naming : Naming) {spelling : String} {first second : List Char}
    (hspelling : spelling.toList = first ++ separator :: second) (hfirst : separator ∉ first) :
    let address : Address := ⟨naming.fold (String.ofList first), naming.fold (String.ofList second)⟩
    address.path = naming.foldPath spelling ∧ address.path = naming.fold spelling ∧
    (∀ (server : Server σ) (message : Message), server.options.naming = naming →
      message.Identified → message.method = spelling →
      server.address message = .ok address ∧
        ∀ body visit place given seen, Message.parse body = .ok message →
          .middleware place given seen ∈ server.runs body visit → given = address.path) ∧
    ∀ raw, naming.fold raw = naming.fold spelling →
      (Pattern.compile naming raw).selects address.path = true ∧
      ∀ scope : Scope,
        (raw ∈ scope.excluded →
          (CompiledScope.ofScope naming scope).appliesTo address.path = false) ∧
        (raw ∈ scope.included →
          ((CompiledScope.ofScope naming scope).appliesTo address.path = true ↔
            ∀ other ∈ scope.excluded,
              (Pattern.compile naming other).selects address.path = false)) := by
  intro address
  have hpath : address.path = naming.fold spelling := naming.path_fold_eq_fold hspelling
  refine ⟨hpath.trans (naming.foldPath_eq_fold spelling).symm, hpath, ?_, ?_⟩
  · rintro server message rfl hid rfl
    have haddress := address_of_split hid hspelling hfirst server
    exact ⟨haddress, fun body visit place given seen hparse hrun =>
      given_eq_path hparse haddress hrun⟩
  · intro raw hraw
    have hselects : (Pattern.compile naming raw).selects address.path = true := by
      rw [hpath, ← hraw]
      exact Pattern.selects_fold naming raw
    exact ⟨hselects, fun scope => ⟨fun hmem => CompiledScope.appliesTo_of_excluded hmem hselects,
      fun hmem => CompiledScope.appliesTo_iff_of_included hmem hselects⟩⟩

theorem spelt_pattern_selects_teaPot :
    "TeaPot.Pour(".toList = "TeaPot".toList ++ separator :: "Pour(".toList ∧
      separator ∉ "TeaPot".toList ∧ (Regex.compile "teaPot.pour(").isNone = true ∧
      Naming.snake.fold "teaPot.pour(" = Naming.snake.fold "TeaPot.Pour(" ∧
      (Pattern.compile .snake "teaPot.pour(").selects "tea_pot.pour(" = true := by
  have hspelling : "TeaPot.Pour(".toList = "TeaPot".toList ++ separator :: "Pour(".toList := by
    decide
  have hfirst : separator ∉ "TeaPot".toList := by decide
  have hfold : Naming.snake.fold "teaPot.pour(" = Naming.snake.fold "TeaPot.Pour(" := by
    decide +kernel
  have hpath : Address.path ⟨Naming.snake.fold (String.ofList "TeaPot".toList),
      Naming.snake.fold (String.ofList "Pour(".toList)⟩ = "tea_pot.pour(" := by
    decide +kernel
  obtain ⟨-, -, -, hselects⟩ :=
    spelt_patterns_select_call (σ := Unit) .snake hspelling hfirst
  refine ⟨hspelling, hfirst, by decide +kernel, hfold, ?_⟩
  rw [← hpath]
  exact (hselects "teaPot.pour(" hfold).1

end Server

end Switchboard
