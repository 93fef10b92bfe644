import Mathlib.Tactic
import Switchboard.Declaration.Method

/-!
# Types of parameters and results

The types by which a method is told to be exposed or not: references that are shared, references
to the context of a call, what no argument can be made into, and what cannot be sent back.
-/

namespace Switchboard

namespace TypeExpr

def IsBare : TypeExpr → Prop
  | parens _ | group _ => False
  | _ => True

theorem stripped_of_isBare {type : TypeExpr} (h : type.IsBare) : type.stripped = type := by
  cases type with
  | parens | group => exact h.elim
  | _ => rfl

theorem map_stripped_of_isBare {types : List TypeExpr} (h : ∀ type ∈ types, type.IsBare) :
    types.map stripped = types :=
  List.map_congr_left (fun type htype => stripped_of_isBare (h type htype)) |>.trans types.map_id

inductive IsShared : TypeExpr → Prop
  | intro (life : Option String) (target : TypeExpr) : IsShared (.reference life false target)

theorem isSharedReference_iff {type : TypeExpr} : type.isSharedReference ↔ type.IsShared := by
  constructor
  · intro h
    rcases type with _ | _ | ⟨life, _ | _, target⟩
    case reference.false => exact .intro life target
    all_goals cases h
  · rintro ⟨life, target⟩
    rfl

inductive RefersToContext : TypeExpr → Prop
  | intro (life : Option String) (modules : List String) (args : List TypeExpr) :
    RefersToContext (.reference life false (.path modules "RequestContext" args))

theorem isContext_iff {type : TypeExpr} : type.isContext ↔ type.RefersToContext := by
  constructor
  · intro h
    rcases type with _ | _ | ⟨life, _ | _, target⟩
    case reference.false =>
      rcases target with ⟨modules, name, args⟩
      case path =>
        obtain rfl : name = "RequestContext" := by simpa [isContext, endsIn] using h
        exact .intro life modules args
      all_goals cases h
    all_goals cases h
  · rintro ⟨life, modules, args⟩
    simp [isContext, endsIn]

/-- A type of values that are lent, or whose type is not told. -/
inductive Borrows : TypeExpr → Prop
  | reference (life : Option String) (mutable : Bool) (target : TypeExpr) :
    Borrows (.reference life mutable target)
  | opaqueType (bound : TypeExpr) : Borrows (.opaqueType bound)

theorem isBorrowed_iff {type : TypeExpr} : type.isBorrowed ↔ type.Borrows := by
  constructor
  · intro h
    cases type with
    | reference life mutable target => exact .reference life mutable target
    | opaqueType bound => exact .opaqueType bound
    | _ => cases h
  · rintro (_ | _) <;> rfl

theorem RefersToContext.borrows {type : TypeExpr} (h : type.RefersToContext) : type.Borrows := by
  cases h
  exact .reference _ _ _

/-! ## Results -/

/-- A type of results that do not reach the wire. -/
inductive Unsendable : TypeExpr → Prop
  | tuple (item : TypeExpr) (items : List TypeExpr) : Unsendable (.tuple (item :: items))
  | never : Unsendable .never
  | opaqueType (bound : TypeExpr) : Unsendable (.opaqueType bound)
  | traitObject (bound : TypeExpr) : Unsendable (.traitObject bound)
  | pointer (mutable : Bool) (target : TypeExpr) : Unsendable (.pointer mutable target)
  | function (args : List TypeExpr) (result : Option TypeExpr) : Unsendable (.function args result)
  | reference {life : Option String} (mutable : Bool) (target : TypeExpr) :
    life ≠ some "static" → Unsendable (.reference life mutable target)

/-- A type of results that say themselves what they are to the caller. -/
inductive TellsOutcome : TypeExpr → Prop
  | unit : TellsOutcome (.tuple [])
  | result (modules : List String) (args : List TypeExpr) :
    TellsOutcome (.path modules "Result" args)
  | json (modules : List String) (args : List TypeExpr) : TellsOutcome (.path modules "Json" args)

section

variable {type : TypeExpr} {shape : ReturnShape}

theorem Unsendable.none_eq_some_iff (h : type.Unsendable) :
    none = some shape ↔ ¬type.Unsendable ∧ (shape = .payload ↔ ¬type.TellsOutcome) := by
  simp [h]

theorem TellsOutcome.outcome_eq_some_iff (h : type.TellsOutcome) (hsent : ¬type.Unsendable) :
    some ReturnShape.outcome = some shape ↔
      ¬type.Unsendable ∧ (shape = .payload ↔ ¬type.TellsOutcome) := by
  cases shape <;> simp [h, hsent]

theorem payload_eq_some_iff (htold : ¬type.TellsOutcome) (hsent : ¬type.Unsendable) :
    some ReturnShape.payload = some shape ↔
      ¬type.Unsendable ∧ (shape = .payload ↔ ¬type.TellsOutcome) := by
  cases shape <;> simp [htold, hsent]

theorem returnShape?_eq_some_iff :
    type.returnShape? = some shape ↔
      ¬type.stripped.Unsendable ∧ (shape = .payload ↔ ¬type.stripped.TellsOutcome) := by
  fun_induction returnShape? type with
  | case1 inner ih | case2 inner ih => exact ih
  | case3 => exact TellsOutcome.unit.outcome_eq_some_iff nofun
  | case4 items hitems =>
    cases items with
    | nil => exact absurd rfl hitems
    | cons item items => exact (Unsendable.tuple item items).none_eq_some_iff
  | case5 => exact Unsendable.never.none_eq_some_iff
  | case6 bound => exact (Unsendable.opaqueType bound).none_eq_some_iff
  | case7 bound => exact (Unsendable.traitObject bound).none_eq_some_iff
  | case8 mutable target => exact (Unsendable.pointer mutable target).none_eq_some_iff
  | case9 args result => exact (Unsendable.function args result).none_eq_some_iff
  | case10 life mutable target hstatic =>
    refine payload_eq_some_iff nofun fun hunsendable => ?_
    cases hunsendable with
    | reference _ _ hlife => exact hlife (by simpa using hstatic)
  | case11 life mutable target hlife =>
    exact (Unsendable.reference mutable target (by simpa using hlife)).none_eq_some_iff
  | case12 modules name args =>
    split
    · rename_i hname
      obtain rfl | rfl : name = "Result" ∨ name = "Json" := by simpa using hname
      · exact (TellsOutcome.result modules args).outcome_eq_some_iff nofun
      · exact (TellsOutcome.json modules args).outcome_eq_some_iff nofun
    · rename_i hname
      refine payload_eq_some_iff (fun htold => hname ?_) nofun
      cases htold <;> rfl
  | case13 | case14 | case15 | case16 | case17 | case18 => exact payload_eq_some_iff nofun nofun

end

end TypeExpr

end Switchboard
