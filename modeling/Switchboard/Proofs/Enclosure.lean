import Mathlib.Tactic
import Switchboard.Proofs.Exposure

/-!
# Types in parentheses

A type of a method may stand in parentheses, or in a group that a macro put around it. The type of
a result is looked for in them. Those of the receiver and of the parameters are not, so that what
stands around a reference there decides on whether and how the method is exposed.
-/

namespace Switchboard

namespace TypeExpr

/-- Any number of parentheses and groups may stand around a type. -/
inductive EnclosedBy (type : TypeExpr) : TypeExpr → Prop
  | refl : EnclosedBy type type
  | parens {outer : TypeExpr} : EnclosedBy type outer → EnclosedBy type (.parens outer)
  | group {outer : TypeExpr} : EnclosedBy type outer → EnclosedBy type (.group outer)

section

variable {type outer : TypeExpr}

theorem EnclosedBy.stripped_eq (h : type.EnclosedBy outer) : outer.stripped = type.stripped := by
  induction h with
  | refl => rfl
  | parens _ ih | group _ ih => exact ih

theorem EnclosedBy.eq_of_isBare (h : type.EnclosedBy outer) (hbare : outer.IsBare) :
    outer = type := by
  cases h with
  | refl => rfl
  | parens | group => exact hbare.elim

theorem IsShared.isBare (h : type.IsShared) : type.IsBare := by
  cases h
  trivial

theorem Borrows.isBare (h : type.Borrows) : type.IsBare := by
  cases h <;> trivial

/-- Two types are taken alike as those of parameters. -/
structure Alike (type outer : TypeExpr) : Prop where
  context : outer.RefersToContext ↔ type.RefersToContext
  borrows : outer.Borrows ↔ type.Borrows

theorem Alike.symm (h : type.Alike outer) : outer.Alike type :=
  ⟨h.context.symm, h.borrows.symm⟩

theorem EnclosedBy.alike (h : type.EnclosedBy outer) (hkept : type.Borrows → outer = type) :
    type.Alike outer := by
  have hborrows : outer.Borrows ↔ type.Borrows := by
    constructor
    · exact fun houter => h.eq_of_isBare houter.isBare ▸ houter
    · exact fun htype => (hkept htype).symm ▸ htype
  refine ⟨⟨fun houter => ?_, fun htype => ?_⟩, hborrows⟩
  · exact h.eq_of_isBare houter.borrows.isBare ▸ houter
  · exact (hkept htype.borrows).symm ▸ htype

end

end TypeExpr

namespace DeclaredMethod

/-! ## Parameters -/

section

variable {parameters outer : List TypeExpr} {context : Bool}

theorem not_borrows_of_alike (h : List.Forall₂ TypeExpr.Alike parameters outer)
    (hparameters : ∀ type ∈ parameters, ¬type.Borrows) : ∀ type ∈ outer, ¬type.Borrows := by
  induction h with
  | nil => nofun
  | cons hfirst _ ih =>
    obtain ⟨htype, hrest⟩ := List.forall_mem_cons.1 hparameters
    exact List.forall_mem_cons.2 ⟨fun hborrows => htype (hfirst.borrows.1 hborrows), ih hrest⟩

theorem exists_admits_of_alike (h : List.Forall₂ TypeExpr.Alike parameters outer)
    (hadmits : ∃ data, Admits parameters context data) : ∃ data, Admits outer context data := by
  obtain ⟨data, ⟨_, hfirst⟩ | hplain, hdata⟩ := hadmits
  · cases h with
    | cons halike hrest =>
      exact ⟨_, .context _ (halike.context.2 hfirst), not_borrows_of_alike hrest hdata⟩
  · refine ⟨outer, .plain ?_, not_borrows_of_alike h hdata⟩
    cases h with
    | nil => nofun
    | cons halike _ =>
      rintro _ ⟨⟩
      exact fun hcontext => hplain _ rfl (halike.context.1 hcontext)

def KeepsBorrowed (parameters outer : List TypeExpr) : Prop :=
  List.Forall₂ (fun type outer => type.Borrows → outer = type) parameters outer

theorem KeepsBorrowed.exists_admits_iff (hkept : KeepsBorrowed parameters outer)
    (h : List.Forall₂ TypeExpr.EnclosedBy parameters outer) :
    (∃ data, Admits outer context data) ↔ ∃ data, Admits parameters context data := by
  have halike : List.Forall₂ TypeExpr.Alike parameters outer :=
    h.mp (fun _ _ => TypeExpr.EnclosedBy.alike) hkept
  have hback : List.Forall₂ TypeExpr.Alike outer parameters :=
    .flip (halike.imp fun _ _ => TypeExpr.Alike.symm)
  exact ⟨exists_admits_of_alike hback, exists_admits_of_alike halike⟩

theorem keepsBorrowed_of_not_borrows (h : List.Forall₂ TypeExpr.EnclosedBy parameters outer)
    (hparameters : ∀ type ∈ parameters, ¬type.Borrows) : KeepsBorrowed parameters outer :=
  ((List.forall₂_and_left _ _).2 ⟨hparameters, h⟩).imp fun _ _ hboth hborrows =>
    absurd hborrows hboth.1

theorem Admits.keepsBorrowed {data data' : List TypeExpr} (hadmits : Admits parameters context data)
    (h : List.Forall₂ TypeExpr.EnclosedBy parameters outer) (houter : Admits outer context data') :
    KeepsBorrowed parameters outer := by
  obtain ⟨⟨_, hfirst⟩ | _, hdata⟩ := hadmits
  · cases h with
    | cons hclosed hrest =>
      refine .cons (fun _ => ?_) (keepsBorrowed_of_not_borrows hrest hdata)
      cases houter.1 with
      | context _ hcontext => exact hclosed.eq_of_isBare hcontext.borrows.isBare
  · exact keepsBorrowed_of_not_borrows h hdata

end

def BorrowsArgument (method : DeclaredMethod) : Prop :=
  ∃ context data, Splits method.parameters context data ∧ ∃ type ∈ data, type.Borrows

theorem not_borrowsArgument_iff {method : DeclaredMethod} :
    ¬method.BorrowsArgument ↔ ∃ context data, Admits method.parameters context data := by
  obtain ⟨context, data, hsplits⟩ : ∃ context data, Splits method.parameters context data :=
    ⟨_, _, splits_iff.2 rfl⟩
  constructor
  · intro h
    refine ⟨context, data, hsplits, fun type htype hborrows => h ?_⟩
    exact ⟨context, data, hsplits, type, htype, hborrows⟩
  · rintro ⟨_, _, hadmitted, hdata⟩ ⟨_, _, hsplits, type, htype, hborrows⟩
    rw [(hadmitted.unique hsplits).2] at htype
    exact hdata type htype hborrows

/-! ## Methods -/

structure EnclosedBy (method enclosed : DeclaredMethod) : Prop where
  others : enclosed =
    { method with
      receiver := enclosed.receiver
      parameters := enclosed.parameters
      returns := enclosed.returns }
  receiver : Option.Rel TypeExpr.EnclosedBy method.receiver enclosed.receiver
  parameters : List.Forall₂ TypeExpr.EnclosedBy method.parameters enclosed.parameters
  returns : Option.Rel TypeExpr.EnclosedBy method.returns enclosed.returns

section

variable {method enclosed : DeclaredMethod}

theorem EnclosedBy.exists_returns_iff (h : method.EnclosedBy enclosed) (P : TypeExpr → Prop) :
    (∃ type ∈ enclosed.returns, P type.stripped) ↔ ∃ type ∈ method.returns, P type.stripped := by
  obtain ⟨-, -, -, hreturns⟩ := h
  generalize method.returns = returns at hreturns
  generalize enclosed.returns = outer at hreturns
  cases hreturns with
  | some hclosed => simp [hclosed.stripped_eq]
  | none => simp

theorem EnclosedBy.offered_iff (h : method.EnclosedBy enclosed) :
    enclosed.Offered ↔ method.Offered := by
  have hsendable : (∀ type ∈ enclosed.returns, ¬type.stripped.Unsendable) ↔
      ∀ type ∈ method.returns, ¬type.stripped.Unsendable := by
    simpa using not_congr (h.exists_returns_iff TypeExpr.Unsendable)
  obtain ⟨hname, hvisible, hasync, hunsafe, hvariadic, hgenerics⟩ :
      enclosed.name = method.name ∧ enclosed.visibility = method.visibility ∧
        enclosed.isAsync = method.isAsync ∧ enclosed.isUnsafe = method.isUnsafe ∧
        enclosed.isVariadic = method.isVariadic ∧ enclosed.generics = method.generics := by
    rw [h.others]
    exact ⟨rfl, rfl, rfl, rfl, rfl, rfl⟩
  rw [offered_iff_and, offered_iff_and, hsendable, hname, hvisible, hasync, hunsafe, hvariadic,
    hgenerics]

theorem EnclosedBy.shapes_iff (h : method.EnclosedBy enclosed) {shape : ReturnShape} :
    enclosed.Shapes shape ↔ method.Shapes shape := by
  rw [Shapes, Shapes, h.exists_returns_iff fun type => ¬type.TellsOutcome]

theorem EnclosedBy.receiver_eq (h : method.EnclosedBy enclosed)
    (hshared : enclosed.HasSharedReceiver) : enclosed.receiver = method.receiver := by
  obtain ⟨outer, houter, hshared⟩ := hshared
  obtain ⟨-, hreceiver, -, -⟩ := h
  rw [Option.mem_def.1 houter] at hreceiver ⊢
  generalize method.receiver = receiver at hreceiver ⊢
  cases hreceiver with
  | some hclosed => rw [hclosed.eq_of_isBare hshared.isBare]

end

end DeclaredMethod

/-- How a method is exposed, its names and its arguments apart. -/
def ExposedMethod.outward (plan : ExposedMethod) : Bool × ReturnShape :=
  (plan.takesContext, plan.shape)

namespace ServiceBlock

open DeclaredMethod

section

variable {method enclosed : DeclaredMethod} {options : ExposureOptions}

/-- Nothing but the parameters may keep a method from being exposed. -/
structure Callable (method : DeclaredMethod) (options : ExposureOptions) : Prop where
  offered : method.Offered
  unskipped : options.skip = false
  shared : method.HasSharedReceiver

theorem outward_eq_some_iff {context : Bool} {shape : ReturnShape} :
    (exposure method options).map (·.outward) = some (context, shape) ↔
      Callable method options ∧ (∃ data, Admits method.parameters context data) ∧
        method.Shapes shape := by
  rw [Option.map_eq_some_iff]
  constructor
  · rintro ⟨plan, hplan, houtward⟩
    cases houtward
    obtain ⟨hoffered, hskip, hshared, -, -, hadmits, hshapes⟩ := exposure_eq_some_iff.1 hplan
    exact ⟨⟨hoffered, hskip, hshared⟩, ⟨_, hadmits⟩, hshapes⟩
  · rintro ⟨hcallable, ⟨data, hadmits⟩, hshapes⟩
    let plan : ExposedMethod :=
      { name := options.name.getD method.plainName
        calls := method.name
        takesContext := context
        arguments := data
        shape }
    exact ⟨plan, exposure_eq_some_iff.2 ⟨hcallable.offered, hcallable.unskipped,
      hcallable.shared, rfl, rfl, hadmits, hshapes⟩, rfl⟩

/-- What stands around the types of a method makes no difference. -/
inductive Indifferent (method enclosed : DeclaredMethod) (options : ExposureOptions) : Prop
  | uncalled : ¬Callable method options → Indifferent method enclosed options
  | kept : enclosed.receiver = method.receiver →
    KeepsBorrowed method.parameters enclosed.parameters → Indifferent method enclosed options
  | refused : method.BorrowsArgument →
    enclosed.receiver ≠ method.receiver ∨ enclosed.BorrowsArgument →
    Indifferent method enclosed options

theorem Callable.of_enclosed (h : method.EnclosedBy enclosed)
    (hcallable : Callable enclosed options) : Callable method options where
  offered := h.offered_iff.1 hcallable.offered
  unskipped := hcallable.unskipped
  shared := by
    have hshared := hcallable.shared
    rwa [HasSharedReceiver, h.receiver_eq hshared] at hshared

theorem Callable.enclosed_iff (h : method.EnclosedBy enclosed)
    (hcallable : Callable method options) :
    Callable enclosed options ↔ enclosed.receiver = method.receiver := by
  constructor
  · exact fun henclosed => h.receiver_eq henclosed.shared
  · intro hreceiver
    refine ⟨h.offered_iff.2 hcallable.offered, hcallable.unskipped, ?_⟩
    rw [HasSharedReceiver, hreceiver]
    exact hcallable.shared

theorem outward_eq_iff (h : method.EnclosedBy enclosed) :
    (exposure enclosed options).map (·.outward) = (exposure method options).map (·.outward) ↔
      ∀ context,
        (Callable enclosed options ∧ ∃ data, Admits enclosed.parameters context data) ↔
          Callable method options ∧ ∃ data, Admits method.parameters context data := by
  rw [Option.ext_iff, Prod.forall]
  simp only [outward_eq_some_iff, h.shapes_iff, ← and_assoc]
  obtain ⟨shape, hshape⟩ := method.exists_shapes
  constructor
  · exact fun hsame context => by simpa [hshape] using hsame context shape
  · exact fun hsame context shape => and_congr_left fun _ => hsame context

/-- More around the types of a method changes neither that it is exposed, nor whether it is called
with the context, nor what is made of its result, if and only if it makes no difference. -/
theorem outward_enclosed_eq_iff (h : method.EnclosedBy enclosed) :
    (exposure enclosed options).map (·.outward) = (exposure method options).map (·.outward) ↔
      Indifferent method enclosed options := by
  rw [outward_eq_iff h]
  constructor
  · intro hsame
    by_cases hcallable : Callable method options
    · -- such a method is exposed if and only if it borrows no argument
      by_cases hborrows : method.BorrowsArgument
      · refine .refused hborrows ?_
        by_contra! hleft
        obtain ⟨context, data, hadmits⟩ := not_borrowsArgument_iff.1 hleft.2
        have := (hsame context).1 ⟨(hcallable.enclosed_iff h).2 hleft.1, data, hadmits⟩
        exact not_borrowsArgument_iff.2 ⟨context, this.2⟩ hborrows
      · obtain ⟨context, data, hadmits⟩ := not_borrowsArgument_iff.1 hborrows
        obtain ⟨henclosed, _, houter⟩ := (hsame context).2 ⟨hcallable, data, hadmits⟩
        exact .kept ((hcallable.enclosed_iff h).1 henclosed)
          (hadmits.keepsBorrowed h.parameters houter)
    · exact .uncalled hcallable
  · intro hindifferent context
    cases hindifferent with
    | uncalled hcallable =>
      exact iff_of_false (fun houter => hcallable (.of_enclosed h houter.1)) fun hmethod =>
        hcallable hmethod.1
    | kept hreceiver hkept =>
      rw [hkept.exists_admits_iff h.parameters]
      refine and_congr_left fun _ => ⟨.of_enclosed h, fun hcallable => ?_⟩
      exact (hcallable.enclosed_iff h).2 hreceiver
    | refused hborrows houter =>
      have hmethod : ¬∃ data, Admits method.parameters context data := fun hadmits =>
        not_borrowsArgument_iff.2 ⟨context, hadmits⟩ hborrows
      refine iff_of_false ?_ fun hboth => hmethod hboth.2
      rintro ⟨henclosed, hadmits⟩
      rcases houter with hreceiver | hborrows
      · exact hreceiver (h.receiver_eq henclosed.shared)
      · exact not_borrowsArgument_iff.2 ⟨context, hadmits⟩ hborrows

end

def pouring (parameters : List TypeExpr) (returns : TypeExpr) : DeclaredMethod where
  name := "pour"
  visibility := .everywhere
  receiver := some (.reference none false (.named "Self"))
  parameters
  returns := some returns

theorem pouring_enclosedBy {parameters outer : List TypeExpr} {returns outerReturns : TypeExpr}
    (hparameters : List.Forall₂ TypeExpr.EnclosedBy parameters outer)
    (hreturns : returns.EnclosedBy outerReturns) :
    (pouring parameters returns).EnclosedBy (pouring outer outerReturns) :=
  ⟨rfl, .some .refl, hparameters, .some hreturns⟩

def lent (name : String) : TypeExpr := .reference none false (.named name)

theorem pouring_cups_in_parentheses :
    (pouring [lent "RequestContext", .named "u32"] (.named "String")).EnclosedBy
        (pouring [lent "RequestContext", .parens (.group (.named "u32"))]
          (.parens (.named "String"))) ∧
      (exposure (pouring [lent "RequestContext", .parens (.group (.named "u32"))]
          (.parens (.named "String"))) {}).map (·.outward) =
        (exposure (pouring [lent "RequestContext", .named "u32"] (.named "String")) {}).map
          (·.outward) ∧
      (exposure (pouring [lent "RequestContext", .named "u32"] (.named "String")) {}).map
          (·.outward) = some (true, .payload) := by
  have h : (pouring [lent "RequestContext", .named "u32"] (.named "String")).EnclosedBy
      (pouring [lent "RequestContext", .parens (.group (.named "u32"))]
        (.parens (.named "String"))) :=
    pouring_enclosedBy (.cons .refl (.cons (.parens (.group .refl)) .nil)) (.parens .refl)
  refine ⟨h, (outward_enclosed_eq_iff h).2 (.kept rfl ?_), rfl⟩
  exact .cons (fun _ => rfl) (.cons nofun .nil)

/-- In parentheses, a lent text no longer keeps a method from being exposed, and the context is
taken for an argument. -/
theorem parentheses_hide_references :
    ((pouring [lent "str"] (.tuple [])).EnclosedBy (pouring [.parens (lent "str")] (.tuple [])) ∧
      (exposure (pouring [lent "str"] (.tuple [])) {}).map (·.outward) = none ∧
      (exposure (pouring [.parens (lent "str")] (.tuple [])) {}).map (·.outward) =
        some (false, .outcome)) ∧
    ((pouring [lent "RequestContext"] (.tuple [])).EnclosedBy
        (pouring [.parens (lent "RequestContext")] (.tuple [])) ∧
      (exposure (pouring [lent "RequestContext"] (.tuple [])) {}).map (·.outward) =
        some (true, .outcome) ∧
      (exposure (pouring [.parens (lent "RequestContext")] (.tuple [])) {}).map (·.outward) =
        some (false, .outcome)) :=
  ⟨⟨pouring_enclosedBy (.cons (.parens .refl) .nil) .refl, rfl, rfl⟩,
    pouring_enclosedBy (.cons (.parens .refl) .nil) .refl, rfl, rfl⟩

end ServiceBlock

end Switchboard
