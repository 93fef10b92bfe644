import Mathlib.Tactic
import Switchboard.Declaration.ServiceBlock
import Switchboard.Proofs.DeclaredTypes
import Switchboard.Proofs.ExposureAttributes

/-!
# Exposed methods

Of the methods of a service block, those are exposed that any caller may call with arguments of
their own, and whose results can be sent back: in the order of the block, under the names that they
are given, or under their own.
-/

namespace Switchboard

namespace DeclaredMethod

/-! ## Parameters and names -/

inductive Splits : List TypeExpr → Bool → List TypeExpr → Prop
  | context {first : TypeExpr} (data : List TypeExpr) :
    first.RefersToContext → Splits (first :: data) true data
  | plain {data : List TypeExpr} :
    (∀ first ∈ data.head?, ¬first.RefersToContext) → Splits data false data

theorem splits_iff {parameters data : List TypeExpr} {context : Bool} :
    Splits parameters context data ↔ splitContext parameters = (context, data) := by
  constructor
  · rintro (⟨data, hfirst⟩ | hplain)
    · rw [splitContext, if_pos (TypeExpr.isContext_iff.2 hfirst)]
    · cases parameters with
      | nil => rfl
      | cons first parameters =>
        have hfirst : ¬first.isContext := fun h => hplain first rfl (TypeExpr.isContext_iff.1 h)
        rw [splitContext, if_neg hfirst]
  · intro h
    cases parameters with
    | nil =>
      cases h
      exact .plain nofun
    | cons first parameters =>
      rw [splitContext] at h
      split at h
      · rename_i hfirst
        cases h
        exact .context _ (TypeExpr.isContext_iff.1 hfirst)
      · rename_i hfirst
        cases h
        refine .plain fun other hother => ?_
        obtain rfl : first = other := by simpa using hother
        exact fun hcontext => hfirst (TypeExpr.isContext_iff.2 hcontext)

theorem Splits.unique {parameters data data' : List TypeExpr} {context context' : Bool}
    (h : Splits parameters context data) (h' : Splits parameters context' data') :
    context' = context ∧ data' = data := by
  rw [splits_iff] at h h'
  exact Prod.mk.inj (h'.symm.trans h)

inductive HasIdentifier (method : DeclaredMethod) : String → Prop
  | marked {name : String} : method.name = "r#" ++ name → HasIdentifier method name
  | plain : (∀ name, method.name ≠ "r#" ++ name) → HasIdentifier method method.name

theorem name_eq_marked_iff {method : DeclaredMethod} {name : String} :
    method.name = "r#" ++ name ↔ method.name.toList = 'r' :: '#' :: name.toList := by
  rw [← String.toList_inj, String.toList_append]
  rfl

theorem hasIdentifier_iff {method : DeclaredMethod} {name : String} :
    method.HasIdentifier name ↔ name = method.plainName := by
  rw [plainName]
  split
  · rename_i rest hrest
    have hname : method.name = "r#" ++ String.ofList rest :=
      name_eq_marked_iff.2 (by rw [hrest, String.toList_ofList])
    constructor
    · rintro (hmarked | hplain)
      · rw [hname] at hmarked
        exact ((String.append_right_inj _).1 hmarked).symm
      · exact absurd hname (hplain _)
    · rintro rfl
      exact .marked hname
  · rename_i hplain
    constructor
    · rintro (hmarked | -)
      · exact absurd (name_eq_marked_iff.1 hmarked) (hplain _)
      · rfl
    · rintro rfl
      exact .plain fun name hmarked => hplain _ (name_eq_marked_iff.1 hmarked)

/-! ## Methods that are offered -/

/-- A method that any caller may call and whose result can be sent, if its parameters allow it. -/
@[mk_iff offered_iff_and]
structure Offered (method : DeclaredMethod) : Prop where
  unreserved : method.name ∉ ["rpc_namespace", "excluded_methods", "constructor"]
  everywhere : method.visibility = .everywhere
  notAsync : method.isAsync = false
  safe : method.isUnsafe = false
  fixed : method.isVariadic = false
  concrete : method.generics = []
  sendable : ∀ type ∈ method.returns, ¬type.stripped.Unsendable

def HasSharedReceiver (method : DeclaredMethod) : Prop :=
  ∃ type ∈ method.receiver, type.IsShared

/-- Parameters with which a method can be called, and whether the context is one of them. -/
def Admits (parameters : List TypeExpr) (context : Bool) (data : List TypeExpr) : Prop :=
  Splits parameters context data ∧ ∀ type ∈ data, ¬type.Borrows

def Shapes (method : DeclaredMethod) (shape : ReturnShape) : Prop :=
  shape = .payload ↔ ∃ type ∈ method.returns, ¬type.stripped.TellsOutcome

theorem borrowsReceiver_iff {method : DeclaredMethod} :
    method.borrowsReceiver ↔ method.HasSharedReceiver := by
  rw [borrowsReceiver, HasSharedReceiver]
  cases method.receiver <;> simp [TypeExpr.isSharedReference_iff]

theorem isPlain_iff {method : DeclaredMethod} :
    method.isPlain ↔ method.visibility = .everywhere ∧ method.isAsync = false ∧
      method.isUnsafe = false ∧ method.isVariadic = false ∧ method.generics = [] := by
  simp [isPlain, and_assoc]

def resultShape? (method : DeclaredMethod) : Option ReturnShape :=
  match method.returns with
  | none => some .outcome
  | some type => type.returnShape?

theorem resultShape?_eq_some_iff {method : DeclaredMethod} {shape : ReturnShape} :
    method.resultShape? = some shape ↔
      (∀ type ∈ method.returns, ¬type.stripped.Unsendable) ∧ method.Shapes shape := by
  rw [resultShape?, Shapes]
  cases method.returns with
  | none => cases shape <;> simp
  | some type => simp [TypeExpr.returnShape?_eq_some_iff]

theorem exposed?_eq {method : DeclaredMethod} {rename : Option String} {context : Bool}
    {data : List TypeExpr} (hsplit : splitContext method.parameters = (context, data)) :
    method.exposed? rename =
      if method.isPlain && method.borrowsReceiver && !data.any (·.isBorrowed) then
        method.resultShape?.map fun shape =>
          { name := rename.getD method.plainName
            calls := method.name
            takesContext := context
            arguments := data
            shape }
      else none := by
  rw [exposed?, hsplit]
  change (match method.resultShape? with | none => none | some shape => _) = _
  cases method.resultShape? with
  | none => simp
  | some shape => rfl

end DeclaredMethod

namespace ServiceBlock

open DeclaredMethod

theorem isHook_iff {method : DeclaredMethod} :
    isHook method ↔ method.name ∈ ["rpc_namespace", "excluded_methods", "constructor"] := by
  simp [isHook, Hook.all, Hook.methodName, @eq_comm _ method.name]

theorem exposure_eq_some_iff {method : DeclaredMethod} {options : ExposureOptions}
    {plan : ExposedMethod} :
    exposure method options = some plan ↔
      method.Offered ∧ options.skip = false ∧ method.HasSharedReceiver ∧
        plan.name = options.name.getD method.plainName ∧ plan.calls = method.name ∧
        Admits method.parameters plan.takesContext plan.arguments ∧ method.Shapes plan.shape := by
  obtain ⟨context, data, hsplit⟩ : ∃ context data,
      splitContext method.parameters = (context, data) := ⟨_, _, rfl⟩
  have hborrowed : (!data.any (·.isBorrowed)) ↔ ∀ type ∈ data, ¬type.Borrows := by
    simp [← TypeExpr.isBorrowed_iff]
  -- every test that is made becomes what it tests for
  rw [exposure, Option.ite_none_left_eq_some, Bool.or_eq_true, not_or, isHook_iff,
    Bool.not_eq_true, exposed?_eq hsplit, Option.ite_none_right_eq_some, Option.map_eq_some_iff,
    Bool.and_eq_true, Bool.and_eq_true, isPlain_iff, borrowsReceiver_iff, hborrowed, Admits,
    splits_iff, hsplit]
  constructor
  · rintro ⟨⟨hname, hskip⟩, ⟨⟨hplain, hreceiver⟩, hdata⟩, shape, hshape, rfl⟩
    obtain ⟨hvisible, hasync, hunsafe, hvariadic, hgenerics⟩ := hplain
    obtain ⟨hsendable, hshapes⟩ := resultShape?_eq_some_iff.1 hshape
    exact ⟨⟨hname, hvisible, hasync, hunsafe, hvariadic, hgenerics, hsendable⟩, hskip, hreceiver,
      rfl, rfl, ⟨rfl, hdata⟩, hshapes⟩
  · rintro ⟨⟨hname, hvisible, hasync, hunsafe, hvariadic, hgenerics, hsendable⟩, hskip, hreceiver,
      hnamed, hcalls, ⟨hparts, hdata⟩, hshapes⟩
    obtain ⟨rfl, rfl⟩ := Prod.mk.inj hparts
    refine ⟨⟨hname, hskip⟩, ⟨⟨⟨hvisible, hasync, hunsafe, hvariadic, hgenerics⟩, hreceiver⟩, hdata⟩,
      plan.shape, resultShape?_eq_some_iff.2 ⟨hsendable, hshapes⟩, ?_⟩
    rw [← hnamed, ← hcalls]

end ServiceBlock

/-! ## Exposed methods of a block -/

namespace DeclaredMethod

open ExposureOptions (itemsOf)

def items (method : DeclaredMethod) : List AttributeItem :=
  itemsOf method.attributes

/-- No type of the method stands in parentheses or in a group, other than that of its result. -/
structure IsBare (method : DeclaredMethod) : Prop where
  receiver : ∀ type ∈ method.receiver, type.IsBare
  parameters : ∀ type ∈ method.parameters, type.IsBare

/-- A method that is exposed, whatever stands around its types. -/
structure IsExposed (method : DeclaredMethod) : Prop extends Offered method where
  unskipped : ∀ item ∈ method.items, item.key ≠ "skip"
  shared : ∃ type ∈ method.receiver, type.stripped.IsShared
  owned : ∀ context data, Splits (method.parameters.map .stripped) context data →
    ∀ type ∈ data, ¬type.Borrows

inductive IsNamed (method : DeclaredMethod) : String → Prop
  | given {before : List String} {last : String} :
    method.items.filterMap AttributeItem.givenName? = before ++ [last] → IsNamed method last
  | own {name : String} :
    method.items.filterMap AttributeItem.givenName? = [] → method.HasIdentifier name →
    IsNamed method name

structure Yields (method : DeclaredMethod) (plan : ExposedMethod) : Prop where
  name : method.IsNamed plan.name
  calls : plan.calls = method.name
  parts : Splits (method.parameters.map .stripped) plan.takesContext plan.arguments
  shape : method.Shapes plan.shape

def options (method : DeclaredMethod) : ExposureOptions :=
  ({} : ExposureOptions).andThen method.items

theorem isNamed_iff {method : DeclaredMethod} {name : String} :
    method.IsNamed name ↔ name = method.options.name.getD method.plainName := by
  have hname : method.options.name =
      (method.items.filterMap AttributeItem.givenName?).getLast? := by
    rw [options, ExposureOptions.andThen, Option.or_none]
  rw [hname]
  constructor
  · rintro (hgiven | ⟨hnone, hidentifier⟩)
    · rw [hgiven, List.getLast?_concat, Option.getD_some]
    · rw [hnone, List.getLast?_nil, Option.getD_none, hasIdentifier_iff.1 hidentifier]
  · rintro rfl
    rcases List.eq_nil_or_concat' (method.items.filterMap AttributeItem.givenName?) with
      hnone | ⟨before, last, hgiven⟩
    · rw [hnone]
      exact .own hnone (hasIdentifier_iff.2 rfl)
    · rw [hgiven, List.getLast?_concat]
      exact .given hgiven

theorem options_skip_iff {method : DeclaredMethod} :
    method.options.skip = false ↔ ∀ item ∈ method.items, item.key ≠ "skip" := by
  simp [options, ExposureOptions.andThen]

theorem exists_shapes (method : DeclaredMethod) : ∃ shape, method.Shapes shape := by
  by_cases h : ∃ type ∈ method.returns, ¬type.stripped.TellsOutcome
  · exact ⟨.payload, iff_of_true rfl h⟩
  · exact ⟨.outcome, iff_of_false nofun h⟩

theorem exists_yields (method : DeclaredMethod) : ∃ plan, method.Yields plan := by
  obtain ⟨shape, hshape⟩ := method.exists_shapes
  let parts := splitContext (method.parameters.map .stripped)
  let plan : ExposedMethod :=
    { name := method.options.name.getD method.plainName
      calls := method.name
      takesContext := parts.1
      arguments := parts.2
      shape }
  exact ⟨plan, isNamed_iff.2 rfl, rfl, splits_iff.2 rfl, hshape⟩

end DeclaredMethod

namespace ServiceBlock

open DeclaredMethod

theorem exposure_eq_some_iff_of_isBare {method : DeclaredMethod} (hbare : method.IsBare)
    {plan : ExposedMethod} :
    exposure method method.options = some plan ↔ method.IsExposed ∧ method.Yields plan := by
  have hparameters := TypeExpr.map_stripped_of_isBare hbare.parameters
  have hreceiver : method.HasSharedReceiver ↔
      ∃ type ∈ method.receiver, type.stripped.IsShared :=
    exists_congr fun type => and_congr_right fun htype => by
      rw [TypeExpr.stripped_of_isBare (hbare.receiver type htype)]
  rw [exposure_eq_some_iff, options_skip_iff, hreceiver, ← isNamed_iff]
  constructor
  · rintro ⟨hoffered, hskip, hshared, hname, hcalls, ⟨hparts, hdata⟩, hshape⟩
    rw [← hparameters] at hparts
    refine ⟨⟨hoffered, hskip, hshared, fun context data hsplits => ?_⟩, hname, hcalls, hparts,
      hshape⟩
    rw [(hparts.unique hsplits).2]
    exact hdata
  · rintro ⟨⟨hoffered, hskip, hshared, howned⟩, hname, hcalls, hparts, hshape⟩
    have hdata := howned _ _ hparts
    rw [hparameters] at hparts
    exact ⟨hoffered, hskip, hshared, hname, hcalls, ⟨hparts, hdata⟩, hshape⟩

/-- The methods of a block that are exposed, in its order. -/
inductive Exposes : List DeclaredMethod → List ExposedMethod → Prop
  | nil : Exposes [] []
  | exposed {method : DeclaredMethod} {plan : ExposedMethod} {methods : List DeclaredMethod}
      {plans : List ExposedMethod} :
    method.IsExposed → method.Yields plan → Exposes methods plans →
    Exposes (method :: methods) (plan :: plans)
  | omitted {method : DeclaredMethod} {methods : List DeclaredMethod}
      {plans : List ExposedMethod} :
    ¬method.IsExposed → Exposes methods plans → Exposes (method :: methods) plans

theorem exposes_filterMap {methods : List DeclaredMethod}
    (hbare : ∀ method ∈ methods, method.IsBare) :
    Exposes methods (methods.filterMap fun method => exposure method method.options) := by
  induction methods with
  | nil => exact .nil
  | cons method methods ih =>
    obtain ⟨hfirst, hrest⟩ := List.forall_mem_cons.1 hbare
    cases hplan : exposure method method.options with
    | none =>
      simp only [List.filterMap_cons, hplan]
      refine .omitted (fun hexposed => ?_) (ih hrest)
      -- there is a way to expose every method, so one that is not exposed may not be
      obtain ⟨plan, hyields⟩ := method.exists_yields
      have hsome := (exposure_eq_some_iff_of_isBare hfirst).2 ⟨hexposed, hyields⟩
      exact Option.some_ne_none plan (hsome.symm.trans hplan)
    | some plan =>
      simp only [List.filterMap_cons, hplan]
      obtain ⟨hexposed, hyields⟩ := (exposure_eq_some_iff_of_isBare hfirst).1 hplan
      exact .exposed hexposed hyields (ih hrest)

def IsRead (method : DeclaredMethod) : Prop :=
  ∀ attr ∈ method.attributes, attr.path = "rpc" → attr.Exposes

theorem readOptions_eq_ok_iff {method : DeclaredMethod}
    {read : DeclaredMethod × ExposureOptions} :
    (do
      let options ← ExposureOptions.ofAttributes method.attributes
      Except.ok (method, options)) = .ok read ↔
      IsRead method ∧ (method, method.options) = read := by
  have hread : ∀ options, ExposureOptions.ofAttributes method.attributes = .ok options ↔
      IsRead method ∧ options = method.options :=
    fun _ => ExposureOptions.ofAttributes_eq_ok_iff
  cases hoptions : ExposureOptions.ofAttributes method.attributes with
  | error error =>
    have hnot : ¬IsRead method := fun h => by
      simpa [hoptions] using (hread method.options).2 ⟨h, rfl⟩
    simp [bind, Except.bind, hnot]
  | ok options =>
    obtain ⟨hmethod, rfl⟩ := (hread options).1 hoptions
    simp only [bind, Except.bind, Except.ok.injEq]
    exact (and_iff_right hmethod).symm

private theorem mapM_eq_ok_iff {f : α → Except ε β} {xs : List α} {ys : List β} :
    xs.mapM f = .ok ys ↔ List.Forall₂ (fun x y => f x = .ok y) xs ys := by
  induction xs generalizing ys with
  | nil => simp [pure, Except.pure, eq_comm]
  | cons x xs ih =>
    rw [List.mapM_cons, List.forall₂_cons_left_iff]
    cases hfirst : f x with
    | error error => simp [bind, Except.bind]
    | ok first =>
      cases hrest : xs.mapM f with
      | error error => simp [bind, Except.bind, ← ih, hrest]
      | ok rest => simp [bind, Except.bind, pure, Except.pure, ← ih, hrest, eq_comm]

theorem withOptions_eq_ok_iff {block : ServiceBlock}
    {methods : List (DeclaredMethod × ExposureOptions)} :
    block.withOptions = .ok methods ↔
      (∀ method ∈ block.methods, IsRead method) ∧
        block.methods.map (fun method => (method, method.options)) = methods := by
  rw [withOptions, mapM_eq_ok_iff]
  simp only [readOptions_eq_ok_iff]
  rw [List.forall₂_and_left, ← List.forall₂_map_left_iff, List.forall₂_eq_eq_eq]

theorem outline_eq_ok_iff {block : ServiceBlock} :
    (∃ outline, block.outline = .ok outline) ↔
      block.interface = none ∧ ∀ method ∈ block.methods, IsRead method := by
  rw [outline]
  cases block.interface with
  | some interface => simp
  | none =>
    cases hmethods : block.withOptions with
    | error error =>
      have hnot : ¬∀ method ∈ block.methods, IsRead method := fun h => by
        simpa [hmethods] using withOptions_eq_ok_iff.2 ⟨h, rfl⟩
      simpa using hnot
    | ok methods => simpa using (withOptions_eq_ok_iff.1 hmethods).1

theorem outline_methods {block : ServiceBlock} {outline : ServiceOutline}
    (h : block.outline = .ok outline) :
    outline.methods = block.methods.filterMap fun method => exposure method method.options := by
  rw [ServiceBlock.outline] at h
  split at h
  · cases h
  · split at h
    · cases h
    · rename_i methods hread
      obtain ⟨-, rfl⟩ := withOptions_eq_ok_iff.1 hread
      cases h
      exact List.filterMap_map ..

/-- A block is expanded if it implements no interface and all its attributes are read. Then it
exposes those of its methods that can be called and whose results can be sent, in its order. -/
theorem outline_exposes {block : ServiceBlock} (hbare : ∀ method ∈ block.methods, method.IsBare) :
    ((∃ outline, block.outline = .ok outline) ↔
      block.interface = none ∧ ∀ method ∈ block.methods, IsRead method) ∧
      ∀ outline, block.outline = .ok outline → Exposes block.methods outline.methods := by
  refine ⟨outline_eq_ok_iff, fun outline h => ?_⟩
  rw [outline_methods h]
  exact exposes_filterMap hbare

def teaHouse : ServiceBlock where
  self := .named "TeaHouse"
  items :=
    [.method
      { name := "constructor"
        receiver := some (.reference none true (.named "Self")) },
    .method
      { name := "pour"
        visibility := .everywhere
        receiver := some (.reference none false (.named "Self"))
        parameters :=
          [.reference none false (.path ["http"] "RequestContext" []), .named "u32"]
        returns := some (.named "String")
        attributes :=
          [{ path := "rpc"
             items := some [{ key := "name", assigned := .value (.string "serve") }] }] },
    .method
      { name := "taste"
        visibility := .everywhere
        receiver := some (.reference none false (.named "Self"))
        parameters := [.reference none false (.named "str")] }]

theorem teaHouse_serves :
    (∀ method ∈ teaHouse.methods, method.IsBare) ∧
      ∃ outline, teaHouse.outline = .ok outline ∧
        Exposes teaHouse.methods outline.methods ∧ outline.methods.map (·.name) = ["serve"] := by
  have hbare : ∀ method ∈ teaHouse.methods, method.IsBare := by
    rintro method hmethod
    simp only [teaHouse, methods, List.filterMap_cons, List.filterMap_nil, List.mem_cons,
      List.not_mem_nil, or_false] at hmethod
    obtain rfl | rfl | rfl := hmethod <;>
      exact ⟨by simp [TypeExpr.IsBare], by simp [TypeExpr.IsBare, TypeExpr.named]⟩
  refine ⟨hbare, _, rfl, (outline_exposes hbare).2 _ rfl, rfl⟩

end ServiceBlock

end Switchboard
