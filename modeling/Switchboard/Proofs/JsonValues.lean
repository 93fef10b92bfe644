import Mathlib.Tactic
import Switchboard.Json.Basic

/-!
# What JSON values are made of

The values inside of a value, how deep they nest, and which values are kept as they are written:
those without floats whose objects keep their members in order.
-/

namespace Switchboard.Json

/-- What holds of an array if it holds of its items, and of an object if it holds of the values of
its members, holds of every value. -/
theorem induct {motive : Json → Prop} (null : motive .null) (bool : ∀ b, motive (.bool b))
    (whole : ∀ n, motive (.whole n)) (float : ∀ x, motive (.float x))
    (string : ∀ s, motive (.string s))
    (array : ∀ items, (∀ item ∈ items, motive item) → motive (.array items))
    (object : ∀ members, (∀ member ∈ members, motive member.2) → motive (.object members))
    (value : Json) : motive value :=
  match value with
  | .null => null
  | .bool b => bool b
  | .whole n => whole n
  | .float x => float x
  | .string s => string s
  | .array items => array items fun item _ =>
    induct null bool whole float string array object item
  | .object members => object members fun (_, held) _ =>
    induct null bool whole float string array object held
termination_by sizeOf value
decreasing_by
  · have hitem := List.sizeOf_lt_of_mem ‹item ∈ items›
    rw [Json.array.sizeOf_spec]
    omega
  · have hmember := List.sizeOf_lt_of_mem ‹(_, held) ∈ members›
    rw [Prod.mk.sizeOf_spec] at hmember
    rw [Json.object.sizeOf_spec]
    omega

inductive Part (part : Json) : Json → Prop
  | self : Part part part
  | item : item ∈ items → Part part item → Part part (.array items)
  | member : member ∈ members → Part part member.2 → Part part (.object members)

def FloatFree (value : Json) : Prop :=
  ∀ x, ¬Part (.float x) value

/-- Every object in a value keeps its members in the order of their names, one a name, as
`ofMembers` leaves them. The type of values does not ask for it: a message is itself written as an
object, with its members in the order of its fields. -/
def Ordered (value : Json) : Prop :=
  ∀ members, Part (.object members) value → members.Pairwise (·.1 < ·.1)

mutual

def nesting : Json → Nat
  | array items => nestingOfItems items + 1
  | object members => nestingOfMembers members + 1
  | _ => 0

def nestingOfItems : List Json → Nat
  | [] => 0
  | item :: rest => max item.nesting (nestingOfItems rest)

def nestingOfMembers : List (String × Json) → Nat
  | [] => 0
  | (_, value) :: rest => max value.nesting (nestingOfMembers rest)

end

theorem nestingOfItems_le_iff {items : List Json} {depth : Nat} :
    nestingOfItems items ≤ depth ↔ ∀ item ∈ items, item.nesting ≤ depth := by
  induction items with
  | nil => simp [nestingOfItems]
  | cons item items ih => rw [nestingOfItems, max_le_iff, ih, List.forall_mem_cons]

theorem nestingOfMembers_le_iff {members : List (String × Json)} {depth : Nat} :
    nestingOfMembers members ≤ depth ↔ ∀ member ∈ members, member.2.nesting ≤ depth := by
  induction members with
  | nil => simp [nestingOfMembers]
  | cons member members ih => rw [nestingOfMembers, max_le_iff, ih, List.forall_mem_cons]

/-! ## Values without floats -/

theorem not_floatFree_float (x : Floating) : ¬(float x).FloatFree :=
  fun h => h x .self

theorem FloatFree.of_array {items : List Json} (h : (array items).FloatFree) :
    ∀ item ∈ items, item.FloatFree :=
  fun _ hitem x hpart => h x (.item hitem hpart)

theorem FloatFree.of_object {members : List (String × Json)} (h : (object members).FloatFree) :
    ∀ member ∈ members, member.2.FloatFree :=
  fun _ hmember x hpart => h x (.member hmember hpart)

/-! ## Values in order -/

/-- A value whose objects are in order and that nests no deeper than a reader goes. -/
structure Readable (depth : Nat) (value : Json) : Prop where
  ordered : value.Ordered
  nests : value.nesting ≤ depth

theorem readable_scalar {value : Json} (harray : ∀ items, value ≠ .array items)
    (hobject : ∀ members, value ≠ .object members) (depth : Nat) : Readable depth value := by
  constructor
  · intro members hpart
    cases hpart with
    | self => exact absurd rfl (hobject members)
    | item => exact absurd rfl (harray _)
    | member => exact absurd rfl (hobject _)
  · cases value with
    | array items => exact absurd rfl (harray items)
    | object members => exact absurd rfl (hobject members)
    | _ => exact Nat.zero_le depth

theorem readable_array_iff {depth : Nat} {items : List Json} :
    Readable (depth + 1) (.array items) ↔ ∀ item ∈ items, Readable depth item := by
  constructor
  · rintro ⟨hordered, hnests⟩ item hitem
    rw [nesting, Nat.add_le_add_iff_right, nestingOfItems_le_iff] at hnests
    exact ⟨fun members hpart => hordered members (.item hitem hpart), hnests item hitem⟩
  · intro h
    constructor
    · intro members hpart
      cases hpart with
      | item hitem hpart => exact (h _ hitem).ordered members hpart
    · rw [nesting, Nat.add_le_add_iff_right, nestingOfItems_le_iff]
      exact fun item hitem => (h item hitem).nests

theorem readable_object_iff {depth : Nat} {members : List (String × Json)} :
    Readable (depth + 1) (.object members) ↔
      members.Pairwise (·.1 < ·.1) ∧ ∀ member ∈ members, Readable depth member.2 := by
  constructor
  · rintro ⟨hordered, hnests⟩
    rw [nesting, Nat.add_le_add_iff_right, nestingOfMembers_le_iff] at hnests
    exact ⟨hordered members .self, fun member hmember =>
      ⟨fun inner hpart => hordered inner (.member hmember hpart), hnests member hmember⟩⟩
  · rintro ⟨hordered, h⟩
    constructor
    · intro inner hpart
      cases hpart with
      | self => exact hordered
      | member hmember hpart => exact (h _ hmember).ordered inner hpart
    · rw [nesting, Nat.add_le_add_iff_right, nestingOfMembers_le_iff]
      exact fun member hmember => (h member hmember).nests

/-! ## Members in order -/

variable {name : String} {value : Json} {members : List (String × Json)}

theorem mem_of_mem_setMember {member : String × Json}
    (h : member ∈ setMember name value members) : member = (name, value) ∨ member ∈ members := by
  induction members with
  | nil => exact .inl (List.mem_singleton.1 h)
  | cons held members ih =>
    rw [setMember] at h
    split at h
    · rcases List.mem_cons.1 h with h | h
      · exact .inl h
      · exact .inr (List.mem_cons_of_mem held h)
    split at h
    · exact List.mem_cons.1 h
    · rcases List.mem_cons.1 h with rfl | h
      · exact .inr List.mem_cons_self
      · exact (ih h).imp_right (List.mem_cons_of_mem held)

theorem setMember_pairwise (h : members.Pairwise (·.1 < ·.1)) :
    (setMember name value members).Pairwise (·.1 < ·.1) := by
  induction members with
  | nil => exact List.pairwise_singleton _ _
  | cons held members ih =>
    obtain ⟨hheld, hmembers⟩ := List.pairwise_cons.1 h
    rw [setMember]
    split
    · next heq =>
      subst heq
      exact List.pairwise_cons.2 ⟨hheld, hmembers⟩
    split
    · next hlt =>
      refine List.pairwise_cons.2 ⟨fun member hmember => ?_, h⟩
      rcases List.mem_cons.1 hmember with rfl | hmember
      · exact hlt
      · exact String.lt_trans hlt (hheld member hmember)
    · next hne hlt =>
      refine List.pairwise_cons.2 ⟨fun member hmember => ?_, ih hmembers⟩
      rcases mem_of_mem_setMember hmember with rfl | hmember
      · exact Std.lt_of_le_of_ne (String.not_lt.1 hlt) (Ne.symm hne)
      · exact hheld member hmember

theorem setMember_of_forall_lt (h : ∀ member ∈ members, member.1 < name) :
    setMember name value members = members ++ [(name, value)] := by
  induction members with
  | nil => rfl
  | cons held members ih =>
    obtain ⟨hheld, hmembers⟩ := List.forall_mem_cons.1 h
    rw [setMember, if_neg (String.ne_of_lt hheld).symm, if_neg (String.lt_asymm hheld),
      ih hmembers, List.cons_append]

theorem ofMembers_of_pairwise (h : members.Pairwise (·.1 < ·.1)) :
    ofMembers members = .object members := by
  have hfold : ∀ kept : List (String × Json), (kept ++ members).Pairwise (·.1 < ·.1) →
      members.foldl (fun kept member => setMember member.1 member.2 kept) kept =
        kept ++ members := by
    clear h
    induction members with
    | nil => simp
    | cons member members ih =>
      obtain ⟨name, value⟩ := member
      intro kept h
      have hlast : ∀ held ∈ kept, held.1 < name := fun held hheld =>
        (List.pairwise_append.1 h).2.2 held hheld (name, value) List.mem_cons_self
      rw [List.append_cons] at h ⊢
      rw [List.foldl_cons, setMember_of_forall_lt hlast, ih _ h]
  exact congrArg object (hfold [] h)

theorem readable_ofMembers {depth : Nat} (h : ∀ member ∈ members, Readable depth member.2) :
    Readable (depth + 1) (ofMembers members) := by
  rw [ofMembers, readable_object_iff]
  refine List.foldlRecOn members _
    (motive := fun kept : List (String × Json) =>
      kept.Pairwise (·.1 < ·.1) ∧ ∀ member ∈ kept, Readable depth member.2)
    ⟨List.Pairwise.nil, fun member hmember => absurd hmember List.not_mem_nil⟩ ?_
  rintro kept ⟨hordered, hkept⟩ ⟨name, value⟩ hmember
  refine ⟨setMember_pairwise hordered, fun held hheld => ?_⟩
  rcases mem_of_mem_setMember hheld with rfl | hheld
  · exact h _ hmember
  · exact hkept held hheld

end Switchboard.Json
