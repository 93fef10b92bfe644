import Switchboard.Proofs.ArrayRecords
import Switchboard.Proofs.PrintedRecords

/-!
# Records that were read

What a blank record has and every field keeps, every record has that is read, be it from an object
or from an array.
-/

namespace Switchboard.Json

/-- What holds of a draft holds of it after the field was stored. -/
def Field.Keeps (field : Field δ) (depth : Nat) (P : δ → Prop) : Prop :=
  ∀ {bytes store rest}, field.read depth bytes = .ok (store, rest) →
    ∀ {draft}, P draft → P (store draft)

theorem Field.keeps_of {reader : Nat → Reader α} {store : α → δ → δ} {depth : Nat} {P : δ → Prop}
    (h : ∀ {bytes value rest}, reader depth bytes = .ok (value, rest) →
      ∀ {draft}, P draft → P (store value draft))
    (name : String) (required : Bool) : (Field.of name required reader store).Keeps depth P := by
  intro bytes stored rest hread draft hdraft
  obtain ⟨⟨value, after⟩, hvalue, hstored⟩ := bind_eq_ok_iff.1 hread
  cases hstored
  exact h hvalue hdraft

namespace Shape

variable {shape : Shape δ} {depth : Nat} {P : δ → Prop}

theorem readMember_cases {seen seen' : List String} {draft draft' : δ} {bytes rest : List UInt8}
    (h : shape.readMember depth seen draft bytes = .ok ((seen', draft'), rest)) :
    (∃ field ∈ shape.fields, field.name ∉ seen ∧ seen' = field.name :: seen ∧
      ∃ inside store, field.read depth inside = .ok (store, rest) ∧ draft' = store draft) ∨
    (seen' = seen ∧ draft' = draft) := by
  rw [readMember] at h
  obtain ⟨⟨name, after⟩, -, h⟩ := bind_eq_ok_iff.1 h
  dsimp only at h
  split at h
  · next field hfield =>
    split at h
    · cases h
    · next hseen =>
      obtain ⟨⟨_, inside⟩, -, h⟩ := bind_eq_ok_iff.1 h
      obtain ⟨⟨store, last⟩, hread, h⟩ := bind_eq_ok_iff.1 h
      cases h
      have hname := name_of_fieldNamed? hfield
      refine .inl ⟨field, List.mem_of_find?_eq_some hfield, ?_, ?_, inside, store, hread, rfl⟩
      · simpa [hname] using hseen
      · rw [hname]
  · obtain ⟨_, -, h⟩ := bind_eq_ok_iff.1 h
    obtain ⟨_, -, h⟩ := bind_eq_ok_iff.1 h
    cases h
    exact .inr ⟨rfl, rfl⟩

theorem complete_eq_ok {seen : List String} {draft result : δ} {bytes rest : List UInt8}
    (h : shape.complete seen draft bytes = .ok (result, rest)) : result = draft := by
  rw [complete] at h
  split at h
  · cases h
  · cases h
    rfl

theorem readOn_cases {fuel : Nat} {seen : List String} {draft result : δ} {bytes rest : List UInt8}
    (h : shape.readOn depth fuel seen draft bytes = .ok (result, rest)) :
    (∃ more, shape.readMembers depth fuel seen draft more = .ok (result, rest)) ∨
      result = draft := by
  rw [readOn] at h
  split at h
  · split at h
    · exact .inl ⟨_, h⟩
    · cases h
    · cases h
    · cases h
  · exact .inr (complete_eq_ok h)
  · cases h
  · cases h

/-- Fields that were seen are not stored again, and need not keep anything. -/
theorem readMembers_keeps {seen : List String}
    (h : ∀ field ∈ shape.fields, field.name ∉ seen → field.Keeps depth P) {fuel : Nat}
    {draft result : δ} {bytes rest : List UInt8}
    (hread : shape.readMembers depth fuel seen draft bytes = .ok (result, rest))
    (hdraft : P draft) : P result := by
  induction fuel generalizing seen draft bytes with
  | zero => cases hread
  | succ fuel ih =>
    rw [readMembers_eq] at hread
    obtain ⟨⟨⟨seen', draft'⟩, after⟩, hmember, hon⟩ := bind_eq_ok_iff.1 hread
    have hstep : P draft' ∧ seen ⊆ seen' := by
      obtain ⟨field, hfield, hseen, rfl, inside, store, hstore, rfl⟩ | ⟨rfl, rfl⟩ :=
        readMember_cases hmember
      · exact ⟨h field hfield hseen hstore hdraft, List.subset_cons_self _ _⟩
      · exact ⟨hdraft, List.Subset.refl _⟩
    obtain ⟨more, hmore⟩ | rfl := readOn_cases hon
    · exact ih (fun field hfield hseen => h field hfield fun hmem => hseen (hstep.2 hmem)) hmore
        hstep.1
    · exact hstep.1

theorem readSlots_keeps {fields : List (Field δ)} (h : ∀ field ∈ fields, field.Keeps depth P)
    {index : Nat} {draft result : δ} {bytes rest : List UInt8}
    (hread : shape.readSlots depth fields index draft bytes = .ok (result, rest))
    (hdraft : P draft) : P result := by
  induction fields generalizing index draft bytes with
  | nil =>
    rw [readSlots, readEnd_eq_ok_iff] at hread
    exact hread.2 ▸ hdraft
  | cons field fields ih =>
    obtain ⟨hfield, hfields⟩ := List.forall_mem_cons.1 h
    have hslot : ∀ {inside}, (field.read depth inside >>= fun read =>
        shape.readSlots depth fields (index + 1) (read.1 draft) read.2) = .ok (result, rest) →
        P result := by
      intro inside hslot
      obtain ⟨⟨store, after⟩, hstore, hrest⟩ := bind_eq_ok_iff.1 hslot
      exact ih hfields hrest (hfield hstore hdraft)
    rw [readSlots] at hread
    split at hread
    · cases hread
    · split at hread
      · cases hread
      · exact ih hfields hread hdraft
    · split at hread
      · exact hslot hread
      split at hread
      · split at hread
        · cases hread
        · cases hread
        · exact hslot hread
      · cases hread

theorem read_keeps (hblank : P shape.blank) (h : ∀ field ∈ shape.fields, field.Keeps depth P)
    {bytes rest : List UInt8} {result : δ}
    (hread : shape.read (depth + 1) bytes = .ok (result, rest)) : P result := by
  rw [read] at hread
  split at hread
  · dsimp only at hread
    split at hread
    · exact complete_eq_ok hread ▸ hblank
    · exact readMembers_keeps (fun field hfield _ => h field hfield) hread hblank
    · cases hread
    · cases hread
  · exact readSlots_keeps h hread hblank
  · cases hread

end Shape

end Switchboard.Json
