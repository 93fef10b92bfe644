import Mathlib.Data.List.DropRight
import Switchboard.Proofs.ArrayRecords
import Switchboard.Proofs.JsonValues

/-!
# Values that were read

Whatever is read from a text is in order and nests no deeper than the reader goes, and `null` is
read from its word only.
-/

namespace Switchboard.Json

structure FoundIn (depth : Nat) (bytes : List UInt8) (value : Json) : Prop where
  readable : Readable depth value
  letter : value = .null → ∃ more, skipSpace bytes = 110 :: more

theorem foundIn_scalar {value : Json} (harray : ∀ items, value ≠ .array items)
    (hobject : ∀ members, value ≠ .object members) (hnull : value ≠ .null) (depth : Nat)
    (bytes : List UInt8) : FoundIn depth bytes value :=
  ⟨readable_scalar harray hobject depth, fun h => absurd h hnull⟩

theorem foundIn_numeral (n : Numeral) (depth : Nat) (bytes : List UInt8) :
    FoundIn depth bytes n.toJson := by
  cases n with
  | whole n =>
    change FoundIn depth bytes (.whole n)
    exact foundIn_scalar (by simp) (by simp) (by simp) depth bytes
  | float x =>
    change FoundIn depth bytes (.float x)
    exact foundIn_scalar (by simp) (by simp) (by simp) depth bytes

/-- What the readers of values, items and members give with so much fuel. -/
structure ReadsReadable (fuel : Nat) : Prop where
  value : ∀ {depth bytes value rest}, readValue fuel depth bytes = .ok (value, rest) →
    FoundIn depth bytes value
  items : ∀ {depth bytes items rest}, readItems fuel depth bytes = .ok (items, rest) →
    ∀ item ∈ items, Readable depth item
  members : ∀ {depth bytes members rest}, readMembers fuel depth bytes = .ok (members, rest) →
    ∀ member ∈ members, Readable depth member.2

theorem ReadsReadable.value_step {fuel : Nat} (ih : ReadsReadable fuel) {depth : Nat}
    {bytes rest : List UInt8} {value : Json}
    (h : readValue (fuel + 1) depth bytes = .ok (value, rest)) : FoundIn depth bytes value := by
  -- one case for each byte that the reader tells apart, in its order
  rw [readValue] at h
  split at h
  · cases h
  next b more hbytes =>
  split at h
  · next hletter =>
    obtain ⟨_, -, h⟩ := bind_eq_ok_iff.1 h
    cases h
    exact ⟨readable_scalar (by simp) (by simp) depth, fun _ => ⟨more, hletter ▸ hbytes⟩⟩
  split at h
  · obtain ⟨_, -, h⟩ := bind_eq_ok_iff.1 h
    cases h
    exact foundIn_scalar (by simp) (by simp) (by simp) depth bytes
  split at h
  · obtain ⟨_, -, h⟩ := bind_eq_ok_iff.1 h
    cases h
    exact foundIn_scalar (by simp) (by simp) (by simp) depth bytes
  split at h
  · obtain ⟨⟨n, _⟩, -, h⟩ := bind_eq_ok_iff.1 h
    cases h
    exact foundIn_numeral n depth bytes
  split at h
  · obtain ⟨⟨n, _⟩, -, h⟩ := bind_eq_ok_iff.1 h
    cases h
    exact foundIn_numeral n depth bytes
  split at h
  · obtain ⟨_, -, h⟩ := bind_eq_ok_iff.1 h
    cases h
    exact foundIn_scalar (by simp) (by simp) (by simp) depth bytes
  split at h
  · split at h
    · cases h
    · split at h
      · cases h
        exact ⟨readable_array_iff.2 fun item hitem => absurd hitem List.not_mem_nil, by simp⟩
      · cases h
      · obtain ⟨⟨items, _⟩, hitems, h⟩ := bind_eq_ok_iff.1 h
        cases h
        exact ⟨readable_array_iff.2 (ih.items hitems), by simp⟩
  split at h
  · split at h
    · cases h
    · split at h
      · cases h
        exact ⟨readable_ofMembers fun member hmember => absurd hmember List.not_mem_nil, by simp⟩
      · obtain ⟨⟨members, _⟩, hmembers, h⟩ := bind_eq_ok_iff.1 h
        cases h
        exact ⟨readable_ofMembers (ih.members hmembers), by simp [ofMembers]⟩
      · cases h
      · cases h
  · cases h

theorem ReadsReadable.items_step {fuel : Nat} (ih : ReadsReadable fuel) {depth : Nat}
    {bytes rest : List UInt8} {items : List Json}
    (h : readItems (fuel + 1) depth bytes = .ok (items, rest)) :
    ∀ item ∈ items, Readable depth item := by
  rw [readItems] at h
  obtain ⟨⟨item, _⟩, hitem, h⟩ := bind_eq_ok_iff.1 h
  have hitem := (ih.value hitem).readable
  dsimp only at h
  split at h
  · split at h
    · cases h
    · cases h
    · obtain ⟨⟨more, _⟩, hmore, h⟩ := bind_eq_ok_iff.1 h
      cases h
      exact List.forall_mem_cons.2 ⟨hitem, ih.items hmore⟩
  · cases h
    exact List.forall_mem_singleton.2 hitem
  · cases h
  · cases h

theorem ReadsReadable.members_step {fuel : Nat} (ih : ReadsReadable fuel) {depth : Nat}
    {bytes rest : List UInt8} {members : List (String × Json)}
    (h : readMembers (fuel + 1) depth bytes = .ok (members, rest)) :
    ∀ member ∈ members, Readable depth member.2 := by
  rw [readMembers] at h
  obtain ⟨⟨name, _⟩, -, h⟩ := bind_eq_ok_iff.1 h
  obtain ⟨_, -, h⟩ := bind_eq_ok_iff.1 h
  obtain ⟨⟨value, _⟩, hvalue, h⟩ := bind_eq_ok_iff.1 h
  have hvalue := (ih.value hvalue).readable
  dsimp only at h
  split at h
  · split at h
    · obtain ⟨⟨more, _⟩, hmore, h⟩ := bind_eq_ok_iff.1 h
      cases h
      exact List.forall_mem_cons.2 ⟨hvalue, ih.members hmore⟩
    · cases h
    · cases h
    · cases h
  · cases h
    exact List.forall_mem_singleton.2 hvalue
  · cases h
  · cases h

theorem readsReadable (fuel : Nat) : ReadsReadable fuel := by
  induction fuel with
  | zero =>
    constructor
    · intro depth bytes value rest h
      cases h
    · intro depth bytes items rest h
      cases h
    · intro depth bytes members rest h
      cases h
  | succ fuel ih => exact ⟨ih.value_step, ih.items_step, ih.members_step⟩

theorem foundIn_of_readAny {depth : Nat} {bytes rest : List UInt8} {value : Json}
    (h : readAny depth bytes = .ok (value, rest)) : FoundIn depth bytes value :=
  (readsReadable _).value h

theorem reader_of_readOption {reader : Reader α} {bytes rest : List UInt8} {a : α}
    (h : readOption reader bytes = .ok (some a, rest)) :
    ∃ inside, reader inside = .ok (a, rest) := by
  rw [readOption] at h
  split at h
  · obtain ⟨_, -, h⟩ := bind_eq_ok_iff.1 h
    cases h
  · obtain ⟨_, hread, h⟩ := bind_eq_ok_iff.1 h
    cases h
    exact ⟨_, hread⟩

theorem readOption_readAny_cases {depth : Nat} {bytes rest : List UInt8} {value? : Option Json}
    (h : readOption (readAny depth) bytes = .ok (value?, rest)) :
    value? ≠ some .null ∧ ∀ value, value? = some value → Readable depth value := by
  rw [readOption] at h
  split at h
  · obtain ⟨_, -, h⟩ := bind_eq_ok_iff.1 h
    cases h
    exact ⟨by simp, by simp⟩
  · next hletter =>
    obtain ⟨⟨value, _⟩, hread, h⟩ := bind_eq_ok_iff.1 h
    cases h
    have hfound := foundIn_of_readAny hread
    constructor
    · intro hnull
      obtain ⟨more, hmore⟩ := hfound.letter (Option.some.inj hnull)
      rw [skipSpace, skipSpace, List.dropWhile_idempotent] at hmore
      exact hletter more hmore
    · intro other hother
      exact Option.some.inj hother ▸ hfound.readable

end Switchboard.Json
