import Switchboard.Json.Record
import Switchboard.Proofs.PrintedValues

/-!
# Records that were printed

A record is read back from an object that was printed, member by member: each goes to the field of
its name, or is passed over if there is none.
-/

namespace Switchboard.Json

/-! ## Values of fields -/

theorem readText_print (s : String) (rest : List UInt8) :
    readText (encode (print (.string s)) ++ rest) = .ok (s, rest) := by
  have hread := readString_escapes s.toList rest
  rw [String.ofList_toList] at hread
  rw [print, encode_stringText, List.cons_append, List.append_assoc, List.singleton_append,
    readText, skipSpace_cons rfl]
  exact hread

theorem readInt_print (expected : String) {least greatest : Int} {n : Whole}
    (hleast : least ≤ n.val) (hgreatest : n.val ≤ greatest) {rest : List UInt8}
    (hrest : Delimits rest) :
    readInt expected least greatest (encode (print (.whole n)) ++ rest) = .ok (n.val, rest) := by
  rw [print]
  cases Numeral.written n hrest with
  | negative digits hdigits hread =>
    rw [hdigits, List.cons_append, readInt, skipSpace_cons rfl]
    simp [hread, bind, Except.bind, hleast, hgreatest]
  | nonnegative b digits hdigits hb hread =>
    rw [hdigits, List.cons_append, readInt, skipSpace_cons (leads_of_isDigit hb).notSpace]
    simp [hread, bind, Except.bind, hb, ne_of_isDigit hb 45 rfl, hleast, hgreatest]

theorem readOption_print {reader : Reader α} {value : Json} (hfloat : ∀ x, value ≠ .float x)
    (hnull : value ≠ .null) {a : α} {rest : List UInt8}
    (hread : reader (encode (print value) ++ rest) = .ok (a, rest)) :
    readOption reader (encode (print value) ++ rest) = .ok (some a, rest) := by
  obtain ⟨b, tail, hbytes, hlead, hletter⟩ := exists_lead value hfloat
  rw [hbytes, List.cons_append] at hread ⊢
  rw [readOption, skipSpace_cons hlead.notSpace]
  simp [hletter hnull, hread, bind, Except.bind]

def dropNull : Option Json → Option Json
  | some .null => none
  | value => value

theorem readOption_readAny_print {value : Json} (h : value.FloatFree) {depth : Nat}
    (hreadable : Readable depth value) {rest : List UInt8} (hrest : Delimits rest) :
    readOption (readAny depth) (encode (print value) ++ rest) =
      .ok (dropNull (some value), rest) := by
  by_cases hnull : value = .null
  · subst hnull
    rfl
  · have hfloat : ∀ x, value ≠ .float x := by
      rintro x rfl
      exact not_floatFree_float x h
    have hdrop : dropNull (some value) = some value := by
      cases value <;> first | exact absurd rfl hnull | rfl
    rw [hdrop]
    exact readOption_print hfloat hnull (readAny_print h hreadable hrest)

theorem Field.of_read {name : String} {required : Bool} {reader : Nat → Reader α}
    {store : α → δ → δ} {depth : Nat} {bytes rest : List UInt8} {a : α}
    (h : reader depth bytes = .ok (a, rest)) :
    (Field.of name required reader store).read depth bytes = .ok (store a, rest) := by
  simp [Field.of, h, bind, Except.bind]

namespace Shape

variable {shape : Shape δ} {depth : Nat}

def fieldNamed? (shape : Shape δ) (name : String) : Option (Field δ) :=
  shape.fields.find? fun field => field.name == name

theorem name_of_fieldNamed? {name : String} {field : Field δ}
    (h : shape.fieldNamed? name = some field) : field.name = name := by
  have hname : (field.name == name) = true := by
    rw [fieldNamed?] at h
    simpa using List.find?_some h
  exact eq_of_beq hname

theorem name_ne_of_fieldNamed? {name : String} (h : shape.fieldNamed? name = none)
    {field : Field δ} (hfield : field ∈ shape.fields) : field.name ≠ name := by
  have hname := List.find?_eq_none.1 h field hfield
  exact fun heq => hname (beq_iff_eq.2 heq)

def readMember (shape : Shape δ) (depth : Nat) (seen : List String) (draft : δ) :
    Reader (List String × δ) := fun bytes => do
  let (name, rest) ← readString bytes
  match shape.fieldNamed? name with
  | some field => do
    if seen.contains name then
      .error (.here (.duplicateField name) (leaveObject rest))
    let (_, rest) ← readColon rest
    let (store, rest) ← field.read depth rest
    .ok ((name :: seen, store draft), rest)
  | none => do
    let (_, rest) ← readColon rest
    let (_, rest) ← skipValue rest
    .ok ((seen, draft), rest)

def readOn (shape : Shape δ) (depth fuel : Nat) (seen : List String) (draft : δ) : Reader δ :=
  fun bytes =>
    match skipSpace bytes with
    | 44 :: rest =>
      match skipSpace rest with
      | 34 :: rest => readMembers shape depth fuel seen draft rest
      | 125 :: rest => .error (.here .trailingComma rest)
      | [] => .error (.next .endInValue [])
      | rest => .error (.next .keyMustBeString rest)
    | 125 :: rest => complete shape seen draft rest
    | [] => .error (.next .endInObject [])
    | rest => .error (.next .expectedCommaOrBrace rest)

theorem readMembers_eq (fuel : Nat) (seen : List String) (draft : δ) (bytes : List UInt8) :
    shape.readMembers depth (fuel + 1) seen draft bytes =
      (do
        let ((seen, draft), rest) ← shape.readMember depth seen draft bytes
        shape.readOn depth fuel seen draft rest) := by
  rw [readMembers, readMember]
  cases readString bytes with
  | error => rfl
  | ok read =>
    obtain ⟨name, rest⟩ := read
    simp only [bind, Except.bind, fieldNamed?]
    cases shape.fields.find? fun field => field.name == name with
    | none =>
      cases readColon rest with
      | error => rfl
      | ok rest =>
        dsimp only
        cases skipValue rest.2 <;> rfl
    | some field =>
      dsimp only
      split
      · rfl
      · cases readColon rest with
        | error => rfl
        | ok rest =>
          dsimp only [pure, Except.pure]
          cases field.read depth rest.2 <;> rfl

/-! ## Members that were printed -/

/-- What becomes of a member that was printed: the field of its name takes its value, or it is
passed over. -/
inductive Takes (shape : Shape δ) (depth : Nat) : String × Json → (δ → δ) → Prop
  | field {member : String × Json} {field : Field δ} :
      shape.fieldNamed? member.1 = some field →
      (∀ rest, Delimits rest →
        field.read depth (encode (print member.2) ++ rest) = .ok (store, rest)) →
      Takes shape depth member store
  | stranger {member : String × Json} : shape.fieldNamed? member.1 = none →
      (∀ rest, Delimits rest → skipValue (encode (print member.2) ++ rest) = .ok ((), rest)) →
      Takes shape depth member id

/-- What becomes of a draft by members that were printed. -/
inductive Makes (shape : Shape δ) (depth : Nat) : List (String × Json) → δ → δ → Prop
  | done : Makes shape depth [] draft draft
  | step : Takes shape depth member store → Makes shape depth members (store draft) result →
      Makes shape depth (member :: members) draft result

theorem Makes.append {first second : List (String × Json)} {draft between result : δ}
    (h : Makes shape depth first draft between) (h' : Makes shape depth second between result) :
    Makes shape depth (first ++ second) draft result := by
  induction h with
  | done => exact h'
  | step htakes _ ih => exact .step htakes (ih h')

def Covered (shape : Shape δ) (seen names : List String) : Prop :=
  ∀ field ∈ shape.fields, field.required = true → field.name ∈ seen ∨ field.name ∈ names

theorem complete_of_covered {seen : List String} (h : shape.Covered seen []) (draft : δ)
    (rest : List UInt8) : shape.complete seen draft rest = .ok (draft, rest) := by
  have hnone : (shape.fields.find? fun field => field.required && !seen.contains field.name) =
      none := by
    rw [List.find?_eq_none]
    intro field hfield hmissing
    simp only [Bool.and_eq_true, Bool.not_eq_true', List.contains_eq_mem, decide_eq_false_iff_not]
      at hmissing
    exact (h field hfield hmissing.1).elim hmissing.2 List.not_mem_nil
  rw [complete, hnone]

section Member

variable {member : String × Json} {store : δ → δ} {seen names : List String} {rest : List UInt8}

theorem readMember_field (member : String × Json) (store : δ → δ) {field : Field δ}
    (hfield : shape.fieldNamed? member.1 = some field)
    (hread : field.read depth (encode (print member.2) ++ rest) = .ok (store, rest))
    (hseen : member.1 ∉ seen) (draft : δ) :
    shape.readMember depth seen draft (memberBytes member ++ rest) =
      .ok ((member.1 :: seen, store draft), rest) := by
  rw [readMember, readString_memberBytes]
  simp [bind, Except.bind, hfield, hseen, readColon, skipSpace_cons (b := 58) rfl, hread]

theorem readMember_stranger (hfield : shape.fieldNamed? member.1 = none)
    (hskip : skipValue (encode (print member.2) ++ rest) = .ok ((), rest)) (draft : δ) :
    shape.readMember depth seen draft (memberBytes member ++ rest) = .ok ((seen, draft), rest) := by
  rw [readMember, readString_memberBytes]
  simp [bind, Except.bind, hfield, readColon, skipSpace_cons (b := 58) rfl, hskip]

theorem exists_readMember (h : shape.Takes depth member store) (hseen : member.1 ∉ seen)
    (hcovered : shape.Covered seen (member.1 :: names)) (draft : δ) (hrest : Delimits rest) :
    ∃ seen', seen' ⊆ member.1 :: seen ∧ shape.Covered seen' names ∧
      shape.readMember depth seen draft (memberBytes member ++ rest) =
        .ok ((seen', store draft), rest) := by
  cases h with
  | field hfield hread =>
    refine ⟨member.1 :: seen, List.Subset.refl _, fun field hmem hrequired => ?_,
      readMember_field member store hfield (hread rest hrest) hseen draft⟩
    rcases hcovered field hmem hrequired with h | h
    · exact .inl (List.mem_cons_of_mem _ h)
    · rcases List.mem_cons.1 h with h | h
      · exact .inl (List.mem_cons.2 (.inl h))
      · exact .inr h
  | stranger hfield hskip =>
    refine ⟨seen, List.subset_cons_self _ _, fun field hmem hrequired => ?_,
      readMember_stranger hfield (hskip rest hrest) draft⟩
    refine (hcovered field hmem hrequired).imp_right fun h => ?_
    exact (List.mem_cons.1 h).resolve_left (name_ne_of_fieldNamed? hfield hmem)

end Member

theorem readMembers_print {member : String × Json} {members : List (String × Json)}
    {draft result : δ} (h : shape.Makes depth (member :: members) draft result)
    (hnames : ((member :: members).map Prod.fst).Nodup) {seen : List String}
    (hseen : ∀ other ∈ member :: members, other.1 ∉ seen)
    (hcovered : shape.Covered seen ((member :: members).map Prod.fst)) (fuel : Nat)
    (hfuel : members.length < fuel) (rest : List UInt8) :
    shape.readMembers depth fuel seen draft (membersBytes member members ++ 125 :: rest) =
      .ok (result, rest) := by
  -- a name that was seen does not come again, and a required one was seen or is still to come
  induction members generalizing member fuel seen draft with
  | nil =>
    obtain ⟨fuel, rfl⟩ := Nat.exists_eq_add_one_of_ne_zero (Nat.ne_zero_of_lt hfuel)
    cases h with
    | step htakes hdone =>
      cases hdone
      obtain ⟨seen', -, hcovered', hread⟩ :=
        exists_readMember htakes (hseen member List.mem_cons_self) hcovered draft
          (.brace : Delimits (125 :: rest))
      rw [membersBytes, readMembers_eq, hread]
      exact complete_of_covered hcovered' _ rest
  | cons next members ih =>
    obtain ⟨fuel, rfl⟩ := Nat.exists_eq_add_one_of_ne_zero (Nat.ne_zero_of_lt hfuel)
    obtain ⟨hfresh, hnames⟩ := List.nodup_cons.1 hnames
    cases h with
    | step htakes hmakes =>
      obtain ⟨seen', hsubset, hcovered', hread⟩ :=
        exists_readMember htakes (hseen member List.mem_cons_self) hcovered draft
          (.comma : Delimits (44 :: 34 :: (membersBytes next members ++ 125 :: rest)))
      have hseen' : ∀ other ∈ next :: members, other.1 ∉ seen' := by
        intro other hother hmem
        rcases List.mem_cons.1 (hsubset hmem) with heq | hmem
        · exact hfresh (heq ▸ List.mem_map_of_mem hother)
        · exact hseen other (List.mem_cons_of_mem _ hother) hmem
      have hmore := ih hmakes hnames hseen' hcovered' fuel (Nat.lt_of_succ_lt_succ hfuel)
      rw [membersBytes, List.append_assoc, readMembers_eq, List.cons_append, List.cons_append,
        hread]
      exact hmore

theorem read_members (shape : Shape δ) (depth : Nat) (member : String × Json)
    (members : List (String × Json)) (rest : List UInt8) :
    shape.read (depth + 1) (encode (print (.object (member :: members))) ++ rest) =
      shape.readMembers depth ((membersBytes member members ++ 125 :: rest).length + 1) []
        shape.blank (membersBytes member members ++ 125 :: rest) := by
  rw [encode_print_object, List.cons_append, List.append_assoc, List.singleton_append, read,
    skipSpace_cons rfl, encode_printMembers, List.cons_append]
  simp only [skipSpace_cons (b := 34) rfl]

/-- A record is read back from an object that has each of its names once. -/
theorem read_print {members : List (String × Json)} {result : δ}
    (h : shape.Makes depth members shape.blank result) (hnames : (members.map Prod.fst).Nodup)
    (hcovered : shape.Covered [] (members.map Prod.fst)) (rest : List UInt8) :
    shape.read (depth + 1) (encode (print (.object members)) ++ rest) = .ok (result, rest) := by
  cases members with
  | nil =>
    cases h
    exact complete_of_covered hcovered _ rest
  | cons member members =>
    have hlength := length_le_membersBytes member members
    rw [read_members]
    refine readMembers_print h hnames (fun _ _ => List.not_mem_nil) hcovered _ ?_ rest
    rw [List.length_append]
    omega

theorem makes_toList {a? : Option α} {name : String} {toJson : α → Json} {draft result : δ}
    (hnone : a? = none → draft = result)
    (hsome : ∀ a, a? = some a →
      ∃ store, shape.Takes depth (name, toJson a) store ∧ store draft = result) :
    shape.Makes depth (a?.map fun a => (name, toJson a)).toList draft result := by
  cases a? with
  | none =>
    obtain rfl := hnone rfl
    exact .done
  | some a =>
    obtain ⟨store, htakes, rfl⟩ := hsome a rfl
    exact .step htakes .done

theorem makes_nullable {value? : Option Json} {name : String} (store : Option Json → δ → δ)
    (hfield : shape.fieldNamed? name =
      some (.of name false (fun depth => readOption (readAny depth)) store))
    (hfloat : ∀ value, value? = some value → value.FloatFree)
    (hreadable : ∀ value, value? = some value → Readable depth value) {draft : δ}
    (habsent : store none draft = draft) :
    shape.Makes depth (value?.map fun value => (name, value)).toList draft
      (store (dropNull value?) draft) := by
  refine makes_toList (fun hnone => ?_) fun value hsome => ⟨store (dropNull (some value)), ?_, ?_⟩
  · rw [hnone]
    exact habsent.symm
  · exact .field hfield fun rest hrest => Field.of_read
      (readOption_readAny_print (hfloat value hsome) (hreadable value hsome) hrest)
  · rw [hsome]

end Shape

end Switchboard.Json
