import Switchboard.Message
import Switchboard.Proofs.ReadRecords
import Switchboard.Proofs.ReadValues

/-!
# Messages that are written and read back

A message without floats is read back from its text, but for the `null` of its params, of its result
and of its error's data, which become absent. A message that was read is read back as it is.
-/

namespace Switchboard

open Json (Delimits encode)

theorem Json.map_fst_sublist {name : String} {member? : Option α} {toJson : α → Json} :
    ((member?.map fun a => (name, toJson a)).toList.map Prod.fst).Sublist [name] := by
  cases member? with
  | none => exact List.nil_sublist _
  | some a => exact List.Sublist.refl _

namespace WireError

def dropNull (error : WireError) : WireError :=
  { error with data := Json.dropNull error.data }

def Readable (depth : Nat) (error : WireError) : Prop :=
  ∀ data, error.data = some data → Json.Readable depth data

theorem exists_code (code : Int32) :
    ∃ n : Whole, n.val = code.toInt ∧ Json.ofInt code.toInt = .whole n := by
  have hlower := code.le_toInt
  have hupper := code.toInt_lt
  have hbounds : -9223372036854775808 ≤ code.toInt ∧ code.toInt < 18446744073709551616 := by
    omega
  refine ⟨⟨code.toInt, hbounds.1, hbounds.2⟩, rfl, ?_⟩
  rw [Json.ofInt, Whole.ofInt?, dif_pos hbounds]

def members (error : WireError) : List (String × Json) :=
  [("code", .ofInt error.code.toInt), ("message", .string error.message)]
    ++ (error.data.map ("data", ·)).toList

theorem toJson_eq (error : WireError) : error.toJson = .object error.members := rfl

theorem read_print (error : WireError) {depth : Nat}
    (hfloat : ∀ data, error.data = some data → data.FloatFree) (h : error.Readable depth)
    (rest : List UInt8) :
    shape.read (depth + 1) (encode (Json.print error.toJson) ++ rest) =
      .ok (error.dropNull, rest) := by
  have hcode : shape.Takes depth ("code", .ofInt error.code.toInt)
      fun draft => { draft with code := error.code } := by
    obtain ⟨n, hval, hjson⟩ := exists_code error.code
    have hlower := error.code.le_toInt
    have hupper := error.code.toInt_lt
    refine .field rfl fun rest hrest => ?_
    have hread := Json.readInt_print "i32" (by omega : -2147483648 ≤ n.val)
      (by omega : n.val ≤ 2147483647) hrest
    rw [hjson, Json.Field.of_read hread, hval, Int32.ofInt_toInt]
  have hmessage : shape.Takes depth ("message", .string error.message)
      fun draft => { draft with message := error.message } :=
    .field rfl fun rest _ => Json.Field.of_read (Json.readText_print error.message rest)
  have hdata : shape.Makes depth (error.data.map ("data", ·)).toList
      { code := error.code, message := error.message } error.dropNull :=
    Json.Shape.makes_nullable (fun data (draft : WireError) => { draft with data }) rfl hfloat h rfl
  have hnames : (error.members.map Prod.fst).Sublist ["code", "message", "data"] := by
    exact .cons_cons _ (.cons_cons _ Json.map_fst_sublist)
  refine Json.Shape.read_print (.step hcode (.step hmessage hdata))
    (hnames.nodup (by decide)) ?_ rest
  simp [Json.Shape.Covered, shape, Json.Field.of]

end WireError

namespace Message

def values (message : Message) : List Json :=
  message.id.toList ++ message.params.toList ++ message.result.toList
    ++ (message.error.bind (·.data)).toList

/-- A message without `null` in the place of its params, its result and its error's data. -/
def dropNulls (message : Message) : Message :=
  { message with
    params := Json.dropNull message.params
    result := Json.dropNull message.result
    error := message.error.map (·.dropNull) }

/-- The values of a message can be read where they stand, those of an error one level below the
others. -/
structure Readable (depth : Nat) (message : Message) : Prop where
  id : ∀ value, message.id = some value → Json.Readable (depth + 1) value
  params : ∀ value, message.params = some value → Json.Readable (depth + 1) value
  result : ∀ value, message.result = some value → Json.Readable (depth + 1) value
  error : ∀ error, message.error = some error → error.Readable depth

def members (message : Message) : List (String × Json) :=
  (message.id.map ("id", ·)).toList
    ++ (message.version.map fun version => ("jsonrpc", .string version)).toList
    ++ (if message.method.isEmpty then [] else [("method", .string message.method)])
    ++ (message.params.map ("params", ·)).toList
    ++ (message.result.map ("result", ·)).toList
    ++ (message.error.map fun error => ("error", error.toJson)).toList

theorem toJson_eq (message : Message) : message.toJson = .object message.members := rfl

theorem names_sublist (message : Message) :
    (message.members.map Prod.fst).Sublist
      ["id", "jsonrpc", "method", "params", "result", "error"] := by
  have hmethod : ((if message.method.isEmpty then []
      else [("method", Json.string message.method)]).map Prod.fst).Sublist ["method"] := by
    split
    · exact List.nil_sublist _
    · exact List.Sublist.refl _
  simp only [members, List.map_append]
  exact ((((Json.map_fst_sublist.append Json.map_fst_sublist).append hmethod).append
    Json.map_fst_sublist).append Json.map_fst_sublist).append Json.map_fst_sublist

variable {message : Message} {depth : Nat}

theorem forall_mem_values {P : Json → Prop} :
    (∀ value ∈ message.values, P value) ↔
      (∀ value, message.id = some value → P value) ∧
      (∀ value, message.params = some value → P value) ∧
      (∀ value, message.result = some value → P value) ∧
      ∀ error, message.error = some error → ∀ data, error.data = some data → P data := by
  simp only [values, List.mem_append, Option.mem_toList, or_imp, forall_and, and_assoc,
    Option.bind_eq_some_iff, forall_exists_index, and_imp]
  refine and_congr_right fun _ => and_congr_right fun _ => and_congr_right fun _ => ?_
  exact ⟨fun h error herror data => h data error herror,
    fun h data error herror => h error herror data⟩

theorem readable_of_nesting (hordered : ∀ value ∈ message.values, value.Ordered)
    (hnesting : message.toJson.nesting ≤ depth + 2) : message.Readable depth := by
  obtain ⟨hid, hparams, hresult, herror⟩ := forall_mem_values.1 hordered
  have hmembers : ∀ member ∈ message.members, member.2.nesting ≤ depth + 1 :=
    Json.nestingOfMembers_le_iff.1 (Nat.le_of_succ_le_succ hnesting)
  refine ⟨fun value hvalue => ⟨hid value hvalue, ?_⟩,
    fun value hvalue => ⟨hparams value hvalue, ?_⟩,
    fun value hvalue => ⟨hresult value hvalue, ?_⟩,
    fun error hvalue data hdata => ⟨herror error hvalue data hdata, ?_⟩⟩
  · exact hmembers ("id", value) (by simp [members, hvalue])
  · exact hmembers ("params", value) (by simp [members, hvalue])
  · exact hmembers ("result", value) (by simp [members, hvalue])
  · have hobject := hmembers ("error", error.toJson) (by simp [members, hvalue])
    have hinside : ∀ member ∈ error.members, member.2.nesting ≤ depth :=
      Json.nestingOfMembers_le_iff.1 (Nat.le_of_succ_le_succ hobject)
    exact hinside ("data", data) (by simp [WireError.members, hdata])

theorem makes_dropNulls (hfloat : ∀ value ∈ message.values, value.FloatFree)
    (h : message.Readable depth) :
    shape.Makes (depth + 1) message.members {} message.dropNulls := by
  obtain ⟨hid, hparams, hresult, herror⟩ := forall_mem_values.1 hfloat
  have makesId : shape.Makes (depth + 1) (message.id.map ("id", ·)).toList
      {} { id := message.id } := by
    refine Json.Shape.makes_toList (fun hnone => by rw [hnone]) fun id hsome =>
      ⟨fun draft => { draft with id := some id }, ?_, by rw [hsome]⟩
    exact .field rfl fun rest hrest => Json.Field.of_read
      (Json.readAny_print (hid id hsome) (h.id id hsome) hrest)
  have makesVersion : shape.Makes (depth + 1)
      (message.version.map fun version => ("jsonrpc", .string version)).toList
      { id := message.id } { id := message.id, version := message.version } := by
    refine Json.Shape.makes_toList (fun hnone => by rw [hnone]) fun version hsome =>
      ⟨fun draft => { draft with version := some version }, ?_, by rw [hsome]⟩
    exact .field rfl fun rest hrest => Json.Field.of_read
      (Json.readOption_print (by simp) (by simp) (Json.readText_print version rest))
  have makesMethod : shape.Makes (depth + 1)
      (if message.method.isEmpty then [] else [("method", .string message.method)])
      { id := message.id, version := message.version }
      { id := message.id, version := message.version, method := message.method } := by
    split
    · next hempty =>
      rw [String.isEmpty_iff.1 hempty]
      exact .done
    · exact .step (.field rfl fun rest _ => Json.Field.of_read
        (Json.readText_print message.method rest)) .done
  have makesParams : shape.Makes (depth + 1) (message.params.map ("params", ·)).toList
      { id := message.id, version := message.version, method := message.method }
      { id := message.id, version := message.version, method := message.method,
        params := Json.dropNull message.params } :=
    Json.Shape.makes_nullable (fun params (draft : Message) => { draft with params }) rfl
      hparams h.params rfl
  have makesResult : shape.Makes (depth + 1) (message.result.map ("result", ·)).toList
      { id := message.id, version := message.version, method := message.method,
        params := Json.dropNull message.params }
      { id := message.id, version := message.version, method := message.method,
        params := Json.dropNull message.params, result := Json.dropNull message.result } :=
    Json.Shape.makes_nullable (fun result (draft : Message) => { draft with result }) rfl
      hresult h.result rfl
  have makesError : shape.Makes (depth + 1)
      (message.error.map fun error => ("error", error.toJson)).toList
      { id := message.id, version := message.version, method := message.method,
        params := Json.dropNull message.params, result := Json.dropNull message.result }
      message.dropNulls := by
    refine Json.Shape.makes_toList (fun hnone => ?_) fun error hsome =>
      ⟨fun draft => { draft with error := some error.dropNull }, ?_, ?_⟩
    · rw [dropNulls, hnone]
      rfl
    · have hread := fun rest => error.read_print (herror error hsome) (h.error error hsome) rest
      exact .field rfl fun rest _ => Json.Field.of_read (Json.readOption_print
        (by simp [WireError.toJson]) (by simp [WireError.toJson]) (hread rest))
    · rw [dropNulls, hsome]
      rfl
  exact ((((makesId.append makesVersion).append makesMethod).append makesParams).append
    makesResult).append makesError

theorem read_print (hfloat : ∀ value ∈ message.values, value.FloatFree)
    (h : message.Readable depth) (rest : List UInt8) :
    shape.read (depth + 2) (encode (Json.print message.toJson) ++ rest) =
      .ok (message.dropNulls, rest) := by
  refine Json.Shape.read_print (makes_dropNulls hfloat h)
    (message.names_sublist.nodup (by decide)) ?_ rest
  simp [Json.Shape.Covered, shape, Json.Field.of]

/-! ## Messages that were read -/

end Message

theorem Json.dropNull_of_ne {value? : Option Json} (h : value? ≠ some .null) :
    dropNull value? = value? := by
  unfold dropNull
  split
  · exact absurd rfl h
  · rfl

/-- An error as it is read: its data can be read where they stand, and are not `null`. -/
structure WireError.Proper (depth : Nat) (error : WireError) : Prop where
  readable : error.Readable depth
  data : error.data ≠ some .null

theorem WireError.proper_of_read {depth : Nat} {bytes rest : List UInt8} {error : WireError}
    (h : shape.read (depth + 1) bytes = .ok (error, rest)) : error.Proper depth := by
  refine Json.Shape.read_keeps ⟨fun data h => (by cases h), by simp [shape]⟩ ?_ h
  simp only [shape, List.forall_mem_cons, List.not_mem_nil, false_imp_iff, implies_true, and_true]
  refine ⟨?_, ?_, ?_⟩
  · exact Json.Field.keeps_of (fun _ _ hdraft => ⟨hdraft.readable, hdraft.data⟩) _ _
  · exact Json.Field.keeps_of (fun _ _ hdraft => ⟨hdraft.readable, hdraft.data⟩) _ _
  · refine Json.Field.keeps_of (fun hread _ _ => ?_) _ _
    obtain ⟨hnull, hreadable⟩ := Json.readOption_readAny_cases hread
    exact ⟨hreadable, hnull⟩

theorem WireError.Proper.dropNull {depth : Nat} {error : WireError} (h : error.Proper depth) :
    error.dropNull = error := by
  rw [WireError.dropNull, Json.dropNull_of_ne h.data]

/-- A message as it is read: its values can be read where they stand, and only its id may be
`null`. -/
structure Message.Proper (depth : Nat) (message : Message) : Prop where
  id : ∀ value, message.id = some value → Json.Readable (depth + 1) value
  params : message.params ≠ some .null ∧
    ∀ value, message.params = some value → Json.Readable (depth + 1) value
  result : message.result ≠ some .null ∧
    ∀ value, message.result = some value → Json.Readable (depth + 1) value
  error : ∀ error, message.error = some error → error.Proper depth

namespace Message

variable {message : Message} {depth : Nat}

theorem Proper.readable (h : message.Proper depth) : message.Readable depth :=
  ⟨h.id, h.params.2, h.result.2, fun error herror => (h.error error herror).readable⟩

theorem Proper.dropNulls (h : message.Proper depth) : message.dropNulls = message := by
  have herror : message.error.map (·.dropNull) = message.error := by
    cases hsome : message.error with
    | none => rfl
    | some error => rw [Option.map_some, (h.error error hsome).dropNull]
  rw [Message.dropNulls, Json.dropNull_of_ne h.params.1, Json.dropNull_of_ne h.result.1, herror]

theorem proper_of_read {bytes rest : List UInt8}
    (h : shape.read (depth + 2) bytes = .ok (message, rest)) : message.Proper depth := by
  refine Json.Shape.read_keeps ?_ ?_ h
  · exact ⟨by simp [shape], by simp [shape], by simp [shape], by simp [shape]⟩
  simp only [shape, List.forall_mem_cons, List.not_mem_nil, false_imp_iff, implies_true, and_true]
  refine ⟨?_, ?_, ?_, ?_, ?_, ?_⟩
  · refine Json.Field.keeps_of (fun hread _ hdraft => { hdraft with id := ?_ }) _ _
    rintro _ ⟨⟩
    exact (Json.foundIn_of_readAny hread).readable
  · exact Json.Field.keeps_of (fun _ _ hdraft => { hdraft with }) _ _
  · exact Json.Field.keeps_of (fun _ _ hdraft => { hdraft with }) _ _
  · exact Json.Field.keeps_of (fun hread _ hdraft =>
      { hdraft with params := Json.readOption_readAny_cases hread }) _ _
  · exact Json.Field.keeps_of (fun hread _ hdraft =>
      { hdraft with result := Json.readOption_readAny_cases hread }) _ _
  · refine Json.Field.keeps_of (fun hread _ hdraft => { hdraft with error := ?_ }) _ _
    rintro error rfl
    obtain ⟨inside, hinside⟩ := Json.reader_of_readOption hread
    exact WireError.proper_of_read hinside

theorem parse_eq_ok_iff {body : List UInt8} :
    parse body = .ok message ↔
      ∃ rest, shape.read Json.maxDepth body = .ok (message, rest) ∧ Json.skipSpace rest = [] :=
  Json.readAll_eq_ok_iff

theorem toUTF8_text (message : Message) :
    message.text.toUTF8.toList = encode (Json.print message.toJson) :=
  Json.toUTF8_ofList _

theorem parse_text_of_readable (hfloat : ∀ value ∈ message.values, value.FloatFree)
    (h : message.Readable (Json.maxDepth - 2)) :
    parse message.text.toUTF8.toList = .ok message.dropNulls := by
  have hread := read_print hfloat h []
  rw [List.append_nil, ← toUTF8_text] at hread
  exact parse_eq_ok_iff.2 ⟨[], hread, rfl⟩

/-- A message without floats is read back from its text, without those members that are `null`, and
as it is if it was read before. -/
theorem parse_text (message : Message) (hfloat : ∀ value ∈ message.values, value.FloatFree) :
    ((∀ value ∈ message.values, value.Ordered) → message.toJson.nesting ≤ Json.maxDepth →
      parse message.text.toUTF8.toList = .ok message.dropNulls) ∧
    ∀ body, parse body = .ok message → parse message.text.toUTF8.toList = .ok message := by
  constructor
  · intro hordered hnesting
    exact parse_text_of_readable hfloat (readable_of_nesting hordered hnesting)
  · intro body hbody
    obtain ⟨rest, hread, -⟩ := parse_eq_ok_iff.1 hbody
    have hproper : message.Proper (Json.maxDepth - 2) := proper_of_read hread
    rw [parse_text_of_readable hfloat hproper.readable, hproper.dropNulls]

def refusal : Message where
  id := some .null
  version := some "2.0"
  error := some
    { code := 401, message := "who?\n", data := some (.object [("realms", .array [.one])]) }

theorem parse_text_refusal :
    (∀ value ∈ refusal.values, value.FloatFree) ∧ (∀ value ∈ refusal.values, value.Ordered) ∧
      refusal.toJson.nesting ≤ Json.maxDepth ∧
      parse refusal.text.toUTF8.toList = .ok refusal ∧
      ∃ body, parse body = .ok refusal ∧ parse refusal.text.toUTF8.toList = .ok refusal := by
  have hvalues : refusal.values = [.null, .object [("realms", .array [.one])]] := rfl
  have hfloat : ∀ value ∈ refusal.values, value.FloatFree := by
    rw [hvalues]
    simp only [List.forall_mem_cons, List.not_mem_nil, false_imp_iff, implies_true, and_true]
    refine ⟨fun x hpart => (by cases hpart), fun x hpart => ?_⟩
    cases hpart with
    | member hmember hpart =>
      rw [List.mem_singleton.1 hmember] at hpart
      cases hpart with
      | item hitem hpart =>
        rw [List.mem_singleton.1 hitem, Json.one] at hpart
        cases hpart
  have hordered : ∀ value ∈ refusal.values, value.Ordered := by
    rw [hvalues]
    simp only [List.forall_mem_cons, List.not_mem_nil, false_imp_iff, implies_true, and_true]
    constructor
    · exact (Json.readable_scalar (by simp) (by simp) 0).ordered
    · have hone : Json.Readable 0 .one := Json.readable_scalar (by simp [Json.one])
        (by simp [Json.one]) 0
      have harray : Json.Readable 1 (.array [.one]) :=
        Json.readable_array_iff.2 (List.forall_mem_singleton.2 hone)
      exact (Json.readable_object_iff.2 ⟨List.pairwise_singleton _ _,
        List.forall_mem_singleton.2 harray⟩).ordered
  have hnesting : refusal.toJson.nesting ≤ Json.maxDepth := by decide
  have hparse := (parse_text refusal hfloat).1 hordered hnesting
  exact ⟨hfloat, hordered, hnesting, hparse, _, hparse, (parse_text refusal hfloat).2 _ hparse⟩

end Message

end Switchboard
