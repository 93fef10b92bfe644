import Switchboard.Proofs.Determinism
import Switchboard.Proofs.RoundTrip
import Switchboard.Proofs.SkippedValues

/-!
# The ids of answers

Every answer carries the id of its request, however the request ends, and nothing else that belongs
to one. Whoever reads the text of the answer finds that id.
-/

namespace Switchboard

open Json (encode)

namespace Json

theorem Shape.makes_strangers {shape : Shape δ} (depth : Nat) {members : List (String × Json)}
    (h : ∀ member ∈ members, shape.fieldNamed? member.1 = none) (draft : δ) :
    shape.Makes depth members draft draft := by
  induction members with
  | nil => exact .done
  | cons member members ih =>
    obtain ⟨hmember, hmembers⟩ := List.forall_mem_cons.1 h
    exact .step (.stranger hmember fun rest hrest => skipValue_print member.2 hrest) (ih hmembers)

end Json

namespace Message

def echoedId (body : List UInt8) : Json :=
  match parse body with
  | .ok { id := some id, .. } => id
  | _ => Json.one

theorem getD_id_sent (body : List UInt8) : (sent body).id.getD Json.one = echoedId body := by
  rw [sent, echoedId]
  cases parse body with
  | error => rfl
  | ok message =>
    obtain ⟨id, _, _, _, _, _⟩ := message
    cases id <;> rfl

theorem readable_echoedId (body : List UInt8) :
    Json.Readable (Json.maxDepth - 1) (echoedId body) := by
  rw [← getD_id_sent, sent]
  cases hparse : parse body with
  | error => exact Json.readable_scalar (by simp [Json.one]) (by simp [Json.one]) _
  | ok message =>
    obtain ⟨rest, hread, -⟩ := parse_eq_ok_iff.1 hparse
    have hproper : message.Proper (Json.maxDepth - 2) := proper_of_read hread
    dsimp only
    cases hid : message.id with
    | none => exact Json.readable_scalar (by simp [Json.one]) (by simp [Json.one]) _
    | some id => exact hproper.id id hid

/-- What tells whose reply a message is: the id, every other member being passed over. -/
def idShape : Json.Shape (Option Json) where
  name := "struct Reply"
  blank := none
  fields := [.of "id" false Json.readAny fun id _ => some id]

variable {message : Message} {id : Json}

theorem exists_members_of_id (hid : message.id = some id) :
    ∃ others, message.members = ("id", id) :: others := by
  simp [members, hid]

theorem parse_idShape (hid : message.id = some id) (hfloat : id.FloatFree)
    (hreadable : Json.Readable (Json.maxDepth - 1) id) :
    idShape.parse message.text = .ok (some id) := by
  obtain ⟨others, hmembers⟩ := exists_members_of_id hid
  have hnames : (message.members.map Prod.fst).Nodup := message.names_sublist.nodup (by decide)
  have hothers : ∀ member ∈ others, idShape.fieldNamed? member.1 = none := by
    rw [hmembers, List.map_cons, List.nodup_cons] at hnames
    intro member hmember
    have hne : "id" ≠ member.1 := by
      intro heq
      have hmem : member.1 ∈ others.map Prod.fst := List.mem_map_of_mem hmember
      exact hnames.1 (heq ▸ hmem)
    simp [Json.Shape.fieldNamed?, idShape, Json.Field.of, hne]
  have hid : idShape.Takes (Json.maxDepth - 1) ("id", id) fun _ => some id :=
    .field rfl fun rest hrest => Json.Field.of_read (Json.readAny_print hfloat hreadable hrest)
  have hread := Json.Shape.read_print
    (Json.Shape.Makes.step hid (Json.Shape.makes_strangers _ hothers (some id)))
    (hmembers ▸ hnames) (by simp [Json.Shape.Covered, idShape, Json.Field.of]) []
  rw [← hmembers, ← toJson_eq, List.append_nil, ← toUTF8_text] at hread
  exact Json.readAll_eq_ok_iff.2 ⟨[], hread, rfl⟩

theorem id_of_parse_text (hid : message.id = some id) (hfloat : id.FloatFree)
    (hreadable : Json.Readable (Json.maxDepth - 1) id) {read : Message}
    (h : parse message.text.toUTF8.toList = .ok read) : read.id = some id := by
  obtain ⟨others, hmembers⟩ := exists_members_of_id hid
  obtain ⟨rest, hread, -⟩ := parse_eq_ok_iff.1 h
  rw [toUTF8_text, toJson_eq, hmembers, ← List.append_nil (encode _)] at hread
  obtain ⟨more, hmore, hdelimits⟩ := Json.exists_membersBytes ("id", id) others []
  have hobject := Json.Shape.read_members shape (Json.maxDepth - 1) ("id", id) others []
  rw [hmore, Json.Shape.readMembers_eq] at hobject
  have hmember : shape.readMember (Json.maxDepth - 1) [] shape.blank
      (Json.memberBytes ("id", id) ++ more) = .ok ((["id"], { id := some id }), more) :=
    Json.Shape.readMember_field ("id", id) (fun draft : Message => { draft with id := some id }) rfl
      (Json.Field.of_read (Json.readAny_print hfloat hreadable hdelimits)) List.not_mem_nil
      shape.blank
  rw [hmember] at hobject
  have hon := hobject.symm.trans hread
  -- the id comes first, and its name is not taken again
  obtain ⟨inside, hinside⟩ | rfl := Json.Shape.readOn_cases hon
  · refine Json.Shape.readMembers_keeps (P := fun draft => draft.id = some id) ?_ hinside rfl
    simp only [shape, List.forall_mem_cons, List.not_mem_nil, false_imp_iff, implies_true, and_true]
    refine ⟨fun hseen => absurd List.mem_cons_self hseen, ?_⟩
    refine ⟨fun _ => ?_, fun _ => ?_, fun _ => ?_, fun _ => ?_, fun _ => ?_⟩ <;>
      refine Json.Field.keeps_of (fun _ _ hdraft => ?_) _ _ <;> exact hdraft
  · rfl

theorem answer_names_sublist (hmethod : message.method = "") (hparams : message.params = none) :
    (message.members.map Prod.fst).Sublist ["id", "jsonrpc", "result", "error"] := by
  simp only [members, hmethod, hparams, List.map_append]
  exact ((((Json.map_fst_sublist.append Json.map_fst_sublist).append (List.Sublist.refl [])).append
    (List.Sublist.refl [])).append Json.map_fst_sublist).append Json.map_fst_sublist

end Message

namespace Server

/-- Every answer has the id of its request, or one, and the version, and no member of a request.
From its text the id is read if no float is in it, be it alone or with the rest of the message. -/
theorem answer_echoes_id (server : Server σ) (body : List UInt8) (visit : Visit σ)
    (log : List Event) :
    ∃ answer after, server.handle body ⟨visit, log⟩ = (.returned answer, after) ∧
      answer.version = some "2.0" ∧ answer.method = "" ∧ answer.params = none ∧
      answer.id = some (Message.echoedId body) ∧
      (∃ members, answer.text = (Json.object members).text ∧
        (members.map Prod.fst).Sublist ["id", "jsonrpc", "result", "error"]) ∧
      ((Message.echoedId body).FloatFree →
        Message.idShape.parse answer.text = .ok (some (Message.echoedId body)) ∧
        (∀ read, Message.parse answer.text.toUTF8.toList = .ok read →
          read.id = some (Message.echoedId body)) ∧
        ((∀ value ∈ answer.values, value.FloatFree ∧ value.Ordered) →
          answer.toJson.nesting ≤ Json.maxDepth →
          ∃ read, Message.parse answer.text.toUTF8.toList = .ok read)) := by
  obtain ⟨course, hcourse⟩ := server.exists_takes body visit
  obtain ⟨noted, hhandle⟩ := hcourse.handle log
  have hid : (course.stage.reply server.options (Message.sent body)).id =
      some (Message.echoedId body) := by
    rw [Stage.reply, Message.getD_id_sent]
  have hreadable := Message.readable_echoedId body
  refine ⟨_, _, hhandle, rfl, rfl, rfl, hid,
    ⟨_, rfl, Message.answer_names_sublist rfl rfl⟩, fun hfloat => ⟨?_, ?_, ?_⟩⟩
  · exact Message.parse_idShape hid hfloat hreadable
  · exact fun read hread => Message.id_of_parse_text hid hfloat hreadable hread
  · intro hvalues hnesting
    have hread := Message.parse_text_of_readable (fun value hvalue => (hvalues value hvalue).1)
      (Message.readable_of_nesting (fun value hvalue => (hvalues value hvalue).2) hnesting)
    exact ⟨_, hread⟩

def namelessBody : List UInt8 :=
  "\x7b\"id\":null\x7d".toUTF8.data.toList

theorem null_id_is_echoed :
    ∃ answer after,
      (ofOptions {} : Server Unit).handle namelessBody
          ⟨{ context := {}, exchange := {}, world := { host := () } }, []⟩ =
        (.returned answer, after) ∧
      answer.id = some .null ∧ Message.idShape.parse answer.text = .ok (some .null) ∧
      ∃ read, Message.parse answer.text.toUTF8.toList = .ok read ∧ read.id = some .null := by
  have hcheck : (Message.parse namelessBody).toOption.any (fun message =>
      message.id.isSome && (Json.dropNull message.id).isNone && message.method.isEmpty &&
        message.result.isNone) = true := by
    decide +kernel
  obtain ⟨⟨id, version, method, params, result, error⟩, hparse, hmessage⟩ :=
    Message.exists_of_parse_any hcheck
  simp only [Bool.and_eq_true, String.isEmpty_iff, Option.isNone_iff_eq_none] at hmessage
  obtain ⟨⟨⟨hid, hdropped⟩, rfl⟩, rfl⟩ := hmessage
  obtain rfl : id = some .null := by
    by_contra hne
    rw [Json.dropNull_of_ne hne] at hdropped
    rw [hdropped] at hid
    cases hid
  have hecho : Message.echoedId namelessBody = .null := by
    rw [Message.echoedId, hparse]
  have hfloat : Json.FloatFree .null := fun x hpart => (by cases hpart)
  obtain ⟨answer, after, hhandle, -, -, -, hanswer, -, hreads⟩ :=
    answer_echoes_id (ofOptions {} : Server Unit) namelessBody
      { context := {}, exchange := {}, world := { host := () } } []
  rw [hecho] at hanswer hreads
  obtain ⟨hparseId, hsame, hread⟩ := hreads hfloat
  have hunsplit : separator ∉ "".toList := by decide
  obtain ⟨noted, hexplicit⟩ :=
    (Takes.unsplit hparse ⟨.null, rfl, by simp, by simp⟩ hunsplit).handle []
  rw [Message.sent_of_ok hparse] at hexplicit
  have hreply : answer =
      { id := some .null
        version := some "2.0"
        error := some { code := Code.methodNotFound, message := "wrong method" } } :=
    Ending.returned.inj (congrArg Prod.fst (hhandle.symm.trans hexplicit))
  have hvalues : ∀ value ∈ answer.values, value.FloatFree ∧ value.Ordered := by
    have hvalues : answer.values = [.null] := by rw [hreply]; rfl
    have hordered : Json.Ordered .null := (Json.readable_scalar (by simp) (by simp) 0).ordered
    rw [hvalues]
    exact List.forall_mem_singleton.2 ⟨hfloat, hordered⟩
  have hnesting : answer.toJson.nesting ≤ Json.maxDepth := by
    rw [hreply]
    decide
  obtain ⟨read, hread⟩ := hread hvalues hnesting
  exact ⟨answer, after, hhandle, hanswer, hparseId, read, hread, hsame read hread⟩

end Server

end Switchboard
