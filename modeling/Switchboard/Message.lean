import Switchboard.Error
import Switchboard.Naming

/-!
# Messages

One kind of message is used in both directions: the members present make it a request, a reply
with a result or a reply with an error.
-/

namespace Switchboard

def protocolVersion : String := "2.0"

structure Message where
  /-- Absent and `null` are different ids. -/
  id : Option Json := none
  version : Option String := none
  method : String := ""
  params : Option Json := none
  result : Option Json := none
  error : Option WireError := none

namespace Message

def request (id : Json) (method : String) (params : Json) : Message :=
  { id := some id, version := some protocolVersion, method, params := some params }

/-- An id can be echoed unless it is absent, an array or an object. -/
def hasValidId (message : Message) : Bool :=
  match message.id with
  | none | some (.array _) | some (.object _) => false
  | some _ => true

/-- The namespace and the method, on either side of the first separator. -/
def splitMethod (message : Message) : Except WireError (String × String) :=
  match Naming.splitPath message.method.toList with
  | some (first, second) => .ok (String.ofList first, String.ofList second)
  | none => .error (.methodNotFound "wrong method")

def setError (message : Message) (error : ServiceError) : Message :=
  { message with error := some error.toWire }

/-- Shapes a message for output: a missing id becomes one, the version is set, and the members of
a request are cleared. -/
def finish (message : Message) : Message :=
  { message with
    id := some (message.id.getD Json.one)
    version := some protocolVersion
    method := ""
    params := none }

def isError (message : Message) : Bool :=
  message.error.isSome

def toJson (message : Message) : Json :=
  .object <|
    (message.id.map ("id", ·)).toList
    ++ (message.version.map fun version => ("jsonrpc", .string version)).toList
    ++ (if message.method.isEmpty then [] else [("method", .string message.method)])
    ++ (message.params.map ("params", ·)).toList
    ++ (message.result.map ("result", ·)).toList
    ++ (message.error.map fun error => ("error", error.toJson)).toList

def text (message : Message) : String :=
  message.toJson.text

/-- All members may be missing; an id of `null` is kept, other members of `null` count as
missing. -/
def shape : Json.Shape Message where
  name := "struct RpcMessage"
  blank := {}
  fields := [
    .of "id" false Json.readAny
      fun id message => { message with id := some id },
    .of "jsonrpc" false (fun _ => Json.readOption Json.readText)
      fun version message => { message with version },
    .of "method" false (fun _ => Json.readText)
      fun method message => { message with method },
    .of "params" false (fun depth => Json.readOption (Json.readAny depth))
      fun params message => { message with params },
    .of "result" false (fun depth => Json.readOption (Json.readAny depth))
      fun result message => { message with result },
    .of "error" false (fun depth => Json.readOption (WireError.shape.read depth))
      fun error message => { message with error }]

def parse (bytes : List UInt8) : Except Json.Error Message :=
  shape.parseBytes bytes

end Message

end Switchboard
