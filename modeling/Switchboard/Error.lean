import Switchboard.Json.Record

/-!
# Errors of a call

The errors that methods and middleware raise, the error object of a reply that each becomes, and
the codes of error objects.
-/

namespace Switchboard

namespace Code

def parse : Int32 := -32700
def invalidRequest : Int32 := -32600
def methodNotFound : Int32 := -32601
def invalidParams : Int32 := -32602
def internal : Int32 := -32603
def server : Int32 := -32000
def authorization : Int32 := 401
def forbidden : Int32 := 403

end Code

structure WireError where
  code : Int32
  message : String
  data : Option Json := none

namespace WireError

def parse (message : String) : WireError := { code := Code.parse, message }

def invalidRequest (message : String) : WireError := { code := Code.invalidRequest, message }

def methodNotFound (message : String) : WireError := { code := Code.methodNotFound, message }

def invalidParams (message : String) : WireError := { code := Code.invalidParams, message }

def internal (message : String) : WireError := { code := Code.internal, message }

def server (message : String) : WireError := { code := Code.server, message }

def withData (error : WireError) (data : Json) : WireError :=
  { error with data := some data }

def toJson (error : WireError) : Json :=
  .object <| [("code", .ofInt error.code.toInt), ("message", .string error.message)]
    ++ (error.data.map ("data", ·)).toList

/-- An error object has a code and a message, and may have data; data of `null` are no data. -/
def shape : Json.Shape WireError where
  name := "struct RpcError"
  blank := { code := 0, message := "" }
  fields := [
    .of "code" true (fun _ => Json.readInt "i32" (-2147483648) 2147483647)
      fun code error => { error with code := Int32.ofInt code },
    .of "message" true (fun _ => Json.readText)
      fun message error => { error with message },
    .of "data" false (fun depth => Json.readOption (Json.readAny depth))
      fun data error => { error with data }]

end WireError

inductive ServiceError
  | wire (error : WireError)
  | token (message : String)
  | forbidden (message : String)
  | other (message : String)

namespace ServiceError

def message : ServiceError → String
  | wire error => error.message
  | token message | forbidden message | other message => message

def toWire : ServiceError → WireError
  | wire error => error
  | token message => { code := Code.authorization, message }
  | forbidden message => { code := Code.forbidden, message }
  | other message => .server message

end ServiceError

end Switchboard
