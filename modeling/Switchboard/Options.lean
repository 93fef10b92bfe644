import Switchboard.Json.Codec
import Switchboard.Naming

/-!
# Options of a server
-/

namespace Switchboard

def acceptedContentTypes : List String :=
  ["application/json", "application/json-rpc", "application/jsonrequest"]

def defaultMaxBodyBytes : Nat := 5 * 1024 * 1024

def maxWord : Nat := (1 <<< 64) - 1

structure Options where
  naming : Naming := .snake
  maxBodyBytes : Nat := defaultMaxBodyBytes
  requireJsonContentType : Bool := true
  requestIdHeader : String := "request-id"
  exposeBacktrace : Bool := false
  path : String := "/"
deriving DecidableEq, Repr

def Naming.names : List (String × Naming) :=
  [("verbatim", .verbatim), ("snake", .snake)]

def Naming.ofName (name : String) : Naming :=
  (Naming.names.lookup name).getD .snake

def Naming.read (depth : Nat) : Json.Reader Naming := fun bytes => do
  let (name, rest) ← Json.readVariant (Naming.names.map (·.1)) depth bytes
  .ok (Naming.ofName name, rest)

/-- The convention that a value names: a string, or an object with the name for its only member
and `null` for that member's value. -/
def Naming.decode (value : Json) : Except Json.Error Naming :=
  let known := Naming.names.map (·.1)
  let check (name : String) : Except Json.Error Unit :=
    if known.contains name then .ok () else .error (.ofCause (.unknownVariant name known))
  match value with
  | .string name => do
    check name
    .ok (Naming.ofName name)
  | .object [(name, value)] => do
    check name
    Codec.unit.decode value
    .ok (Naming.ofName name)
  | .object _ => .error (.ofCause (.invalidValue .map "map with a single key"))
  | other => .error (Json.wrongType other "string or map")

namespace Options

def shape : Json.Shape Options where
  name := "struct ServerOptions"
  blank := {}
  fields := [
    .of "naming" false Naming.read
      fun naming options => { options with naming },
    .of "max_body_bytes" false (fun _ => Json.readInt "usize" 0 maxWord)
      fun limit options => { options with maxBodyBytes := limit.toNat },
    .of "require_json_content_type" false (fun _ => Json.readBool)
      fun require options => { options with requireJsonContentType := require },
    .of "request_id_header" false (fun _ => Json.readText)
      fun header options => { options with requestIdHeader := header },
    .of "expose_backtrace" false (fun _ => Json.readBool)
      fun expose options => { options with exposeBacktrace := expose },
    .of "path" false (fun _ => Json.readText)
      fun path options => { options with path }]

def parse (text : String) : Except Json.Error Options :=
  shape.parse text

end Options

end Switchboard
