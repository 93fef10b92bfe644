import Switchboard.Error
import Switchboard.Json.Parser

/-!
# Sample errors

Errors by the names of their kinds.
-/

namespace Switchboard.Samples

structure ErrorSample where
  kind : String
  message : String
  code : Int32 := 0
  data : Option Json := none

namespace ErrorSample

def jsonFailure (text : String) : String :=
  match Json.parse text with
  | .ok _ => "valid json"
  | .error error => error.message

def wireError (sample : ErrorSample) : WireError :=
  let error : WireError :=
    match sample.kind with
    | "parse" => .parse sample.message
    | "invalid_request" => .invalidRequest sample.message
    | "method_not_found" => .methodNotFound sample.message
    | "invalid_params" => .invalidParams sample.message
    | "internal" => .internal sample.message
    | "server" => .server sample.message
    | _ => { code := sample.code, message := sample.message }
  match sample.data with
  | some data => error.withData data
  | none => error

def error (sample : ErrorSample) : ServiceError :=
  match sample.kind with
  | "token" => .token sample.message
  | "forbidden" => .forbidden sample.message
  | "other" | "string" | "str" | "box" | "io" => .other sample.message
  | "json" => .other (jsonFailure sample.message)
  | _ => .wire sample.wireError

end ErrorSample

end Switchboard.Samples
