/-!
# Log events

What happened, for the operator: a level, the part of the program it comes from, and named texts.
-/

namespace Switchboard

inductive Level
  | debug
  | info
  | warn
  | error
deriving DecidableEq, Repr

namespace Level

def name : Level → String
  | debug => "DEBUG"
  | info => "INFO"
  | warn => "WARN"
  | error => "ERROR"

end Level

structure Event where
  level : Level
  target : String
  message : String
  fields : List (String × String) := []
deriving DecidableEq, Repr

namespace Event

def dispatchTarget : String := "namespaced_rpc::dispatch"

def registryTarget : String := "namespaced_rpc::registry"

def middlewareTarget : String := "namespaced_rpc::middleware"

end Event

end Switchboard
