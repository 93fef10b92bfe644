import Switchboard.Http.Request

/-!
# Context of a call

What middleware and methods can learn of a call: its path, its id, its headers, and the values
that its host and earlier middleware attached to it.
-/

namespace Switchboard

structure Context where
  /-- The folded path of the call, once it is resolved. -/
  method : String := ""
  requestId : Option String := none
  headers : Headers := {}
  extensions : Extensions := {}

namespace Context

def ofRequest (headers : Headers) (extensions : Extensions) (requestIdHeader : String) : Context :=
  { requestId := headers.text? requestIdHeader, headers, extensions }

def header? (context : Context) (name : String) : Option String :=
  context.headers.text? name

def get? (context : Context) (kind : String) : Option Json :=
  context.extensions.get? kind

def insert (context : Context) (kind : String) (value : Json) : Context :=
  { context with extensions := context.extensions.insert kind value }

end Context

end Switchboard
