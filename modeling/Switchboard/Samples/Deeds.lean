import Switchboard.Middleware.Chain
import Switchboard.Samples.Errors
import Switchboard.Samples.Notebook

/-!
# Sample middleware

Middleware that is put together from deeds: it notes the path it runs for, and then does one deed
after the other until one fails or panics.
-/

namespace Switchboard.Samples

inductive Deed
  | tag (value : String)
  | num (value : Int)
  | see
  | uri
  | needHeader (name message : String)
  | setHeader (name value : String)
  | abortWithStatus (status : Nat)
  | abortWithBody (status : Nat) (contentType body : String)
  | fail (error : ServiceError)
  | panic (message : String)

namespace Deed

abbrev VisitAction (α : Type) := Action (Visit Notebook) α

def note (text : String) : VisitAction Unit :=
  Action.onWorld (Notebook.note text)

def attach (kind : String) (value : Json) : VisitAction Unit :=
  Action.modify fun visit => { visit with context := visit.context.insert kind value }

def respond (f : Exchange → Exchange) : VisitAction Unit :=
  Action.modify fun visit => { visit with exchange := f visit.exchange }

def always (action : VisitAction Unit) : VisitAction (Except ServiceError Unit) := do
  action
  return .ok ()

def sight (visit : Visit Notebook) : String :=
  ":".intercalate
    [visit.context.method, visit.context.requestId.getD "-",
     (textOf? visit.context tagKind).getD "-", truthText visit.exchange.isWritten]

def perform (label : String) : Deed → VisitAction (Except ServiceError Unit)
  | tag value => always do
    let visit ← Action.get
    attach tagKind (.string value)
    note (label ++ ":tag:" ++ (textOf? visit.context tagKind).getD "-")
  | num value => always (attach numKind (.ofInt value))
  | see => always do
    let visit ← Action.get
    note (label ++ ":see:" ++ sight visit)
  | uri => always do
    let visit ← Action.get
    let head := visit.exchange.request
    note (label ++ ":uri:" ++ head.method ++ " " ++ head.target.text)
  | needHeader name message => do
    let visit ← Action.get
    match visit.context.header? name with
    | some _ => return .ok ()
    | none => return .error (.token message)
  | setHeader name value => always (respond (·.setHeader name value))
  | abortWithStatus status => always (respond (·.abortWithStatus status))
  | abortWithBody status contentType body =>
    always (respond (·.abortWithBody status contentType body.toUTF8.toList))
  | fail error => Action.pure (.error error)
  | panic message => Action.panic (.text message)

def performAll (label : String) : List Deed → VisitAction (Except ServiceError Unit)
  | [] => Action.pure (.ok ())
  | deed :: deeds => do
    match ← perform label deed with
    | .error error => return .error error
    | .ok () => performAll label deeds

end Deed

def middleware (label : String) (deeds : List Deed) : MiddlewareHandler Notebook := fun path => do
  Deed.note (label ++ ":" ++ path)
  Deed.performAll label deeds

end Switchboard.Samples
