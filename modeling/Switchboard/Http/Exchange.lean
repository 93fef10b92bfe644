import Switchboard.Http.Request

/-!
# Exchanges

An exchange pairs the head of a request with a response that can be written once. Headers may be
changed at any time.
-/

namespace Switchboard

def jsonContentType : String := "application/json; charset=utf-8"

structure Exchange where
  request : RequestHead := {}
  status : Option Nat := none
  headers : Headers := {}
  body : List UInt8 := []
deriving DecidableEq, Repr

namespace Exchange

def isWritten (exchange : Exchange) : Bool :=
  exchange.status.isSome

/-- Writes a response, unless one was written: status, body and, if it can be sent, the content
type. Tells whether it was written now. -/
def tryWrite (exchange : Exchange) (status : Nat) (contentType : Option String)
    (body : List UInt8) : Bool × Exchange :=
  if exchange.isWritten then (false, exchange)
  else
    (true,
      { exchange with
        status := some status
        headers := match contentType.filter Headers.isValue with
          | some type => exchange.headers.set "content-type" type
          | none => exchange.headers
        body })

def write (exchange : Exchange) (status : Nat) (contentType : Option String)
    (body : List UInt8) : Exchange :=
  (exchange.tryWrite status contentType body).2

def abortWithStatus (exchange : Exchange) (status : Nat) : Exchange :=
  exchange.write status none []

def abortWithBody (exchange : Exchange) (status : Nat) (contentType : String)
    (body : List UInt8) : Exchange :=
  exchange.write status (some contentType) body

def setHeader (exchange : Exchange) (name value : String) : Exchange :=
  { exchange with headers := exchange.headers.set name value }

def removeHeader (exchange : Exchange) (name : String) : Exchange :=
  { exchange with headers := exchange.headers.erase name }

/-- The response as it stands; an exchange nobody wrote to answers 200 without a body. -/
def response (exchange : Exchange) : Response :=
  { status := exchange.status.getD 200, headers := exchange.headers, body := exchange.body }

end Exchange

end Switchboard
