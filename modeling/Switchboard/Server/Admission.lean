import Switchboard.Http.Request
import Switchboard.Options

/-!
# Admission

What a server looks at before it reads the body of a request. A probe of its health is always
answered; a stopped server refuses everything else; then method, size and type of the request are
checked, in this order.
-/

namespace Switchboard

inductive Refusal
  | methodNotAllowed
  /-- The larger of the declared and the real length is over the limit. -/
  | tooLarge (length limit : Nat)
  | unsupportedType
deriving DecidableEq, Repr

namespace Refusal

def status : Refusal → Nat
  | methodNotAllowed => 405
  | tooLarge _ _ => 413
  | unsupportedType => 415

def statusLine : Refusal → String
  | methodNotAllowed => "405 Method Not Allowed"
  | tooLarge _ _ => "413 Payload Too Large"
  | unsupportedType => "415 Unsupported Media Type"

def message : Refusal → String
  | methodNotAllowed => "method not allowed"
  | tooLarge length limit =>
    "content length too large (" ++ Nat.repr length ++ ">" ++ Nat.repr limit ++ ")"
  | unsupportedType => "invalid content type, only application/json is supported"

end Refusal

inductive Admission
  | probe
  | stopped
  | refused (refusal : Refusal)
  | admitted
deriving DecidableEq, Repr

/-- The number that digits denote, after the digits that denote `read`. -/
def digitsValue? (read : Nat) : List Char → Option Nat
  | [] => some read
  | c :: rest => if c.isDigit then digitsValue? (10 * read + (c.toNat - '0'.toNat)) rest else none

def word? (text : String) : Option Nat :=
  let digits := match text.toList with
    | '+' :: rest => rest
    | rest => rest
  if digits.isEmpty then none else (digitsValue? 0 digits).filter (· ≤ maxWord)

namespace RequestHead

/-- The length that a request declares, or zero if it declares none that can be read. -/
def declaredLength (head : RequestHead) : Nat :=
  ((head.headers.text? "content-length").bind word?).getD 0

def trimBlanks (text : List Char) : List Char :=
  let blank (c : Char) : Bool := c == ' ' || c == '\t'
  ((text.dropWhile blank).reverse.dropWhile blank).reverse

/-- The declared type of the body in lower case, without its parameters. -/
def mediaType (head : RequestHead) : String :=
  match head.headers.text? "content-type" with
  | some type =>
    String.ofList ((trimBlanks (type.toList.takeWhile (· != ';'))).map Char.toLower)
  | none => ""

def isProbe (head : RequestHead) (bodyLength : Nat) : Bool :=
  head.method == "GET" && bodyLength == 0 && (head.target.query.getD "").isEmpty

end RequestHead

namespace Options

def refusal? (options : Options) (head : RequestHead) (bodyLength : Nat) : Option Refusal :=
  let length := max head.declaredLength bodyLength
  if head.method == "PUT" || head.method == "DELETE" then some .methodNotAllowed
  else if options.maxBodyBytes < length then some (.tooLarge length options.maxBodyBytes)
  else if head.method == "OPTIONS" || !options.requireJsonContentType then none
  else if acceptedContentTypes.contains head.mediaType then none
  else some .unsupportedType

def admission (options : Options) (running : Bool) (head : RequestHead) (bodyLength : Nat) :
    Admission :=
  if head.isProbe bodyLength then .probe
  else if !running then .stopped
  else
    match options.refusal? head bodyLength with
    | some refusal => .refused refusal
    | none => .admitted

end Options

end Switchboard
