import Switchboard.Http.Headers
import Switchboard.Json.Basic

/-!
# Requests

A request as its host hands it over: method, target, headers and the whole body.
-/

namespace Switchboard

structure Target where
  origin : String := ""
  path : String := "/"
  query : Option String := none
deriving DecidableEq, Repr

namespace Target

def spanUntil (stop : Char → Bool) : List Char → List Char × List Char
  | [] => ([], [])
  | c :: rest =>
    if stop c then ([], c :: rest)
    else
      let (before, after) := spanUntil stop rest
      (c :: before, after)

def afterScheme : List Char → List Char → Option (List Char × List Char)
  | scheme, ':' :: '/' :: '/' :: rest => some (scheme.reverse, rest)
  | scheme, c :: rest => if c.isAlphanum then afterScheme (c :: scheme) rest else none
  | _, [] => none

def ofRelative (origin : List Char) (text : List Char) : Target :=
  let text := (spanUntil (· == '#') text).1
  let (path, rest) := spanUntil (· == '?') text
  { origin := String.ofList origin
    path := if path.isEmpty then "/" else String.ofList path
    query := match rest with
      | [] => none
      | _ :: query => some (String.ofList query) }

def parse (uri : String) : Target :=
  match afterScheme [] uri.toList with
  | some (scheme, rest) =>
    let (authority, rest) := spanUntil (fun c => c == '/' || c == '?' || c == '#') rest
    ofRelative (scheme ++ ':' :: '/' :: '/' :: authority) rest
  | none => ofRelative [] uri.toList

def text (target : Target) : String :=
  target.origin ++ target.path ++
    match target.query with
    | some query => "?" ++ query
    | none => ""

end Target

structure RequestHead where
  method : String := "POST"
  target : Target := {}
  headers : Headers := {}
deriving DecidableEq, Repr

/-- Values of named kinds, at most one a kind, attached to a call by its host and by middleware. -/
structure Extensions where
  entries : List (String × Json) := []

namespace Extensions

def get? (extensions : Extensions) (kind : String) : Option Json :=
  (extensions.entries.find? (·.1 == kind)).map (·.2)

def erase (extensions : Extensions) (kind : String) : Extensions :=
  ⟨extensions.entries.filter (·.1 != kind)⟩

def insert (extensions : Extensions) (kind : String) (value : Json) : Extensions :=
  ⟨(kind, value) :: (extensions.erase kind).entries⟩

def size (extensions : Extensions) : Nat :=
  extensions.entries.length

end Extensions

structure Request where
  head : RequestHead := {}
  body : List UInt8 := []
  extensions : Extensions := {}

structure Response where
  status : Nat := 200
  headers : Headers := {}
  body : List UInt8 := []
deriving DecidableEq, Repr

end Switchboard
