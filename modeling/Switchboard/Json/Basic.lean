import Switchboard.Floating

/-!
# JSON values

Numbers are whole numbers that a 64-bit word can hold, or floats. An object that is read or put
together by `ofMembers` keeps its members in the order of their names, one member a name; messages
and their errors are written as objects in the order of their fields.
-/

namespace Switchboard

/-- A whole number that fits a signed or an unsigned word of 64 bits. -/
structure Whole where
  val : Int
  lower : -9223372036854775808 ≤ val := by omega
  upper : val < 18446744073709551616 := by omega
deriving DecidableEq

def Whole.ofInt? (n : Int) : Option Whole :=
  if h : -9223372036854775808 ≤ n ∧ n < 18446744073709551616 then some ⟨n, h.1, h.2⟩ else none

inductive Json
  | null
  | bool (b : Bool)
  | whole (n : Whole)
  | float (x : Floating)
  | string (s : String)
  | array (items : List Json)
  | object (members : List (String × Json))
deriving Inhabited

namespace Json

def zero : Json := .whole ⟨0, by decide, by decide⟩

def one : Json := .whole ⟨1, by decide, by decide⟩

def ofInt (n : Int) : Json :=
  match Whole.ofInt? n with
  | some n => .whole n
  | none => .null

/-- Gives a member a value: in its place by name, or instead of the member of that name. -/
def setMember (name : String) (value : Json) :
    List (String × Json) → List (String × Json)
  | [] => [(name, value)]
  | (other, held) :: rest =>
    if name = other then (name, value) :: rest
    else if name < other then (name, value) :: (other, held) :: rest
    else (other, held) :: setMember name value rest

def ofMembers (members : List (String × Json)) : Json :=
  .object (members.foldl (fun kept (name, value) => setMember name value kept) [])

/-- Whether a value stands for nothing: `null`, `false`, zero and the empty string. -/
def isBlank : Json → Bool
  | null => true
  | bool b => !b
  | whole n => n.val == 0
  | float x => x.isZero
  | string s => s.isEmpty
  | array _ | object _ => false

end Json

end Switchboard
