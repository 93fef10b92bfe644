/-!
# Headers

A list of names and values. Names are kept in lower case, and a name may have several values.
-/

namespace Switchboard

structure Headers where
  entries : List (String × String) := []
deriving DecidableEq, Repr

namespace Headers

/-- A name in lower case; letters outside ASCII have no place in names. -/
def lowerName (name : String) : String :=
  name.map Char.toLower

def ofList (entries : List (String × String)) : Headers :=
  ⟨entries.map fun (name, value) => (lowerName name, value)⟩

def get? (headers : Headers) (name : String) : Option String :=
  (headers.entries.find? (·.1 == lowerName name)).map (·.2)

def isText (value : String) : Bool :=
  value.toList.all fun c => (0x20 ≤ c.toNat && c.toNat ≤ 0x7e) || c == '\t'

def text? (headers : Headers) (name : String) : Option String :=
  (headers.get? name).filter isText

def erase (headers : Headers) (name : String) : Headers :=
  ⟨headers.entries.filter (·.1 != lowerName name)⟩

def set (headers : Headers) (name value : String) : Headers :=
  ⟨(headers.erase name).entries ++ [(lowerName name, value)]⟩

def isValue (value : String) : Bool :=
  value.toList.all fun c => (0x20 ≤ c.toNat && c.toNat ≠ 0x7f) || c == '\t'

def sorted (headers : Headers) : List (String × String) :=
  headers.entries.mergeSort fun a b => a.1 ≤ b.1

end Headers

end Switchboard
