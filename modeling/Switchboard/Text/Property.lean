import Switchboard.Text.Category
import Switchboard.Text.PropertyTable
import Switchboard.Text.Script

/-!
# Properties of code points

Sets of code points by the names that Unicode gives them: general categories, scripts and
properties. Names are compared loosely.
-/

namespace Switchboard

namespace PropertyEntry

def members (entry : PropertyEntry) : CodePointSet :=
  let inCategories := Category.members fun category =>
    entry.categories.contains (String.ofList [category.major, category.minor])
  (inCategories.union (.ofTable entry.added)).diff (.ofTable entry.removed)

end PropertyEntry

namespace Category

def names : List (String × String) :=
  [("C", "other"), ("Cc", "control"), ("Cc", "cntrl"), ("Cf", "format"), ("Cn", "unassigned"),
   ("Co", "privateuse"), ("L", "letter"), ("Ll", "lowercaseletter"), ("Lm", "modifierletter"),
   ("Lo", "otherletter"), ("Lt", "titlecaseletter"), ("Lu", "uppercaseletter"), ("M", "mark"),
   ("M", "combiningmark"), ("Mc", "spacingmark"), ("Me", "enclosingmark"),
   ("Mn", "nonspacingmark"), ("N", "number"), ("Nd", "decimalnumber"), ("Nd", "digit"),
   ("Nl", "letternumber"), ("No", "othernumber"), ("P", "punctuation"), ("P", "punct"),
   ("Pc", "connectorpunctuation"), ("Pd", "dashpunctuation"), ("Pe", "closepunctuation"),
   ("Pf", "finalpunctuation"), ("Pi", "initialpunctuation"), ("Po", "otherpunctuation"),
   ("Ps", "openpunctuation"), ("S", "symbol"), ("Sc", "currencysymbol"), ("Sk", "modifiersymbol"),
   ("Sm", "mathsymbol"), ("So", "othersymbol"), ("Z", "separator"), ("Zl", "lineseparator"),
   ("Zp", "paragraphseparator"), ("Zs", "spaceseparator")]

def withCode (code : String) : CodePointSet :=
  members fun category =>
    code == String.singleton category.major || code == String.ofList [category.major, category.minor]

def named? (name : String) : Option CodePointSet :=
  if name = "any" then some .all
  else if name = "ascii" then some .ascii
  else if name = "assigned" then some (withCode "Cn").complement
  else if name = "lc" ∨ name = "casedletter" then
    some (.unions [withCode "Lu", withCode "Ll", withCode "Lt"])
  else (names.find? fun (code, long) => code.toLower == name || long == name).map fun (code, _) =>
    withCode code

end Category

namespace Property

/-- Leaves out of a name what does not count: case, spaces, low lines, hyphens, what is not ASCII,
and `is` at the beginning. -/
def looseName (name : String) : String :=
  let chars := match name.toList with
    | a :: b :: rest => if (a = 'i' ∨ a = 'I') ∧ (b = 's' ∨ b = 'S') then rest else a :: b :: rest
    | chars => chars
  let isKept (c : Char) := c.toNat < 0x80 && c != ' ' && c != '_' && c != '-'
  let kept := String.ofList ((chars.filter isKept).map Char.toLower)
  if kept = "c" ∧ chars.length < name.length then "isc" else kept

def binary? (name : String) : Option CodePointSet :=
  (PropertyEntry.all.find? (·.names.contains name)).map PropertyEntry.members

def script? (name : String) : Option CodePointSet :=
  (Script.code? name).map Script.members

/-- The set with a name. The abbreviations `cf`, `sc` and `lc` are those of categories. -/
def named? (name : String) : Option CodePointSet :=
  let name := looseName name
  binary? name <|> Category.named? name <|> script? name

def withValue? (property value : String) : Option CodePointSet :=
  let value := looseName value
  match looseName property with
  | "gc" | "generalcategory" => Category.named? value
  | "sc" | "script" => script? value
  | "scx" | "scriptextensions" => (Script.code? value).map Script.extendedMembers
  | _ => none

end Property

namespace CodePointSet

def digits : CodePointSet :=
  Category.withCode "Nd"

def whitespace : CodePointSet :=
  PropertyEntry.members .whiteSpace

def alphabetic : CodePointSet :=
  PropertyEntry.members .alphabetic

/-- The characters of words: letters, marks, decimal digits, connectors and joiners. -/
def wordCharacters : CodePointSet :=
  .unions
    [alphabetic, Category.withCode "M", digits, Category.withCode "Pc",
     PropertyEntry.members .joinControl]

end CodePointSet

end Switchboard
