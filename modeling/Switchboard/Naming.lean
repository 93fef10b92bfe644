import Switchboard.Text.LetterCase

/-!
# Naming conventions

Names are folded before they are stored and before they are looked up, so that the spellings
`UserService.GetName` and `user_service.get_name` name the same method.
-/

namespace Switchboard

inductive Naming
  | verbatim
  | snake
deriving DecidableEq, Repr

def separator : Char := '.'

namespace Naming

open LetterCase

/-- Whether a word starts at an upper-case character with these neighbours. A run of upper-case
characters is one word, except that its last member starts the word of a lower-case successor. -/
def startsWord (previous next : Option Char) : Bool :=
  match previous with
  | none => false
  | some p =>
    if p = '_' then false
    else if isLower p || p.isDigit then true
    else if isUpper p then next.any isLower
    else false

def snakeAfter : Option Char → List Char → List Char
  | _, [] => []
  | previous, c :: rest =>
    if isUpper c then
      if startsWord previous rest.head? then
        '_' :: (toLower c ++ snakeAfter (some c) rest)
      else
        toLower c ++ snakeAfter (some c) rest
    else
      c :: snakeAfter (some c) rest

/-- Folds `CamelCase`, `mixedCase` and `snake_case` names to `snake_case`. -/
def snakeCase (name : List Char) : List Char :=
  snakeAfter none name

def foldChars : Naming → List Char → List Char
  | verbatim, name => name
  | snake, name => snakeCase name

def fold (naming : Naming) (name : String) : String :=
  String.ofList (naming.foldChars name.toList)

def components : List Char → List (List Char)
  | [] => [[]]
  | c :: rest =>
    if c = separator then [] :: components rest
    else match components rest with
      | [] => [[c]]
      | part :: parts => (c :: part) :: parts

def joinComponents : List (List Char) → List Char
  | [] => []
  | [part] => part
  | part :: parts => part ++ separator :: joinComponents parts

def foldPath (naming : Naming) (path : String) : String :=
  String.ofList (joinComponents ((components path.toList).map naming.foldChars))

def splitPath : List Char → Option (List Char × List Char)
  | [] => none
  | c :: rest =>
    if c = separator then some ([], rest)
    else (splitPath rest).map fun (first, second) => (c :: first, second)

def label : Naming → String
  | verbatim => "Verbatim"
  | snake => "Snake"

end Naming

end Switchboard
