import Switchboard.Text.CodePointSet
import Switchboard.Text.ScriptTable

/-!
# Scripts

The code points of a script, with and without those that belong to several scripts.
-/

namespace Switchboard.Script

def readRuns (length : Nat) : List Char → List (Nat × String)
  | a :: b :: c :: d :: rest =>
    match CodePointSet.tableDigit? a with
    | some digit => readRuns (16 * length + digit) (b :: c :: d :: rest)
    | none => (if length = 0 then 1 else length, String.ofList [a, b, c, d]) :: readRuns 0 rest
  | _ => []

def runs : List (Nat × String) :=
  readRuns 0 (runLines.flatMap String.toList)

def intervalsFrom (code : String) (next : Nat) : List (Nat × String) → List (Nat × Nat)
  | [] => []
  | (length, script) :: rest =>
    if script = code then (next, next + length - 1) :: intervalsFrom code (next + length) rest
    else intervalsFrom code (next + length) rest

def members (code : String) : CodePointSet :=
  .ofIntervals (intervalsFrom code 0 runs)

/-- The code points of other scripts that are used in a script. -/
def shared (code : String) : CodePointSet :=
  match sharedTables.find? (·.1 == code) with
  | some (_, table) => .ofTable table
  | none => .empty

/-- The code points that are used in a script. A code point that is said to be used in some scripts
is used in no others, even if it is common or inherited. -/
def extendedMembers (code : String) : CodePointSet :=
  if code = "Zyyy" ∨ code = "Zinh" then
    (members code).diff (.unions (sharedTables.map fun (_, table) => .ofTable table))
  else (members code).union (shared code)

def code? (name : String) : Option String :=
  (names.find? fun (code, long) => code.toLower == name || long == name).map (·.1)

end Switchboard.Script
