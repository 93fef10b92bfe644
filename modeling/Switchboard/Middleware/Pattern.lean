import Switchboard.Log
import Switchboard.Naming
import Switchboard.Regex

/-!
# Patterns of paths

A pattern selects the path that it spells, the path that it spells once folded, and, if it is a
regular expression, the paths in which that matches.
-/

namespace Switchboard

structure Pattern where
  raw : String
  folded : String
  regex : Option Regex

namespace Pattern

def compile (naming : Naming) (raw : String) : Pattern where
  raw := raw
  folded := naming.foldPath raw
  regex := Regex.compile raw

def selects (pattern : Pattern) (path : String) : Bool :=
  pattern.raw == path || pattern.folded == path || pattern.regex.any (·.occursIn path)

/-- A pattern that is not a regular expression is worth a warning. -/
def events (pattern : Pattern) : List Event :=
  if pattern.regex.isSome then []
  else
    [{ level := .warn
       target := Event.middlewareTarget
       message := "pattern is not a valid regex, matching literally"
       fields := [("pattern", pattern.raw)] }]

end Pattern

end Switchboard
