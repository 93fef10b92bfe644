import Switchboard.Text.LetterCaseTable

/-!
# Letter case

Upper- and lower-case characters and the full, context-free lower-case mapping.
-/

namespace Switchboard.LetterCase

def isUpper (c : Char) : Bool :=
  upperRuns.any (·.covers c.toNat)

def isLower (c : Char) : Bool :=
  lowerRuns.any (·.covers c.toNat)

/-- The lower-case form of a character, which is itself when it has none. Only the capital I with
a dot above has two characters in its lower-case form. -/
def toLower (c : Char) : List Char :=
  if c.toNat = 0x130 then ['i', Char.ofNat 0x307]
  else match loweringRuns.find? (·.1.covers c.toNat) with
    | some (run, image) => [Char.ofNat (image + (c.toNat - run.first))]
    | none => [c]

end Switchboard.LetterCase
