/-!
# Runs of code points

A run is an arithmetic progression of code points; character classes are lists of runs.
-/

namespace Switchboard

/-- The code points `first`, `first + step`, …, `last`. -/
structure CodePointRun where
  first : Nat
  last : Nat
  step : Nat
deriving DecidableEq, Repr

namespace CodePointRun

def covers (run : CodePointRun) (c : Nat) : Bool :=
  run.first ≤ c && c ≤ run.last && (c - run.first) % run.step == 0

end CodePointRun

end Switchboard
