import Switchboard.Recovery

/-!
# Scripts of guards and panics

Programs of nested guards, panics and swallowed panics on one thread, with notes of what was seen.
-/

namespace Switchboard

inductive PanicKind
  | text
  /-- With a text put together from a pattern. -/
  | formatted
  | resumed
  | other
deriving DecidableEq, Repr

inductive Step (α : Type)
  | note (text : String)
  | panic (kind : PanicKind) (text : String)
  /-- Runs the body inside a guard, for the value if it returns. -/
  | guarded (body : List (Step α)) (value : α)
  /-- Runs the body and swallows a panic. -/
  | swallowed (body : List (Step α))
deriving Inhabited

inductive Note (α : Type)
  | text (s : String)
  | returned (value : α)
  | crashed (crash : Crash)
  | swallowed (panicked : Bool)
deriving DecidableEq, Repr

namespace Script

abbrev State (α : Type) := World (List (Note α))

def note (n : Note α) : Action (State α) Unit :=
  Action.modify fun w => { w with host := w.host ++ [n] }

def raise (kind : PanicKind) (text : String) : Action (State α) Unit :=
  match kind with
  | .text => Action.panic (.text text)
  | .formatted => Action.panic (.text ("formatted " ++ text))
  | .resumed => Action.unwind (.text text)
  | .other => Action.panic .other

mutual

def runStep : Step α → Action (State α) Unit
  | .note text => note (.text text)
  | .panic kind text => raise kind text
  | .guarded body value => fun w =>
    match Action.guard (run body) w with
    | (.ok (), w) => note (.returned value) w
    | (.error crash, w) => note (.crashed crash) w
  | .swallowed body => do
    let panicked ← Action.swallow (run body)
    note (.swallowed panicked)

def run : List (Step α) → Action (State α) Unit
  | [] => Action.pure ()
  | step :: steps => Action.bind (runStep step) fun _ => run steps

end

def report (script : List (Step α)) : Except Crash Unit × State α :=
  Action.guard (run script) { host := [] }

end Script

end Switchboard
