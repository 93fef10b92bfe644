import Switchboard.Plan

/-!
# The notebook

The state that the samples share: notes of what ran, and a counter.
-/

namespace Switchboard.Samples

structure Notebook where
  notes : List String := []
  counter : Nat := 0
deriving DecidableEq, Repr

namespace Notebook

def note (text : String) : Action (World Notebook) Unit :=
  Action.modify fun w => { w with host.notes := w.host.notes ++ [text] }

def bump (amount : Nat) : Action (World Notebook) Nat := do
  Action.modify fun w => { w with host.counter := w.host.counter + amount }
  let w ← Action.get
  return w.host.counter

end Notebook

def truthText (flag : Bool) : String :=
  if flag then "true" else "false"

def tagKind : String := "Tag"

def numKind : String := "Num"

def userKind : String := "User"

def textOf? (context : Context) (kind : String) : Option String :=
  match context.get? kind with
  | some (.string text) => some text
  | _ => none

def numberOf? (context : Context) (kind : String) : Option Int :=
  match context.get? kind with
  | some (.whole n) => some n.val
  | _ => none

end Switchboard.Samples
