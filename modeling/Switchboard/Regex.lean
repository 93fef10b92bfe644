import Switchboard.Regex.Matching
import Switchboard.Regex.Size
import Switchboard.Regex.Tree.Reader

/-!
# Regular expressions

A text is a regular expression if it can be read, is not nested too deep, has a meaning, and is not
too big. It matches a text if some part of the text, which may be empty, is one that it describes.
-/

namespace Switchboard

structure Regex where
  expr : Regex.Expr

namespace Regex

def depthLimit : Nat := 250

/-- How many bytes the automaton of a regular expression may take. -/
def sizeLimit : Nat := 10 * 1024 * 1024

def compile (pattern : String) : Option Regex := do
  let tree ← Tree.ofString? pattern
  if tree.depth > depthLimit then none
  else
    let (expr, _) ← Expr.ofTree? {} tree
    if expr.size > sizeLimit then none else some { expr }

def occursIn (regex : Regex) (text : String) : Bool :=
  let start := List.replicate (text.length + 1) true
  (regex.expr.ends text.toList start).any id

end Regex

end Switchboard
