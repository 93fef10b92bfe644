import Switchboard.Regex.Tree.Class
import Switchboard.Regex.Tree.Group
import Switchboard.Regex.Tree.Repetition

/-!
# Reading regular expressions

A text is a regular expression if it can be read as a tree.
-/

namespace Switchboard.Regex.Tree

def readAtom (spaced : Bool) (c : Char) (rest : List Char) : Option (Atom × List Char) :=
  match c with
  | '\\' => Escape.read spaced rest
  | '.' => some (.dot, rest)
  | '^' => some (.assertion .lineStart, rest)
  | '$' => some (.assertion .lineEnd, rest)
  | c => some (.literal { char := c }, rest)

/-- What has been read of a group: its branches and the items of the last one, both in reverse, and
all names of groups so far. -/
structure Progress where
  branches : List Tree := []
  items : List Tree := []
  names : List String := []

namespace Progress

def push (progress : Progress) (item : Tree) : Progress :=
  { progress with items := item :: progress.items }

def branch (progress : Progress) : Progress :=
  { progress with branches := Tree.ofItems progress.items.reverse :: progress.branches, items := [] }

def tree (progress : Progress) : Tree :=
  Tree.ofBranches progress.branch.branches.reverse

end Progress

/-- Reads the contents of a group up to the bracket that closes it, or those of a whole pattern up
to its end. Every step takes at least one character, so that the text's length is fuel enough. -/
def read (isGroup : Bool) :
    Nat → Bool → Progress → List Char → Option (Tree × List String × List Char)
  | 0, _, _, _ => none
  | fuel + 1, spaced, progress, cs =>
    match skip spaced cs with
    | [] => if isGroup then none else some (progress.tree, progress.names, [])
    | c :: rest =>
      match c with
      | '(' => do
        let (opening, rest) ← Group.read spaced rest
        match opening with
        | .flags change =>
          read isGroup fuel (change.apply .spaced spaced) (progress.push (.flags change)) rest
        | .group isCapturing change =>
          let inner := change.apply .spaced spaced
          let (body, names, rest) ← read true fuel inner { names := progress.names } rest
          read isGroup fuel spaced
            ({ progress with names }.push (.group isCapturing change body)) rest
        | .named name =>
          if progress.names.contains name then none
          else
            let (body, names, rest) ← read true fuel spaced { names := name :: progress.names } rest
            read isGroup fuel spaced ({ progress with names }.push (.group true {} body)) rest
      | ')' => if isGroup then some (progress.tree, progress.names, rest) else none
      | '|' => read isGroup fuel spaced progress.branch rest
      | '[' => do
        let (tree, rest) ← Class.read spaced rest
        read isGroup fuel spaced (progress.push tree) rest
      | '?' | '*' | '+' | '\x7b' => do
        let (least, most, rest) ← Repetition.read spaced c rest
        let items ← Repetition.repeatLast? least most progress.items
        read isGroup fuel spaced { progress with items } rest
      | c => do
        let (single, rest) ← readAtom spaced c rest
        read isGroup fuel spaced (progress.push (.atom single)) rest

def ofString? (text : String) : Option Tree :=
  (read false (text.length + 1) false {} text.toList).map (·.1)

end Switchboard.Regex.Tree
