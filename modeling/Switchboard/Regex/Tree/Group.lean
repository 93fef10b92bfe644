import Switchboard.Regex.Tree.Blank
import Switchboard.Regex.Tree

/-!
# Openings of groups

What an opening bracket begins: a group, which may have a name or flags of its own, or flags for
what follows. Groups that look ahead or behind do not exist.
-/

namespace Switchboard.Regex.Group

inductive Opening
  | group (isCapturing : Bool) (change : FlagChange)
  | named (name : String)
  | flags (change : FlagChange)
deriving DecidableEq, Repr

def isAlphabetic (c : Char) : Bool :=
  CodePointSet.alphabetic.contains c.toNat

def isAlphanumeric (c : Char) : Bool :=
  isAlphabetic c || (Category.ofChar c).major == 'N'

def isName : List Char → Bool
  | [] => false
  | first :: rest =>
    (first == '_' || isAlphabetic first) &&
      rest.all fun c => c == '_' || c == '.' || c == '[' || c == ']' || isAlphanumeric c

def readName (cs : List Char) : Option (Opening × List Char) :=
  let name := cs.takeWhile (· != '>')
  match cs.dropWhile (· != '>') with
  | _ :: rest => if isName name then some (.named (String.ofList name), rest) else none
  | [] => none

def readFlags (cs : List Char) : Option (Opening × List Char) := do
  let isLetter (c : Char) := c != ':' && c != ')'
  let letters := cs.takeWhile isLetter
  let change ← FlagChange.ofChars? letters
  match cs.dropWhile isLetter with
  | ':' :: rest => some (.group false change, rest)
  | _ :: rest => if letters.isEmpty then none else some (.flags change, rest)
  | [] => none

def read (spaced : Bool) (cs : List Char) : Option (Opening × List Char) :=
  match skip spaced cs with
  | '?' :: '=' :: _ | '?' :: '!' :: _ | '?' :: '<' :: '=' :: _ | '?' :: '<' :: '!' :: _ => none
  | '?' :: 'P' :: '<' :: rest | '?' :: '<' :: rest => readName rest
  | '?' :: rest => readFlags rest
  | rest => some (.group true {}, rest)

end Switchboard.Regex.Group
