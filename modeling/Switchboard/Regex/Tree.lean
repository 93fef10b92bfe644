import Switchboard.Text.CodePointSet

/-!
# Syntax trees of regular expressions

A regular expression as it is written: characters, classes, assertions, groups with their flags,
and the operators between them.
-/

namespace Switchboard.Regex

inductive Flag
  | ignoreCase
  | multiLine
  | dotAll
  | swapGreed
  | unicode
  | carriageReturns
  | spaced
deriving DecidableEq, Repr

namespace Flag

def ofChar? : Char → Option Flag
  | 'i' => some ignoreCase
  | 'm' => some multiLine
  | 's' => some dotAll
  | 'U' => some swapGreed
  | 'u' => some unicode
  | 'R' => some carriageReturns
  | 'x' => some spaced
  | _ => none

end Flag

structure FlagChange where
  on : List Flag := []
  off : List Flag := []
deriving DecidableEq, Repr

namespace FlagChange

def apply (change : FlagChange) (flag : Flag) (current : Bool) : Bool :=
  change.on.contains flag || (current && !change.off.contains flag)

/-- Reads the letters of flags: those after a hyphen are turned off, and none comes twice. -/
def ofChars? (letters : List Char) : Option FlagChange := do
  let on ← (letters.takeWhile (· != '-')).mapM Flag.ofChar?
  let off ← match letters.dropWhile (· != '-') with
    | [] => some []
    | [_] => none
    | _ :: letters => letters.mapM Flag.ofChar?
  if (on ++ off).Nodup then some { on, off } else none

end FlagChange

inductive WordEdge
  | boundary
  | interior
  | start
  | finish
  | startHalf
  | finishHalf
deriving DecidableEq, Repr

inductive Assertion
  | lineStart
  | lineEnd
  | textStart
  | textEnd
  | word (edge : WordEdge)
deriving DecidableEq, Repr

/-- A character that stands for itself. One that is written by two hexadecimal digits may mean a
byte. -/
structure Literal where
  char : Char
  isByte : Bool := false
deriving DecidableEq, Repr

inductive Shorthand
  | digit
  | space
  | word
deriving DecidableEq, Repr

/-- What matches at most one character and is written without brackets. -/
inductive Atom
  | literal (literal : Literal)
  | dot
  | assertion (assertion : Assertion)
  | shorthand (shorthand : Shorthand) (negated : Bool)
  | property (members : CodePointSet) (negated : Bool)
deriving DecidableEq, Repr

inductive SetOperator
  | inter
  | diff
  | symmDiff
deriving DecidableEq, Repr

inductive ClassTree
  | literal (literal : Literal)
  | range (first last : Literal)
  | ascii (members : CodePointSet) (negated : Bool)
  | shorthand (shorthand : Shorthand) (negated : Bool)
  | property (members : CodePointSet) (negated : Bool)
  | bracketed (negated : Bool) (body : ClassTree)
  | union (items : List ClassTree)
  | operation (operator : SetOperator) (left right : ClassTree)

inductive Tree
  | empty
  | flags (change : FlagChange)
  | atom (atom : Atom)
  | bracketed (negated : Bool) (body : ClassTree)
  | repetition (least : Nat) (most : Option Nat) (body : Tree)
  | group (isCapturing : Bool) (change : FlagChange) (body : Tree)
  | alternation (branches : List Tree)
  | concat (items : List Tree)

namespace ClassTree

def ofItems : List ClassTree → ClassTree
  | [item] => item
  | items => union items

mutual

def depth : ClassTree → Nat
  | bracketed _ body => body.depth + 1
  | union items => depthOfAll items
  | operation _ left right => max left.depth right.depth + 1
  | _ => 0

/-- The depth of a union, which is a level of its own unless it is empty. -/
def depthOfAll : List ClassTree → Nat
  | [] => 0
  | item :: items => max (item.depth + 1) (depthOfAll items)

end

end ClassTree

namespace Tree

def ofItems : List Tree → Tree
  | [] => empty
  | [item] => item
  | items => concat items

def ofBranches : List Tree → Tree
  | [branch] => branch
  | branches => alternation branches

mutual

def depth : Tree → Nat
  | bracketed _ body => body.depth + 1
  | repetition _ _ body => body.depth + 1
  | group _ _ body => body.depth + 1
  | alternation branches => depthOfAll branches + 1
  | concat items => depthOfAll items + 1
  | _ => 0

def depthOfAll : List Tree → Nat
  | [] => 0
  | tree :: trees => max tree.depth (depthOfAll trees)

end

end Tree

end Switchboard.Regex
