import Switchboard.Regex.Tree
import Switchboard.Regex.Tree.Blank

/-!
# Repetitions

How often an item may occur: by a sign, or by counts in braces.
-/

namespace Switchboard.Regex.Repetition

/-- Reads a count, which is less than 2³² and may have blanks around it. -/
def readCount (spaced : Bool) (cs : List Char) : Option (Nat × List Char) :=
  let (digits, rest) := span spaced Char.isDigit (cs.dropWhile isBlank)
  let value := digits.foldl (fun value c => 10 * value + (c.toNat - '0'.toNat)) 0
  if digits.isEmpty || value ≥ 1 <<< 32 then none
  else some (value, skip spaced (rest.dropWhile isBlank))

def skipLazy : List Char → List Char
  | '?' :: rest => rest
  | rest => rest

def readEnd (spaced : Bool) : List Char → Option (List Char)
  | '\x7d' :: rest => some (skipLazy (skip spaced rest))
  | _ => none

def readCounts (spaced : Bool) (cs : List Char) : Option (Nat × Option Nat × List Char) := do
  let (least, rest) ← readCount spaced (skip spaced cs)
  match rest with
  | ',' :: rest =>
    match skip spaced rest with
    | '\x7d' :: rest => some (least, none, ← readEnd spaced ('\x7d' :: rest))
    | rest =>
      let (most, rest) ← readCount spaced rest
      if least ≤ most then some (least, some most, ← readEnd spaced rest) else none
  | rest => some (least, some least, ← readEnd spaced rest)

def read (spaced : Bool) (sign : Char) (cs : List Char) : Option (Nat × Option Nat × List Char) :=
  match sign with
  | '?' => some (0, some 1, skipLazy cs)
  | '*' => some (0, none, skipLazy cs)
  | '+' => some (1, none, skipLazy cs)
  | _ => readCounts spaced cs

/-- What a repetition applies to: the last item, unless that is only flags. The items are in
reverse. -/
def repeatLast? (least : Nat) (most : Option Nat) : List Tree → Option (List Tree)
  | [] => none
  | .flags _ :: _ => none
  | item :: items => some (.repetition least most item :: items)

end Switchboard.Regex.Repetition
