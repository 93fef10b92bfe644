import Switchboard.Regex.Expr

/-!
# Matching

An expression takes the positions of a text where a match of it may begin to those where one then
ends. Positions are marked in a list that has one mark before each character and one at the end.
-/

namespace Switchboard.Regex

abbrev Marks := List Bool

namespace Marks

def union (a b : Marks) : Marks :=
  List.zipWith or a b

def advance (set : CodePointSet) (text : List Char) (marks : Marks) : Marks :=
  false :: List.zipWith (fun mark c => mark && set.contains c.toNat) marks text

def satisfying (look : Look) (before : Option Char) : List Char → Marks → Marks
  | _, [] => []
  | [], mark :: _ => [mark && look.holds before none]
  | c :: text, mark :: marks =>
    (mark && look.holds before (some c)) :: satisfying look (some c) text marks

def exactly (step : Marks → Marks) : Nat → Marks → Marks
  | 0, marks => marks
  | n + 1, marks => if marks.any id then exactly step n (step marks) else marks

def upTo (step : Marks → Marks) : Nat → Marks → Marks
  | 0, marks => marks
  | n + 1, marks =>
    let reached := marks.union (step marks)
    if reached == marks then marks else upTo step n reached

end Marks

namespace Expr

mutual

/-- Where matches end that begin at marked positions. A repetition without an upper limit needs no
more steps than there are positions to reach. -/
def ends (text : List Char) : Expr → Marks → Marks
  | empty, marks => marks
  | set members, marks => marks.advance members text
  | look condition, marks => Marks.satisfying condition none text marks
  | capture body, marks => body.ends text marks
  | alternation branches, marks => endsOfAny text branches marks
  | concat items, marks => endsOfAll text items marks
  | repetition least most body, marks =>
    let steps := match most with
      | none => text.length
      | some most => most - least
    Marks.upTo (body.ends text) steps (Marks.exactly (body.ends text) least marks)

def endsOfAny (text : List Char) : List Expr → Marks → Marks
  | [], marks => marks.map fun _ => false
  | branch :: branches, marks => (branch.ends text marks).union (endsOfAny text branches marks)

def endsOfAll (text : List Char) : List Expr → Marks → Marks
  | [], marks => marks
  | item :: items, marks => endsOfAll text items (item.ends text marks)

end

end Expr

end Switchboard.Regex
