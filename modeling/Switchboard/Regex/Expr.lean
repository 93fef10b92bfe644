import Switchboard.Regex.Tree.Class
import Switchboard.Text.CaseFold

/-!
# Meaning of regular expressions

A regular expression whose flags have been worked into its parts: sets of characters, conditions on
positions, and the operators between them. A tree has no meaning if under its flags it could match
a part of a character.
-/

namespace Switchboard.Regex

inductive Look
  | textStart
  | textEnd
  | lineStart (carriageReturns : Bool)
  | lineEnd (carriageReturns : Bool)
  | word (edge : WordEdge) (members : CodePointSet)
deriving DecidableEq, Repr

namespace Look

def lineStartsAt (carriageReturns : Bool) (before after : Option Char) : Bool :=
  match before with
  | none => true
  | some '\n' => true
  | some '\r' => carriageReturns && after != some '\n'
  | _ => false

def lineEndsAt (carriageReturns : Bool) (before after : Option Char) : Bool :=
  match after with
  | none => true
  | some '\r' => carriageReturns
  | some '\n' => !carriageReturns || before != some '\r'
  | _ => false

def holds (look : Look) (before after : Option Char) : Bool :=
  match look with
  | textStart => before.isNone
  | textEnd => after.isNone
  | lineStart carriageReturns => lineStartsAt carriageReturns before after
  | lineEnd carriageReturns => lineEndsAt carriageReturns before after
  | word edge members =>
    let left := before.any fun c => members.contains c.toNat
    let right := after.any fun c => members.contains c.toNat
    match edge with
    | .boundary => left != right
    | .interior => left == right
    | .start => !left && right
    | .finish => left && !right
    | .startHalf => !left
    | .finishHalf => !right

end Look

inductive Expr
  | empty
  | set (members : CodePointSet)
  | look (look : Look)
  | repetition (least : Nat) (most : Option Nat) (body : Expr)
  | capture (body : Expr)
  | alternation (branches : List Expr)
  | concat (items : List Expr)

structure Mode where
  ignoreCase : Bool := false
  multiLine : Bool := false
  dotAll : Bool := false
  unicode : Bool := true
  carriageReturns : Bool := false
deriving DecidableEq, Repr

namespace Mode

def apply (mode : Mode) (change : FlagChange) : Mode where
  ignoreCase := change.apply .ignoreCase mode.ignoreCase
  multiLine := change.apply .multiLine mode.multiLine
  dotAll := change.apply .dotAll mode.dotAll
  unicode := change.apply .unicode mode.unicode
  carriageReturns := change.apply .carriageReturns mode.carriageReturns

def fold (mode : Mode) (set : CodePointSet) : CodePointSet :=
  if !mode.ignoreCase then set
  else if mode.unicode then CaseFold.close set
  else CaseFold.closeAscii set

/-- What a negated class leaves. Without Unicode that would include parts of characters. -/
def negate? (mode : Mode) (negated : Bool) (set : CodePointSet) : Option CodePointSet :=
  if !negated then some set
  else if mode.unicode then some set.complement
  else none

def literal? (mode : Mode) (literal : Literal) : Option CodePointSet :=
  if !mode.unicode && literal.isByte && literal.char.toNat ≥ 0x80 then none
  else some (mode.fold (.singleton literal.char.toNat))

def member? (mode : Mode) (literal : Literal) : Option Nat :=
  let c := literal.char.toNat
  if mode.unicode || c < 0x80 then some c else none

def wordCharacters (mode : Mode) : CodePointSet :=
  if mode.unicode then .wordCharacters else Class.word

def shorthand? (mode : Mode) (shorthand : Shorthand) (negated : Bool) : Option CodePointSet :=
  mode.negate? negated <|
    match shorthand with
    | .digit => if mode.unicode then .digits else Class.digit
    | .space => if mode.unicode then .whitespace else Class.space
    | .word => mode.wordCharacters

def property? (mode : Mode) (members : CodePointSet) (negated : Bool) : Option CodePointSet :=
  if mode.unicode then mode.negate? negated (mode.fold members) else none

def dot? (mode : Mode) : Option CodePointSet :=
  if !mode.unicode then none
  else if mode.dotAll then some .all
  else if mode.carriageReturns then some (CodePointSet.complement (.ofChars "\r\n"))
  else some (CodePointSet.complement (.ofChars "\n"))

def look (mode : Mode) : Assertion → Look
  | .textStart => .textStart
  | .textEnd => .textEnd
  | .lineStart => if mode.multiLine then .lineStart mode.carriageReturns else .textStart
  | .lineEnd => if mode.multiLine then .lineEnd mode.carriageReturns else .textEnd
  | .word edge => .word edge mode.wordCharacters

def operate (operator : SetOperator) (left right : CodePointSet) : CodePointSet :=
  match operator with
  | .inter => left.inter right
  | .diff => left.diff right
  | .symmDiff => left.symmDiff right

mutual

/-- The members of a class. Variants in the other case are added before anything is taken away. -/
def members? (mode : Mode) : ClassTree → Option CodePointSet
  | .literal literal => (mode.member? literal).map .singleton
  | .range first last => do some ⟨[(← mode.member? first, ← mode.member? last)]⟩
  | .ascii members negated => mode.negate? negated (mode.fold members)
  | .shorthand shorthand negated => mode.shorthand? shorthand negated
  | .property members negated => mode.property? members negated
  | .bracketed negated body => do mode.negate? negated (mode.fold (← mode.members? body))
  | .union items => mode.unionMembers? items
  | .operation operator left right => do
    some (operate operator (mode.fold (← mode.members? left)) (mode.fold (← mode.members? right)))

def unionMembers? (mode : Mode) : List ClassTree → Option CodePointSet
  | [] => some .empty
  | item :: items => do
    some ((← mode.members? item).union (← mode.unionMembers? items))

end

def atom? (mode : Mode) : Atom → Option Expr
  | .literal literal => (mode.literal? literal).map .set
  | .dot => mode.dot?.map .set
  | .assertion assertion => some (.look (mode.look assertion))
  | .shorthand shorthand negated => (mode.shorthand? shorthand negated).map .set
  | .property members negated => (mode.property? members negated).map .set

end Mode

namespace Expr

mutual

/-- Whether an expression can match nothing but the empty text. -/
def isWidthless : Expr → Bool
  | empty => true
  | set _ => false
  | look _ => true
  | repetition _ _ body => body.isWidthless
  | capture body => body.isWidthless
  | alternation branches => areWidthless branches
  | concat items => areWidthless items

def areWidthless : List Expr → Bool
  | [] => true
  | expr :: exprs => expr.isWidthless && areWidthless exprs

end

/-- A repetition. Once is as good as many times for what matches the empty text only. -/
def repeated (least : Nat) (most : Option Nat) (body : Expr) : Expr :=
  let (least, most) :=
    if body.isWidthless then (min least 1, some (min (most.getD 1) 1)) else (least, most)
  if most = some 0 then empty
  else if least = 1 ∧ most = some 1 then body
  else repetition least most body

mutual

def ofTree? (mode : Mode) : Tree → Option (Expr × Mode)
  | .empty => some (.empty, mode)
  | .flags change => some (.empty, mode.apply change)
  | .atom atom => (mode.atom? atom).map (·, mode)
  | .bracketed negated body => do
    some (.set (← mode.negate? negated (mode.fold (← mode.members? body))), mode)
  | .repetition least most body => do
    let (body, mode) ← ofTree? mode body
    some (repeated least most body, mode)
  | .group isCapturing change body => do
    let (body, _) ← ofTree? (mode.apply change) body
    some (if isCapturing then .capture body else body, mode)
  | .alternation branches => do
    let (branches, mode) ← ofTrees? mode branches
    some (.alternation branches, mode)
  | .concat items => do
    let (items, mode) ← ofTrees? mode items
    some (.concat items, mode)

def ofTrees? (mode : Mode) : List Tree → Option (List Expr × Mode)
  | [] => some ([], mode)
  | tree :: trees => do
    let (expr, mode) ← ofTree? mode tree
    let (exprs, mode) ← ofTrees? mode trees
    some (expr :: exprs, mode)

end

end Expr

end Switchboard.Regex
