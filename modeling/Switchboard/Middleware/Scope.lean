import Switchboard.Middleware.Pattern

/-!
# Scopes

The paths that a middleware applies to: all of them if there are no patterns, and otherwise those
that an included pattern selects and no excluded one.
-/

namespace Switchboard

/-- The patterns of a scope as they are written. -/
structure Scope where
  included : List String := []
  excluded : List String := []
deriving DecidableEq, Repr

namespace Scope

def all : Scope := {}

def including (patterns : List String) : Scope :=
  { included := patterns }

def except (scope : Scope) (patterns : List String) : Scope :=
  { scope with excluded := scope.excluded ++ patterns }

def isAll (scope : Scope) : Bool :=
  scope.included.isEmpty && scope.excluded.isEmpty

end Scope

structure CompiledScope where
  included : List Pattern
  excluded : List Pattern

namespace CompiledScope

def ofScope (naming : Naming) (scope : Scope) : CompiledScope where
  included := scope.included.map (Pattern.compile naming)
  excluded := scope.excluded.map (Pattern.compile naming)

def appliesTo (scope : CompiledScope) (path : String) : Bool :=
  if scope.included.isEmpty && scope.excluded.isEmpty then true
  else
    scope.included.any (·.selects path) && !scope.excluded.any (·.selects path)

def events (scope : CompiledScope) : List Event :=
  (scope.included ++ scope.excluded).flatMap Pattern.events

end CompiledScope

end Switchboard
