/-!
# Shapes of expressions

What has to be remembered of an expression is little: whether a value can be assigned
to it, and whether it is a plain text.
-/

namespace SecretScan.Script

/-- The shape of an expression. -/
inductive Shape where
  | name
  /-- A part of something else, named or counted. -/
  | member
  /-- An expression between parentheses. -/
  | group (inner : Shape)
  /-- Expressions with commas between them. -/
  | tuple (items : List Shape)
  /-- Expressions between square brackets. -/
  | list (items : List Shape)
  /-- An expression behind a star. -/
  | starred (inner : Shape)
  /-- A text without fields, not of bytes. -/
  | text
  | other
deriving Repr

namespace Shape

/-- The expressions of a tuple. -/
def parts : Shape → List Shape
  | tuple items => items
  | _ => []

/-- Whether the expression is behind a star. -/
def isStarred : Shape → Bool
  | starred _ => true
  | _ => false

/-- Whether the expression is a plain text, perhaps between parentheses. -/
@[simp]
def isText : Shape → Bool
  | text => true
  | group inner => inner.isText
  | _ => false

/-- Whether a single value can be assigned to the expression. -/
@[simp]
def isSingleTarget : Shape → Bool
  | name => true
  | member => true
  | group inner => inner.isSingleTarget
  | _ => false

mutual

/-- Whether a value, or the items of a value, can be assigned to the expression. -/
@[simp]
def isTarget : Shape → Bool
  | name => true
  | member => true
  | group inner => inner.isTarget
  | tuple items => areTargets items
  | list items => areTargets items
  | _ => false

/-- Whether the items of a value can be assigned to the expressions, among which there
may be some behind a star. -/
@[simp]
def areTargets : List Shape → Bool
  | [] => true
  | starred inner :: rest => inner.isTarget && areTargets rest
  | s :: rest => s.isTarget && areTargets rest

end

/-- Whether the expression can stand before an equals sign. -/
@[simp]
def isAssignable : Shape → Bool
  | starred inner => inner.isTarget
  | s => s.isTarget

mutual

/-- Whether what the expression stands for can be deleted. -/
@[simp]
def isDeletable : Shape → Bool
  | name => true
  | member => true
  | group inner => inner.isDeletable
  | tuple items => areDeletable items
  | list items => areDeletable items
  | _ => false

/-- Whether what the expressions stand for can be deleted. -/
@[simp]
def areDeletable : List Shape → Bool
  | [] => true
  | s :: rest => s.isDeletable && areDeletable rest

end

end Shape

end SecretScan.Script
