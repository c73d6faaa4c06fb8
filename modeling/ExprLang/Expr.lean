import ExprLang.Token

/-! Expression trees: their printed form, their tokens from left to right, and
their height. -/
namespace ExprLang

/-- An expression. Trees carry no places, so equal trees have the same shape. -/
inductive Expr where
  | literal (value : Int64)
  | var (name : String)
  | assign (target value : Expr)
  | binary (op : BinaryOperator) (left right : Expr)
  | index (base subscript : Expr)
  deriving DecidableEq

namespace Expr

def isLvalue : Expr → Bool
  | .var _ | .index _ _ => true
  | _ => false

def precedence : Expr → Nat
  | .assign _ _ => Precedence.assignment
  | .binary op _ _ => op.precedence
  | .literal _ | .var _ | .index _ _ => Precedence.primary

/-- The number of levels: one for a leaf, and one more than the taller child for any
other tree. -/
def height : Expr → Nat
  | .literal _ | .var _ => 1
  | .assign target value => max target.height value.height + 1
  | .binary _ left right => max left.height right.height + 1
  | .index base subscript => max base.height subscript.height + 1

/-- The source form, with one space on each side of an operator and none in brackets.
The language has no parentheses, so none are written. -/
def render : Expr → String
  | .literal value => toString value.toInt
  | .var name => name
  | .assign target value => target.render ++ " = " ++ value.render
  | .binary op left right => left.render ++ " " ++ op.symbol ++ " " ++ right.render
  | .index base subscript => base.render ++ "[" ++ subscript.render ++ "]"

def tokens : Expr → List Token
  | .literal value => [.number value]
  | .var name => [.identifier name]
  | .assign target value => target.tokens ++ .assign :: value.tokens
  | .binary op left right => left.tokens ++ .operator op :: right.tokens
  | .index base subscript => base.tokens ++ .leftBracket :: subscript.tokens ++ [.rightBracket]

end Expr

end ExprLang
