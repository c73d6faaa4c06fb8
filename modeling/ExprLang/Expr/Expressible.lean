import ExprLang.Expr
import ExprLang.Lexer

/-! Which trees have a source form. There are no parentheses and no negative
numbers to write, and only names can be indexed, so some trees cannot be written
down; the others come back when their printed form is read. -/
namespace ExprLang

/-- Whether a text reads as one identifier and nothing else. -/
def isIdentifier (text : String) : Bool :=
  let (first, lexer) := (Lexer.ofString text).next
  match first, lexer.next.1 with
  | some (.ok ⟨.identifier name, _⟩), some (.ok ⟨.endOfInput, _⟩) => name == text
  | _, _ => false

namespace Expr

/-- Whether the tree can be written as an operand that must bind at least as tightly
as `level`. Operators associate to the left, so a right operand binds tighter than
its operator. -/
def fits (tree : Expr) (level : Nat) : Bool :=
  decide (level ≤ tree.precedence) &&
    match tree with
    | .literal value => decide (0 ≤ value)
    | .var name => isIdentifier name
    | .assign target value =>
      target.isLvalue && target.fits Precedence.primary && value.fits Precedence.assignment
    | .binary op left right => left.fits op.precedence && right.fits (op.precedence + 1)
    | .index base subscript =>
      base.isLvalue && base.fits Precedence.primary && subscript.fits Precedence.assignment

def isExpressible (tree : Expr) : Bool :=
  tree.fits Precedence.assignment

end Expr

end ExprLang
