/-! The binary operators, and how tightly each construct of the language binds. -/
namespace ExprLang

inductive BinaryOperator where
  | equal
  | notEqual
  | greater
  | less
  | greaterEqual
  | lessEqual
  | add
  | sub
  | mul
  deriving DecidableEq

/-! Binding strengths, loosest first. -/
namespace Precedence

abbrev assignment : Nat := 0

abbrev comparison : Nat := 1

abbrev additive : Nat := 2

abbrev multiplicative : Nat := 3

abbrev primary : Nat := 4

end Precedence

namespace BinaryOperator

def all : List BinaryOperator :=
  [.equal, .notEqual, .greater, .less, .greaterEqual, .lessEqual, .add, .sub, .mul]

def precedence : BinaryOperator → Nat
  | .equal | .notEqual | .greater | .less | .greaterEqual | .lessEqual => Precedence.comparison
  | .add | .sub => Precedence.additive
  | .mul => Precedence.multiplicative

def isComparison (op : BinaryOperator) : Bool :=
  op.precedence == Precedence.comparison

def symbol : BinaryOperator → String
  | .equal => "=="
  | .notEqual => "!="
  | .greater => ">"
  | .less => "<"
  | .greaterEqual => ">="
  | .lessEqual => "<="
  | .add => "+"
  | .sub => "-"
  | .mul => "*"

def ofSymbol? (text : String) : Option BinaryOperator :=
  all.find? (fun op => op.symbol == text)

end BinaryOperator

end ExprLang
