import ExprLang.Expr

/-! The grammar over lists of tokens, as the relation between a phrase, the tokens
that spell it and its tree. It says nothing of reading order or lookahead. -/
namespace ExprLang

/-- The phrases of the grammar. The operands of level 1 are the comparisons, those of
level 2 the sums, those of level 3 the products, and those of level 4 the numbers, names
and elements; an operand of one level is an operand of each looser one. -/
inductive Phrase where
  | expression
  | target
  | operand (level : Nat)

/-- The operators that join two operands of a level. -/
def operatorsAt : Nat → List BinaryOperator
  | 1 => [.equal, .notEqual, .greater, .less, .greaterEqual, .lessEqual]
  | 2 => [.add, .sub]
  | 3 => [.mul]
  | _ => []

/-- Which tokens derive which tree as a phrase. -/
inductive Derives : Phrase → List Token → Expr → Prop where
  | name (name : String) : Derives .target [.identifier name] (.var name)
  | element (base subscript : List Token) (baseTree subscriptTree : Expr)
      (indexed : Derives .target base baseTree)
      (bracketed : Derives .expression subscript subscriptTree) :
      Derives .target (base ++ .leftBracket :: subscript ++ [.rightBracket])
        (.index baseTree subscriptTree)
  | number (value : Int64) : Derives (.operand 4) [.number value] (.literal value)
  | ofTarget (tokens : List Token) (tree : Expr) (derived : Derives .target tokens tree) :
      Derives (.operand 4) tokens tree
  | ofTighter (level : Nat) (tokens : List Token) (tree : Expr)
      (derived : Derives (.operand (level + 1)) tokens tree) :
      Derives (.operand level) tokens tree
  | binary (level : Nat) (op : BinaryOperator) (left right : List Token) (leftTree rightTree : Expr)
      (listed : op ∈ operatorsAt level)
      (before : Derives (.operand level) left leftTree)
      (behind : Derives (.operand (level + 1)) right rightTree) :
      Derives (.operand level) (left ++ .operator op :: right) (.binary op leftTree rightTree)
  | ofComparison (tokens : List Token) (tree : Expr) (derived : Derives (.operand 1) tokens tree) :
      Derives .expression tokens tree
  | assign (target value : List Token) (targetTree valueTree : Expr)
      (before : Derives .target target targetTree)
      (behind : Derives .expression value valueTree) :
      Derives .expression (target ++ .assign :: value) (.assign targetTree valueTree)

def Sentence (tokens : List Token) : Prop :=
  ∃ tree, Derives .expression tokens tree

def Viable (tokens : List Token) : Prop :=
  ∃ rest, Sentence (tokens ++ rest)

end ExprLang
