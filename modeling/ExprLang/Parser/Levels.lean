import ExprLang.TokenStream

/-! The parser, one function for each level of the grammar. A level is first given
for any way to `finish` a tree and any way `inner` of reading the expressions in
brackets and to the right of `=`, then for the parser itself, which settles trees. -/
namespace ExprLang.Parser

structure Growing where
  tree : Expr
  height : Nat

/-- Grows a tree until `step` adds nothing more. Each step adds a level, so as many
rounds as there are levels are enough. -/
def grow (step : Growing → Parser (Option Growing)) : Nat → Growing → Parser Expr
  | 0, node => return node.tree
  | rounds + 1, node => do
    match ← step node with
    | some taller => grow step rounds taller
    | none => return node.tree

def chain (step : Growing → Parser (Option Growing)) (first : Expr) : Parser Expr := do
  let stream ← get
  grow step stream.limit ⟨first, stream.height⟩

section
variable (finish : Nat → Position → Parser Unit) (inner : Parser Expr)

def indexStep (base : Growing) : Parser (Option Growing) := do
  match ← eat .leftBracket with
  | none => return none
  | some bracket =>
    let subscript ← nested inner
    let _ ← expect .rightBracket
    let height := max base.height (← get).height + 1
    finish height bracket.position
    record (.reducedIndex bracket.position)
    return some ⟨.index base.tree subscript, height⟩

def primaryWith : Parser Expr := do
  let first ← advance
  match first.token with
  | .number value =>
    finish 1 first.position
    return .literal value
  | .identifier name =>
    finish 1 first.position
    chain (indexStep finish inner) (.var name)
  | _ => throw (unexpected first [.identifier, .number])

def operatorStep (precedence : Nat) (operand : Parser Expr) (left : Growing) :
    Parser (Option Growing) := do
  let next ← peek
  match next.token with
  | .operator op =>
    if op.precedence = precedence then
      let _ ← advance
      let right ← operand
      let height := max left.height (← get).height + 1
      finish height next.position
      record (.reducedBinary op next.position)
      return some ⟨.binary op left.tree right, height⟩
    else
      return none
  | _ => return none

def leftAssociative (precedence : Nat) (operand : Parser Expr) : Parser Expr := do
  let first ← operand
  chain (operatorStep finish precedence operand) first

def multiplicativeWith : Parser Expr :=
  leftAssociative finish Precedence.multiplicative (primaryWith finish inner)

def additiveWith : Parser Expr :=
  leftAssociative finish Precedence.additive (multiplicativeWith finish inner)

def comparisonWith : Parser Expr :=
  leftAssociative finish Precedence.comparison (additiveWith finish inner)

/-- A comparison, or an assignment to one that can be assigned to. The target is
checked before its value is read. -/
def expressionWith : Parser Expr := do
  let start := (← peek).position
  let target ← comparisonWith finish inner
  match ← eat .assign with
  | none => return target
  | some equal =>
    if target.isLvalue then
      let targetHeight := (← get).height
      let value ← nested inner
      finish (max targetHeight (← get).height + 1) equal.position
      record (.reducedAssignment target start)
      return .assign target value
    else
      throw (.parse (.invalidAssignmentTarget start))

end

/-- An expression in which at most `levels` expressions are open at once, itself
included; `exhausted` answers for one that would be nested deeper. -/
def expressionWithin (exhausted : Parser Expr) : Nat → Parser Expr
  | 0, stream => exhausted stream
  | levels + 1, stream => expressionWith settle (expressionWithin exhausted levels) stream

def tooDeep : Parser Expr := fun stream =>
  .error (.parse (.nestingTooDeep stream.limit stream.lexer.position)) stream

/-- An expression inside another one. A tree has been settled on every level above
it, so the limit leaves no more than `limit` levels for expressions in expressions. -/
def nestedExpression : Parser Expr := fun stream =>
  expressionWithin tooDeep stream.limit stream

def primary : Parser Expr :=
  primaryWith settle nestedExpression

def multiplicative : Parser Expr :=
  multiplicativeWith settle nestedExpression

def additive : Parser Expr :=
  additiveWith settle nestedExpression

def comparison : Parser Expr :=
  comparisonWith settle nestedExpression

def expression : Parser Expr :=
  expressionWith settle nestedExpression

def sentenceBy (whole : Parser Expr) : Parser Expr := do
  let tree ← whole
  let last ← advance
  if last.token.isEnd then
    record (.parsed tree)
    return tree
  else
    throw (.parse (.unexpectedToken [.endOfInput] last.token last.position))

def sentence : Parser Expr :=
  sentenceBy expression

end ExprLang.Parser
