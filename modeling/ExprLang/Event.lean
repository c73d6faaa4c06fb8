import ExprLang.Error
import ExprLang.Expr

/-! What a parse reports while it runs: each token it reads, each node it builds,
and the finished tree. -/
namespace ExprLang

inductive EventLevel where
  | trace
  | debug

def EventLevel.name : EventLevel → String
  | .trace => "TRACE"
  | .debug => "DEBUG"

/-- One step of a parse. A node is reported at its operator, an element at its
bracket, an assignment at the first token of its target. -/
inductive Event where
  | lexed (item : Spanned)
  | rejected (fault : LexError)
  | reducedBinary (op : BinaryOperator) (position : Position)
  | reducedIndex (position : Position)
  | reducedAssignment (target : Expr) (position : Position)
  | parsed (tree : Expr)

namespace Event

def level : Event → EventLevel
  | .parsed _ => .debug
  | _ => .trace

def message : Event → String
  | .lexed item => "lexed " ++ item.token.describe ++ " at " ++ item.position.render
  | .rejected fault =>
    "lexer rejected " ++ Text.quotedText fault.slice ++ " at " ++ fault.position.render
  | .reducedBinary op position => "reduce " ++ op.symbol ++ " at " ++ position.render
  | .reducedIndex position => "reduce index at " ++ position.render
  | .reducedAssignment target position =>
    "reduce assignment to " ++ target.render ++ " at " ++ position.render
  | .parsed tree => "parsed " ++ tree.render

def line (event : Event) : String :=
  event.level.name ++ " " ++ event.message

end Event

end ExprLang
