import ExprLang.Expr.Expressible
import ExprLang.Parser.Levels

/-! Reading a source text as one expression. -/
namespace ExprLang

structure Parse where
  result : Except Error Expr
  log : List Event

def Parse.run (source : String) (options : Options) : Parse :=
  match Parser.sentence (.ofString source options) with
  | .ok tree stream => ⟨.ok tree, stream.log.toList⟩
  | .error fault stream => ⟨.error fault, stream.log.toList⟩

/-- The expression that a text is, or the first thing wrong with it. -/
def parseWith (source : String) (options : Options) : Except Error Expr :=
  (Parse.run source options).result

def parse (source : String) : Except Error Expr :=
  parseWith source .standard

/-- Whether the printed form of a tree reads as that tree, or the error that keeps it
from being read. -/
def Expr.roundTrips (tree : Expr) (options : Options) : Except Error Bool :=
  (parseWith tree.render options).map (fun reread => decide (reread = tree))

end ExprLang
