import ExprLang.Text.Escape
import ExprLang.Token

/-! What can be wrong with a source text. Each error is a cause and a place; its
message says both. -/
namespace ExprLang

inductive LexError where
  | unexpectedCharacter (character : Char) (position : Position)
  | numericOverflow (literal : String) (position : Position)
  deriving DecidableEq

inductive ParseError where
  | unexpectedToken (expected : List TokenKind) (found : Token) (position : Position)
  | unexpectedEndOfInput (position : Position)
  | invalidAssignmentTarget (position : Position)
  | nestingTooDeep (limit : Nat) (position : Position)
  deriving DecidableEq

inductive Error where
  | lex (fault : LexError)
  | parse (fault : ParseError)
  deriving DecidableEq

namespace LexError

def position : LexError → Position
  | .unexpectedCharacter _ position | .numericOverflow _ position => position

def slice : LexError → String
  | .unexpectedCharacter character _ => character.toString
  | .numericOverflow literal _ => literal

def cause : LexError → String
  | .unexpectedCharacter character _ => "unexpected character " ++ Text.quotedChar character
  | .numericOverflow literal _ => "integer literal " ++ literal ++ " does not fit in 64 bits"

end LexError

namespace ParseError

def position : ParseError → Position
  | .unexpectedToken _ _ position | .unexpectedEndOfInput position
  | .invalidAssignmentTarget position | .nestingTooDeep _ position => position

def alternatives : List TokenKind → String
  | [] => "nothing"
  | [kind] => kind.describe
  | [first, last] => first.describe ++ " or " ++ last.describe
  | first :: kinds => first.describe ++ ", " ++ alternatives kinds

def cause : ParseError → String
  | .unexpectedToken expected found _ =>
    "expected " ++ alternatives expected ++ ", found " ++ found.describe
  | .unexpectedEndOfInput _ => "unexpected end of input"
  | .invalidAssignmentTarget _ =>
    "invalid assignment target, expected a variable or an index expression"
  | .nestingTooDeep limit _ => "expression nesting exceeds the limit of " ++ toString limit

end ParseError

namespace Error

def position : Error → Position
  | .lex fault => fault.position
  | .parse fault => fault.position

def cause : Error → String
  | .lex fault => fault.cause
  | .parse fault => fault.cause

def message (error : Error) : String :=
  error.position.render ++ ": " ++ error.cause

end Error

end ExprLang
