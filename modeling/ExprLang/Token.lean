import ExprLang.Operator
import ExprLang.Position

/-! Tokens, the words of the language, and their kinds. A kind is a token without
the name or number it carries; each has a symbolic name, a description for
messages, and the code under which a table-driven parser knows it. -/
namespace ExprLang

inductive TokenKind where
  | endOfInput
  | identifier
  | number
  | assign
  | operator (op : BinaryOperator)
  | leftBracket
  | rightBracket
  deriving DecidableEq

namespace TokenKind

def all : List TokenKind :=
  [.endOfInput, .identifier, .number, .assign, .operator .add, .operator .sub, .operator .mul,
   .leftBracket, .rightBracket, .operator .equal, .operator .notEqual, .operator .greater,
   .operator .less, .operator .greaterEqual, .operator .lessEqual]

def code : TokenKind → Nat
  | .endOfInput => 0
  | .identifier => 258
  | .number => 259
  | .assign => 260
  | .operator .add => 261
  | .operator .sub => 262
  | .operator .mul => 263
  | .leftBracket => 264
  | .rightBracket => 265
  | .operator .equal => 266
  | .operator .notEqual => 267
  | .operator .greater => 268
  | .operator .less => 269
  | .operator .greaterEqual => 270
  | .operator .lessEqual => 271

def ofCode? (code : Nat) : Option TokenKind :=
  all.find? (fun kind => kind.code == code)

def name : TokenKind → String
  | .endOfInput => "END"
  | .identifier => "IDENTIFIER"
  | .number => "NUMBER"
  | .assign => "EQUAL"
  | .operator .add => "PLUS"
  | .operator .sub => "MINUS"
  | .operator .mul => "MULTIPLY"
  | .leftBracket => "LBRACKET"
  | .rightBracket => "RBRACKET"
  | .operator .equal => "CMP_EQ"
  | .operator .notEqual => "CMP_NEQ"
  | .operator .greater => "GT"
  | .operator .less => "LT"
  | .operator .greaterEqual => "GTE"
  | .operator .lessEqual => "LTE"

def ofName? (name : String) : Option TokenKind :=
  all.find? (fun kind => kind.name == name)

def describe : TokenKind → String
  | .endOfInput => "end of input"
  | .identifier => "identifier"
  | .number => "number"
  | .assign => "'='"
  | .operator op => "'" ++ op.symbol ++ "'"
  | .leftBracket => "'['"
  | .rightBracket => "']'"

def operator? : TokenKind → Option BinaryOperator
  | .operator op => some op
  | _ => none

def sort (kinds : List TokenKind) : List TokenKind :=
  kinds.mergeSort (fun a b => decide (a.code ≤ b.code))

end TokenKind

/-- A word of the language. Names and numbers carry what they stand for. -/
inductive Token where
  | endOfInput
  | identifier (name : String)
  | number (value : Int64)
  | assign
  | operator (op : BinaryOperator)
  | leftBracket
  | rightBracket
  deriving DecidableEq

namespace Token

def kind : Token → TokenKind
  | .endOfInput => .endOfInput
  | .identifier _ => .identifier
  | .number _ => .number
  | .assign => .assign
  | .operator op => .operator op
  | .leftBracket => .leftBracket
  | .rightBracket => .rightBracket

def isEnd (token : Token) : Bool :=
  token.kind == .endOfInput

def operator? (token : Token) : Option BinaryOperator :=
  token.kind.operator?

def describe : Token → String
  | .identifier name => "identifier '" ++ name ++ "'"
  | .number value => "number " ++ toString value.toInt
  | token => token.kind.describe

end Token

structure Spanned where
  token : Token
  position : Position
  deriving DecidableEq

end ExprLang
