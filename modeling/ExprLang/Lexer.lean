import ExprLang.Error
import ExprLang.Text.DecimalDigit
import ExprLang.Text.Letter

/-! Reading a source text as tokens, one at a time. Blanks are skipped, then the
longest token at that place is taken. The last item is the end of input, or else
the first error; after it there are none. -/
namespace ExprLang

def isBlank (c : Char) : Bool :=
  c = ' ' || c = '\t' || c = '\x0c' || c = '\r' || c = '\n'

def isNameStart (c : Char) : Bool :=
  c = '_' || Text.isLetter c

def isNamePart (c : Char) : Bool :=
  isNameStart c || Text.isDecimalDigit c

def decimal? (bound : Nat) (digits : List Char) : Option Nat :=
  digits.foldlM (fun value digit =>
    let longer := 10 * value + (digit.toNat - '0'.toNat)
    if longer ≤ bound then some longer else none) 0

structure Lexeme where
  token : Token
  spelling : List Char
  rest : List Char

namespace Lexeme

/-- The operator or bracket that a text starts with, the longer one where two fit. -/
def symbol? : List Char → Option Lexeme
  | '=' :: '=' :: rest => some ⟨.operator .equal, ['=', '='], rest⟩
  | '!' :: '=' :: rest => some ⟨.operator .notEqual, ['!', '='], rest⟩
  | '>' :: '=' :: rest => some ⟨.operator .greaterEqual, ['>', '='], rest⟩
  | '<' :: '=' :: rest => some ⟨.operator .lessEqual, ['<', '='], rest⟩
  | '=' :: rest => some ⟨.assign, ['='], rest⟩
  | '>' :: rest => some ⟨.operator .greater, ['>'], rest⟩
  | '<' :: rest => some ⟨.operator .less, ['<'], rest⟩
  | '+' :: rest => some ⟨.operator .add, ['+'], rest⟩
  | '-' :: rest => some ⟨.operator .sub, ['-'], rest⟩
  | '*' :: rest => some ⟨.operator .mul, ['*'], rest⟩
  | '[' :: rest => some ⟨.leftBracket, ['['], rest⟩
  | ']' :: rest => some ⟨.rightBracket, [']'], rest⟩
  | _ => none

def name (text : List Char) : Lexeme :=
  let spelling := text.takeWhile isNamePart
  ⟨.identifier (String.ofList spelling), spelling, text.dropWhile isNamePart⟩

def number (start : Position) (text : List Char) : Except LexError Lexeme :=
  let digits := text.takeWhile Char.isDigit
  match decimal? Int64.maxValue.toInt.toNat digits with
  | some value => .ok ⟨.number (Int64.ofNat value), digits, text.dropWhile Char.isDigit⟩
  | none => .error (.numericOverflow (String.ofList digits) start)

/-- The longest token at the head of a text, which is at `start` and begins with no
blank. The end of input is spelled by no characters. -/
def scan (start : Position) (text : List Char) : Except LexError Lexeme :=
  match symbol? text, text with
  | some lexeme, _ => .ok lexeme
  | none, [] => .ok ⟨.endOfInput, [], []⟩
  | none, c :: _ =>
    if isNameStart c then .ok (name text)
    else if c.isDigit then number start text
    else .error (.unexpectedCharacter c start)

end Lexeme

/-- A reader of tokens: the source, the text it has not read, and the place where
that text starts. -/
structure Lexer where
  source : String
  rest : List Char
  cursor : Position
  finished : Bool

abbrev LexItem := Except LexError Spanned

namespace Lexer

def ofString (source : String) : Lexer :=
  ⟨source, source.toList, .start, false⟩

def restart (lexer : Lexer) : Lexer :=
  ofString lexer.source

/-- The next item, and none once the lexer has finished. A refused piece of text
stays unread. -/
def next (lexer : Lexer) : Option LexItem × Lexer :=
  if lexer.finished then (none, lexer)
  else
    let start := lexer.cursor.after (lexer.rest.takeWhile isBlank)
    let text := lexer.rest.dropWhile isBlank
    match Lexeme.scan start text with
    | .ok lexeme =>
      (some (.ok ⟨lexeme.token, start⟩),
        ⟨lexer.source, lexeme.rest, start.after lexeme.spelling, lexeme.token.isEnd⟩)
    | .error fault => (some (.error fault), ⟨lexer.source, text, start, true⟩)

/-- The place just past what has been read. A lexer that has finished answers with
the end of the source, seen from the line that it had reached: text it never read
counts as part of that line. -/
def position (lexer : Lexer) : Position :=
  if lexer.finished then lexer.cursor.along lexer.rest else lexer.cursor

def takeOnto (items : Array LexItem) : Nat → Lexer → Array LexItem × Lexer
  | 0, lexer => (items, lexer)
  | count + 1, lexer =>
    match lexer.next with
    | (some item, lexer) => takeOnto (items.push item) count lexer
    | (none, lexer) => (items, lexer)

def take (count : Nat) (lexer : Lexer) : List LexItem × Lexer :=
  let (items, lexer) := takeOnto #[] count lexer
  (items.toList, lexer)

/-- Every item that is left. Each one but the last spells at least one character. -/
def takeRest (lexer : Lexer) : List LexItem × Lexer :=
  lexer.take (lexer.rest.length + 1)

end Lexer

/-- The tokens of a text up to and with the end of input, or its first error. -/
def tokenize (source : String) : Except LexError (List Spanned) :=
  (Lexer.ofString source).takeRest.1.mapM id

end ExprLang
