import ExprLang.Event
import ExprLang.Lexer
import ExprLang.Options

/-! The state of a parse: a lexer read on demand with one token of lookahead, the
account of nesting, and the events so far. -/
namespace ExprLang

/-- A lexer under a nesting limit. `depth` counts the assignments and brackets around
the tree being read and `height` is that of the tree finished last; a tree is finished
only where the two together stay within `limit`. -/
structure TokenStream where
  lexer : Lexer
  lookahead : Option Spanned
  depth : Nat
  height : Nat
  limit : Nat
  log : Array Event

namespace TokenStream

def ofLexer (lexer : Lexer) (options : Options) : TokenStream :=
  ⟨lexer, none, 0, 0, options.maxDepth, #[]⟩

def ofString (source : String) (options : Options) : TokenStream :=
  ofLexer (.ofString source) options

def record (event : Event) (stream : TokenStream) : TokenStream :=
  { stream with log := stream.log.push event }

def descend (stream : TokenStream) : TokenStream :=
  { stream with depth := stream.depth + 1 }

/-- Comes back up; at the top there is nowhere to go. -/
def ascend (stream : TokenStream) : TokenStream :=
  { stream with depth := stream.depth - 1 }

end TokenStream

/-- A computation that reads a token stream. An error leaves the stream where it
arose, and the stream can be read on from there. -/
abbrev Parser := EStateM Error TokenStream

namespace Parser

def record (event : Event) : Parser Unit :=
  modify (·.record event)

/-- The next item of the lexer. Once the lexer has finished, that is the end of input
again and again, which is reported only the first time. -/
def pull : Parser Spanned := fun stream =>
  match stream.lexer.next with
  | (some (.ok item), lexer) => .ok item ({ stream with lexer }.record (.lexed item))
  | (some (.error fault), lexer) =>
    .error (.lex fault) ({ stream with lexer }.record (.rejected fault))
  | (none, lexer) => .ok ⟨.endOfInput, lexer.position⟩ { stream with lexer }

def advance : Parser Spanned := fun stream =>
  match stream.lookahead with
  | some item => .ok item { stream with lookahead := none }
  | none => pull stream

def peek : Parser Spanned := do
  let item ← advance
  modify ({ · with lookahead := some item })
  return item

def eat (kind : TokenKind) : Parser (Option Spanned) := do
  let next ← peek
  if next.token.kind = kind then
    return some (← advance)
  else
    return none

def unexpected (found : Spanned) (expected : List TokenKind) : Error :=
  if found.token.isEnd then .parse (.unexpectedEndOfInput found.position)
  else .parse (.unexpectedToken expected found.token found.position)

def expect (kind : TokenKind) : Parser Spanned := do
  let found ← advance
  if found.token.kind = kind then
    return found
  else
    throw (unexpected found [kind])

/-- Accounts for a finished tree of the given height, unless it reaches below the
limit. -/
def settle (height : Nat) (position : Position) : Parser Unit := fun stream =>
  if stream.limit < stream.depth + height then
    .error (.parse (.nestingTooDeep stream.limit position)) stream
  else
    .ok () { stream with height }

/-- Runs a parser one level down, and comes back up whatever it answers. -/
def nested {α : Type} (inner : Parser α) : Parser α := fun stream =>
  match inner stream.descend with
  | .ok result stream => .ok result stream.ascend
  | .error fault stream => .error fault stream.ascend

end Parser

end ExprLang
