import ExprLang.Proofs.Recording

/-! The log of a parse line by line. A line tells which token was read, which node was built,
what was refused or which tree the text is, and where; the lines of one kind are known by how
they begin. -/
namespace ExprLang

/-! What the lines say. -/

def Position.coordinates (place : Position) : String :=
  toString place.line ++ ":" ++ toString place.column

/-- Names and numbers are called what they are, and any other token by how it is written. -/
def Token.title : Token → String
  | .endOfInput => "end of input"
  | .identifier name => "identifier '" ++ name ++ "'"
  | .number value => "number " ++ toString value.toInt
  | token => "'" ++ String.ofList token.spelling ++ "'"

def Spanned.logLine (item : Spanned) : String :=
  "TRACE lexed " ++ item.token.title ++ " at " ++ item.position.coordinates

def LexError.logLine : LexError → String
  | .unexpectedCharacter character place =>
    "TRACE lexer rejected " ++ Text.quotedText character.toString ++ " at " ++ place.coordinates
  | .numericOverflow literal place =>
    "TRACE lexer rejected " ++ Text.quotedText literal ++ " at " ++ place.coordinates

def Expr.logLine (tree : Expr) : String :=
  "DEBUG parsed " ++ tree.render

/-- Whether the line is that of the node. An operator stands at its place, an index at the place
of its bracket, and an assignment, by its printed target, where the target begins. -/
def Node.LoggedAs (words : List Spanned) (node : Node) (line : String) : Prop :=
  match node.tree with
  | .literal _ | .var _ => False
  | .assign target _ => ∃ first, words[node.start]? = some first ∧
      line = "TRACE reduce assignment to " ++ target.render ++ " at " ++ first.position.coordinates
  | .binary op left _ => ∃ place,
      words[node.start + left.tokens.length]? = some ⟨.operator op, place⟩ ∧
      line = "TRACE reduce " ++ op.symbol ++ " at " ++ place.coordinates
  | .index base _ => ∃ place,
      words[node.start + base.tokens.length]? = some ⟨.leftBracket, place⟩ ∧
      line = "TRACE reduce index at " ++ place.coordinates

/-- The line that is logged last, if any is, where a parse fails. -/
def Error.closingLines : Error → List String
  | .lex cause => [cause.logLine]
  | .parse _ => []

/-! How the lines of each kind begin. -/

def beginsWith (words line : String) : Bool :=
  words.toList.isPrefixOf line.toList

def isLexedLine (line : String) : Bool :=
  beginsWith "TRACE lexed " line

def isReduceLine (line : String) : Bool :=
  beginsWith "TRACE reduce " line

def isClosingLine (line : String) : Bool :=
  beginsWith "TRACE lexer rejected " line || beginsWith "DEBUG parsed " line

private theorem Token.describe_eq (token : Token) : token.describe = token.title := by
  cases token with
  | operator op => cases op <;> rfl
  | _ => rfl

namespace Event

private theorem line_eq (event : Event) : event.line = match event with
    | .lexed item => item.logLine
    | .rejected fault => fault.logLine
    | .reducedBinary op place => "TRACE reduce " ++ op.symbol ++ " at " ++ place.coordinates
    | .reducedIndex place => "TRACE reduce index at " ++ place.coordinates
    | .reducedAssignment target place =>
      "TRACE reduce assignment to " ++ target.render ++ " at " ++ place.coordinates
    | .parsed tree => tree.logLine := by
  unfold line message
  cases event with
  | rejected fault => cases fault <;> simp only [← String.append_assoc] <;> rfl
  | _ => simp only [← String.append_assoc, Token.describe_eq]; rfl

private theorem isLexedLine_line (event : Event) : isLexedLine event.line = event.isToken := by
  unfold isLexedLine beginsWith line message level
  cases event <;> simp only [EventLevel.name, String.toList_append, List.append_assoc] <;> rfl

private theorem isReduceLine_line (event : Event) : isReduceLine event.line = event.isReduction := by
  unfold isReduceLine beginsWith line message level
  cases event <;> simp only [EventLevel.name, String.toList_append, List.append_assoc] <;> rfl

private theorem isClosingLine_line (event : Event) : isClosingLine event.line = event.isFinal := by
  unfold isClosingLine beginsWith line message level
  cases event <;> simp only [EventLevel.name, String.toList_append, List.append_assoc] <;> rfl

end Event

private theorem Node.NamedBy.loggedAs {words : List Spanned} {node : Node} {event : Event}
    (named : node.NamedBy words event) : node.LoggedAs words event.line := by
  obtain ⟨tree, start⟩ := node
  cases tree with
  | literal value => exact named.elim
  | var name => exact named.elim
  | assign target value =>
    obtain ⟨first, begins, rfl⟩ := named
    exact ⟨first, begins, Event.line_eq _⟩
  | binary op left right =>
    obtain ⟨place, stands, rfl⟩ := named
    exact ⟨place, stands, Event.line_eq _⟩
  | index base subscript =>
    obtain ⟨place, stands, rfl⟩ := named
    exact ⟨place, stands, Event.line_eq _⟩

section
variable (events : List Event)

private theorem lexed_lines : (events.map Event.line).filter isLexedLine =
    (events.filterMap Event.token?).map Spanned.logLine := by
  induction events with
  | nil => rfl
  | cons event events ih =>
    rw [List.map_cons, List.filter_cons, event.isLexedLine_line, ih]
    cases event <;> simp [Event.isToken, Event.token?, Event.line_eq, List.filterMap_cons]

private theorem reduce_lines (lexed : Nat) :
    reportsAfter isLexedLine isReduceLine lexed (events.map Event.line) =
      (reductionsAfter lexed events).map fun report => (report.1.line, report.2) := by
  unfold reductionsAfter
  induction events generalizing lexed with
  | nil => rfl
  | cons event events ih =>
    rw [List.map_cons, reportsAfter, reportsAfter, event.isLexedLine_line, event.isReduceLine_line, ih, ih]
    split <;> rfl

private theorem no_closing_line (steps : ∀ event ∈ events, event.isFinal = false) :
    ∀ line ∈ events.map Event.line, isClosingLine line = false := by
  rintro _ member
  obtain ⟨event, inside, rfl⟩ := List.mem_map.mp member
  rw [event.isClosingLine_line]
  exact steps event inside

end

/-- The lines of a parse. Those for tokens are for all tokens of the text in their order, the end
of input included; those for nodes are for all inner nodes of the tree, each behind the lines for
the nodes inside it and for its last token, with at most one more token in between; and the tree
comes last, and once. Where a text does not parse, the lines for tokens are for its first few, no
tree is named, and a refusal is last, and once, if the error is lexical. -/
theorem log_records_parse (source : String) (options : Options) :
    (∀ tree, parseWith source options = .ok tree → ∃ words place steps,
      tokenize source = .ok (words ++ [⟨.endOfInput, place⟩]) ∧
      words.map Spanned.token = tree.tokens ∧
      (Parse.run source options).log.map Event.line = steps ++ [tree.logLine] ∧
      (∀ line ∈ steps, isClosingLine line = false) ∧
      steps.filter isLexedLine = (words ++ [⟨.endOfInput, place⟩]).map Spanned.logLine ∧
      List.Forall₂ (Node.ReportedBy (Node.LoggedAs words)) (tree.innerNodes 0)
        (reportsAfter isLexedLine isReduceLine 0 steps)) ∧
    ∀ fault, parseWith source options = .error fault → ∃ steps,
      (Parse.run source options).log.map Event.line = steps ++ fault.closingLines ∧
      (∀ line ∈ steps, isClosingLine line = false) ∧
      steps.filter isLexedLine <+:
        ((Lexer.ofString source).takeRest.1.filterMap Except.toOption).map Spanned.logLine := by
  constructor
  · intro tree parsed
    obtain ⟨words, place, steps, tokenized, tokens, log, notFinal, named, reported⟩ :=
      events_of_ok source options tree parsed
    refine ⟨words, place, steps.map Event.line, tokenized, tokens, ?_, no_closing_line steps notFinal, ?_, ?_⟩
    · rw [log, List.map_append, List.map_singleton, Event.line_eq]
    · rw [lexed_lines, named]
    · rw [reduce_lines, List.forall₂_map_right_iff]
      exact reported.imp fun node report by_ => ⟨by_.named.loggedAs, by_.behind, by_.soon⟩
  · intro fault failed
    obtain ⟨steps, log, notFinal, named⟩ := events_of_error source options fault failed
    refine ⟨steps.map Event.line, ?_, no_closing_line steps notFinal, ?_⟩
    · rw [log, List.map_append]
      cases fault with
      | lex cause => exact congrArg (_ ++ [·]) (Event.line_eq (.rejected cause))
      | parse cause => rfl
    · rw [lexed_lines]
      exact named.map _

theorem log_records_parse_element :
    let tree := Expr.assign (.index (.var "a") (.literal 1)) (.binary .sub (.var "b") (.literal 2))
    (∃ words place steps, tokenize "a[1] = b - 2" = .ok (words ++ [⟨.endOfInput, place⟩]) ∧
      words.map Spanned.token = tree.tokens ∧
      (Parse.run "a[1] = b - 2" {}).log.map Event.line = steps ++ ["DEBUG parsed a[1] = b - 2"] ∧
      (∀ line ∈ steps, isClosingLine line = false) ∧
      steps.filter isLexedLine = (words ++ [⟨.endOfInput, place⟩]).map Spanned.logLine ∧
      List.Forall₂ (Node.ReportedBy (Node.LoggedAs words)) (tree.innerNodes 0)
        (reportsAfter isLexedLine isReduceLine 0 steps)) ∧
    ∃ steps, (Parse.run "a[1] = $" {}).log.map Event.line =
        steps ++ ["TRACE lexer rejected \"$\" at 1:8"] ∧
      (∀ line ∈ steps, isClosingLine line = false) ∧
      steps.filter isLexedLine <+:
        ((Lexer.ofString "a[1] = $").takeRest.1.filterMap Except.toOption).map Spanned.logLine :=
  ⟨(log_records_parse "a[1] = b - 2" {}).1 _ (by decide +kernel),
    (log_records_parse "a[1] = $" {}).2 (.lex (.unexpectedCharacter '$' ⟨7, 1, 8⟩)) (by decide +kernel)⟩

/-- The minus is reported once the equals sign has been looked at, and the target of the
assignment never, as it is none. -/
example : (Parse.run "a[1] - b = 2" {}).log.map Event.line =
    ["TRACE lexed identifier 'a' at 1:1", "TRACE lexed '[' at 1:2", "TRACE lexed number 1 at 1:3",
      "TRACE lexed ']' at 1:4", "TRACE reduce index at 1:2", "TRACE lexed '-' at 1:6",
      "TRACE lexed identifier 'b' at 1:8", "TRACE lexed '=' at 1:10", "TRACE reduce - at 1:6"] := by
  decide +kernel

end ExprLang
