import ExprLang.Proofs.Cursor
import ExprLang.Proofs.Expressibility

/-! All that can be done with a token stream: tokens are taken from it, phrases are read from
it, and its account of nesting is kept by hand. In whatever order this is done and whatever
has failed before, the stream stands at some item of its text and has the items from there on
to give. -/
namespace ExprLang

/-- The phrases that can be read from a stream, the loosest first. -/
inductive Tier where
  | expression
  | comparison
  | additive
  | multiplicative
  | primary

namespace Tier

def precedence : Tier → Nat
  | .expression => Precedence.assignment
  | .comparison => Precedence.comparison
  | .additive => Precedence.additive
  | .multiplicative => Precedence.multiplicative
  | .primary => Precedence.primary

def parser : Tier → Parser Expr
  | .expression => Parser.expression
  | .comparison => Parser.comparison
  | .additive => Parser.additive
  | .multiplicative => Parser.multiplicative
  | .primary => Parser.primary

theorem reads (tier : Tier) (stream : TokenStream) :
    Parser.Reads (.ofLevel tier.precedence) tier.parser stream := by
  have below := Parser.readsBelow_nestedExpression stream
  cases tier with
  | expression => exact Parser.expressionWith_reads _ stream below
  | comparison => exact Parser.comparisonWith_reads _ stream below
  | additive => exact Parser.additiveWith_reads _ stream below
  | multiplicative => exact Parser.multiplicativeWith_reads _ stream below
  | primary => exact Parser.primaryWith_reads _ stream below

end Tier

inductive StreamCall where
  | token (call : TokenCall)
  | descend
  | ascend
  | settle (height : Nat) (position : Position)
  | read (tier : Tier)

def Parser.leave {α : Type} (parser : Parser α) (stream : TokenStream) : TokenStream :=
  match parser stream with
  | .ok _ after | .error _ after => after

namespace TokenStream

def perform (stream : TokenStream) : StreamCall → TokenStream
  | .token call => (stream.call call).2
  | .descend => stream.descend
  | .ascend => stream.ascend
  | .settle height position => (Parser.settle height position).leave stream
  | .read tier => tier.parser.leave stream

def performAll (stream : TokenStream) (calls : List StreamCall) : TokenStream :=
  calls.foldl perform stream

/-- What stays true of a stream when tokens are taken from it, its account changes, or nodes are
reported. -/
structure Lasting (kept : TokenStream → Prop) : Prop where
  peek : ∀ now, kept now → Parser.peek.Meets now (fun _ => kept) (fun _ => kept)
  advance : ∀ now, kept now → Parser.advance.Meets now (fun _ => kept) (fun _ => kept)
  account : ∀ (now : TokenStream) depth height, kept now → kept { now with depth, height }
  report : ∀ (now : TokenStream) event, kept now → kept (now.record event)

end TokenStream

namespace Parser
open TokenStream

def Keeps {α : Type} (kept : TokenStream → Prop) (parser : Parser α) : Prop :=
  ∀ now, kept now → parser.Meets now (fun _ => kept) (fun _ => kept)

section
variable {α β : Type} {kept : TokenStream → Prop}

theorem Meets.leave {parser : Parser α} {stream : TokenStream}
    (meets : parser.Meets stream (fun _ => kept) (fun _ => kept)) : kept (parser.leave stream) := by
  unfold Meets at meets
  unfold Parser.leave
  cases ran : parser stream with
  | ok answer after => rw [ran] at meets; exact meets
  | error fault after => rw [ran] at meets; exact meets

theorem Keeps.bind {first : Parser β} {next : β → Parser α} (keeps : first.Keeps kept)
    (goes : ∀ answer, (next answer).Keeps kept) : (first >>= next).Keeps kept := by
  intro now holds
  refine (keeps now holds).andThen ?_
  intro answer after holdsAfter
  exact goes answer after holdsAfter

theorem keeps_pure (answer : α) : (pure answer : Parser α).Keeps kept := fun _ holds => holds

theorem keeps_throw (fault : Error) : (throw fault : Parser α).Keeps kept := fun _ holds => holds

theorem keeps_get {next : TokenStream → Parser α} (keeps : ∀ stream, (next stream).Keeps kept) :
    (get >>= next).Keeps kept :=
  fun now holds => keeps now now holds

private theorem chain_keeps (step : Growing → Parser (Option Growing)) (steps : ∀ node, (step node).Keeps kept)
    (first : Expr) : (chain step first).Keeps kept := by
  apply keeps_get
  intro stream now holds
  exact grow_keeps step (fun _ => kept) _ (fun node => steps node) stream.limit _ now holds

end

section
variable {kept : TokenStream → Prop} (lasts : Lasting kept)
include lasts

private theorem eat_keeps (kind : TokenKind) : (eat kind).Keeps kept := by
  unfold eat
  refine Keeps.bind lasts.peek ?_
  intro next
  split
  · exact Keeps.bind lasts.advance (fun item => keeps_pure (some item))
  · exact keeps_pure none

private theorem expect_keeps (kind : TokenKind) : (expect kind).Keeps kept := by
  unfold expect
  refine Keeps.bind lasts.advance ?_
  intro found
  split
  · exact keeps_pure found
  · exact keeps_throw _

private theorem call_keeps (call : TokenCall) : call.parser.Keeps kept := by
  cases call with
  | peek => exact Keeps.bind lasts.peek (fun item => keeps_pure (some item))
  | advance => exact Keeps.bind lasts.advance (fun item => keeps_pure (some item))
  | eat kind => exact eat_keeps lasts kind
  | expect kind => exact Keeps.bind (expect_keeps lasts kind) (fun item => keeps_pure (some item))

private theorem settle_keeps (height : Nat) (position : Position) : (settle height position).Keeps kept := by
  intro now holds
  refine (settle_meets height position now).mono ?_ ?_
  · rintro _ after ⟨rfl, _⟩
    exact lasts.account now now.depth height holds
  · rintro fault after ⟨_, rfl, _⟩
    exact holds

private theorem record_keeps (event : Event) : (record event).Keeps kept :=
  fun now holds => lasts.report now event holds

private theorem nested_keeps {inner : Parser Expr} (keeps : inner.Keeps kept) : (nested inner).Keeps kept := by
  intro now holds
  apply meets_nested
  refine (keeps now.descend (lasts.account now _ now.height holds)).mono ?_ ?_
  · intro tree after holdsAfter
    exact lasts.account after _ after.height holdsAfter
  · intro fault after holdsAfter
    exact lasts.account after _ after.height holdsAfter

private theorem finish_keeps {α : Type} (height : Nat) (position : Position) (event : Event) (answer : α) :
    (settle height position >>= fun _ => record event >>= fun _ => pure answer).Keeps kept := by
  refine Keeps.bind (settle_keeps lasts height position) ?_
  intro _
  exact Keeps.bind (record_keeps lasts event) (fun _ => keeps_pure answer)

section
variable {inner : Parser Expr} (keeps : inner.Keeps kept)
include keeps

private theorem indexStep_keeps (base : Growing) : (indexStep settle inner base).Keeps kept := by
  unfold indexStep
  refine Keeps.bind (eat_keeps lasts .leftBracket) ?_
  intro found
  cases found with
  | none => exact keeps_pure none
  | some bracket =>
    refine Keeps.bind (nested_keeps lasts keeps) ?_
    intro subscript
    refine Keeps.bind (expect_keeps lasts .rightBracket) ?_
    intro _
    apply keeps_get
    intro stream
    exact finish_keeps lasts _ _ _ _

private theorem primaryWith_keeps : (primaryWith settle inner).Keeps kept := by
  unfold primaryWith
  refine Keeps.bind lasts.advance ?_
  intro first
  cases first.token with
  | number value => exact Keeps.bind (settle_keeps lasts 1 _) (fun _ => keeps_pure _)
  | identifier name =>
    refine Keeps.bind (settle_keeps lasts 1 _) ?_
    intro _
    exact chain_keeps _ (indexStep_keeps lasts keeps) _
  | _ => exact keeps_throw _

private theorem operatorStep_keeps (precedence : Nat) (left : Growing) :
    (operatorStep settle precedence inner left).Keeps kept := by
  unfold operatorStep
  refine Keeps.bind lasts.peek ?_
  intro next
  cases next.token with
  | operator op =>
    dsimp only
    split
    · refine Keeps.bind lasts.advance ?_
      intro _
      refine Keeps.bind keeps ?_
      intro right
      apply keeps_get
      intro stream
      exact finish_keeps lasts _ _ _ _
    · exact keeps_pure none
  | _ => exact keeps_pure none

private theorem leftAssociative_keeps (precedence : Nat) : (leftAssociative settle precedence inner).Keeps kept :=
  Keeps.bind keeps (fun first => chain_keeps _ (operatorStep_keeps lasts keeps precedence) first)

private theorem multiplicativeWith_keeps : (multiplicativeWith settle inner).Keeps kept :=
  leftAssociative_keeps lasts (primaryWith_keeps lasts keeps) _

private theorem additiveWith_keeps : (additiveWith settle inner).Keeps kept :=
  leftAssociative_keeps lasts (multiplicativeWith_keeps lasts keeps) _

private theorem comparisonWith_keeps : (comparisonWith settle inner).Keeps kept :=
  leftAssociative_keeps lasts (additiveWith_keeps lasts keeps) _

private theorem expressionWith_keeps : (expressionWith settle inner).Keeps kept := by
  unfold expressionWith
  refine Keeps.bind lasts.peek ?_
  intro first
  refine Keeps.bind (comparisonWith_keeps lasts keeps) ?_
  intro target
  refine Keeps.bind (eat_keeps lasts .assign) ?_
  intro found
  cases found with
  | none => exact keeps_pure target
  | some equal =>
    dsimp only
    split
    · apply keeps_get
      intro stream
      refine Keeps.bind (nested_keeps lasts keeps) ?_
      intro value
      apply keeps_get
      intro last
      exact finish_keeps lasts _ _ _ _
    · exact keeps_throw _

end

theorem nestedExpression_keeps : nestedExpression.Keeps kept := by
  have within (levels : Nat) : (expressionWithin tooDeep levels).Keeps kept := by
    induction levels with
    | zero => exact fun _ holds => holds
    | succ levels ih => exact expressionWith_keeps lasts ih
  exact fun now holds => within now.limit now holds

theorem tier_keeps (tier : Tier) : tier.parser.Keeps kept := by
  have keeps := nestedExpression_keeps lasts
  cases tier with
  | expression => exact expressionWith_keeps lasts keeps
  | comparison => exact comparisonWith_keeps lasts keeps
  | additive => exact additiveWith_keeps lasts keeps
  | multiplicative => exact multiplicativeWith_keeps lasts keeps
  | primary => exact primaryWith_keeps lasts keeps

end

end Parser

private theorem Lexer.supply_next (lexer : Lexer) : lexer.supply =
    .cons (lexer.next.1.getD (.ok ⟨.endOfInput, lexer.next.2.position⟩)) lexer.next.2.supply := by
  cases read : lexer.next with
  | mk found after =>
    cases found with
    | none => exact lexer.supply_none after read
    | some item => exact lexer.supply_some after item read

theorem Lexer.supply_afterCalls (source : String) (calls index : Nat) :
    ((ofString source).afterCalls calls).supply.get index = itemAt source (calls + index) := by
  induction index generalizing calls with
  | zero =>
    rw [supply_next, Stream'.get_zero_cons, itemAt, ← afterCalls_succ]
    cases answered : (ofString source).answer calls with
    | some item =>
      rw [show ((ofString source).afterCalls calls).next.1 = some item from answered]
      rfl
    | none =>
      rw [show ((ofString source).afterCalls calls).next.1 = none from answered,
        answer_none _ calls answered, afterCalls_of_answer_none source calls answered]
      rfl
  | succ index ih =>
    rw [supply_next, Stream'.get_succ_cons, ← afterCalls_succ, ih, Nat.add_right_comm, Nat.add_assoc]

namespace TokenStream

theorem call_leave (stream : TokenStream) (call : TokenCall) :
    (stream.call call).2 = call.parser.leave stream := by
  unfold TokenStream.call Parser.leave
  cases call.parser stream <;> rfl

section
variable {kept : TokenStream → Prop} (lasts : Lasting kept) (stream : TokenStream) (holds : kept stream)
include lasts holds

theorem perform_keeps (call : StreamCall) : kept (stream.perform call) := by
  cases call with
  | token call =>
    rw [perform, call_leave]
    exact (Parser.call_keeps lasts call stream holds).leave
  | descend => exact lasts.account stream _ stream.height holds
  | ascend => exact lasts.account stream _ stream.height holds
  | settle height position => exact (Parser.settle_keeps lasts height position stream holds).leave
  | read tier => exact (Parser.tier_keeps lasts tier stream holds).leave

theorem performAll_keeps (calls : List StreamCall) : kept (stream.performAll calls) := by
  induction calls generalizing stream with
  | nil => exact holds
  | cons call calls ih => exact ih (stream.perform call) (perform_keeps lasts stream holds call)

end

/-- Whether the items to come are those of the text from one of them on. -/
def StandsIn (source : String) (now : TokenStream) : Prop :=
  ∃ taken, ∀ index, now.supply.get index = itemAt source (taken + index)

private theorem StandsIn.behind {source : String} {now after : TokenStream} {item : LexItem}
    (stands : now.StandsIn source) (supply : now.supply = .cons item after.supply) : after.StandsIn source := by
  obtain ⟨taken, items⟩ := stands
  refine ⟨taken + 1, ?_⟩
  intro index
  have next := items (index + 1)
  rw [supply, Stream'.get_succ_cons] at next
  rw [next, Nat.add_right_comm, Nat.add_assoc]

private theorem lasting_standsIn (source : String) : Lasting (StandsIn source) where
  peek := by
    intro now stands
    refine (Parser.peek_meets now).mono ?_ ?_
    · rintro item after ⟨supply, _⟩
      unfold StandsIn
      rw [supply]
      exact stands
    · rintro fault after ⟨cause, _, supply, _⟩
      exact stands.behind supply
  advance := by
    intro now stands
    refine (Parser.advance_meets now).mono ?_ ?_
    · rintro item after ⟨supply, _⟩
      exact stands.behind supply
    · rintro fault after ⟨cause, _, supply, _⟩
      exact stands.behind supply
  account := fun _ _ _ stands => stands
  report := fun _ _ stands => stands

/-- Whatever a lexer and then a stream over it have been through, the stream stands somewhere in
their text. -/
theorem performAll_standsIn (source : String) (lexed : List LexerCall) (options : Options)
    (calls : List StreamCall) :
    ((ofLexer ((Lexer.ofString source).performAll lexed) options).performAll calls).StandsIn source := by
  apply performAll_keeps (lasting_standsIn source)
  refine ⟨LexerCall.sinceRestart lexed, ?_⟩
  intro index
  rw [show (Lexer.ofString source).performAll lexed = _ from Lexer.performAll_afterCalls source lexed 0]
  exact Lexer.supply_afterCalls source _ index

theorem StandsIn.writable {source : String} {now : TokenStream} (stands : now.StandsIn source) (index : Nat)
    (item : Spanned) (next : now.supply.get index = .ok item) (isWord : item.token.isEnd = false) :
    item.token.Writable := by
  obtain ⟨taken, items⟩ := stands
  rw [items] at next
  have found := word_of_itemAt next (lt_of_itemAt next isWord)
  exact wordsOf_writable source item (List.mem_of_getElem? found)

end TokenStream

end ExprLang
