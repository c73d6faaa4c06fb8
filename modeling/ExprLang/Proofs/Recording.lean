import ExprLang.Proofs.Journal
import ExprLang.Proofs.TokenSequence

/-! The log of a parse is a record of it. Its tokens are those of the text as far as they
were needed, and the nodes that it reports are those of the tree, in the order in which they
are finished. -/
namespace ExprLang

namespace Parser
open TokenStream

private theorem closing_unexpected (found : Spanned) (expected : List TokenKind) :
    (unexpected found expected).closing = [] := by
  unfold unexpected
  split <;> rfl

/-- Whether the parser, wherever a parse is under way, reads a tree and reports its nodes, or
ends the parse with an error. -/
def Records (source : String) (parser : Parser Expr) : Prop :=
  ∀ (start : Nat) (now : TokenStream), now.Underway source start →
    parser.Meets now (Built source now.reductions start) (Stops source)

private theorem settle_records {source : String} {taken : Nat} {now : TokenStream}
    (underway : now.Underway source taken) (height : Nat) (position : Position) :
    (settle height position).Meets now (fun _ after => after = { now with height }) (Stops source) := by
  refine (settle_meets height position now).mono (fun _ _ settled => settled.1) ?_
  intro fault after refused
  obtain ⟨rfl, rfl, _⟩ := refused
  exact underway.stops _ rfl

private theorem finish_records {α : Type} {source : String} {earlier : List (Event × Nat)} {start taken : Nat}
    {now : TokenStream} (height : Nat) (position : Position) (event : Event) (answer : α)
    (accepts : α → TokenStream → Prop) (tree : Expr) (nodes : List Node)
    (underway : now.Underway source taken) (finish : taken = start + tree.tokens.length)
    (reports : now.Reports source earlier nodes)
    (named : Node.NamedBy (wordsOf source) ⟨tree, start⟩ event)
    (order : tree.innerNodes start = nodes ++ [⟨tree, start⟩])
    (accepted : ∀ after, after.Built source earlier start tree → accepts answer after) :
    (settle height position >>= fun _ => record event >>= fun _ => pure answer).Meets now accepts
      (Stops source) := by
  refine (settle_records underway height position).andThen ?_
  intro _ after settled
  subst settled finish
  apply meets_record
  apply meets_pure
  have settledUnderway := underway.accounted now.depth height now.limit
  refine accepted _ ⟨settledUnderway.recorded named.isReduction, ?_⟩
  rw [order]
  exact reports.append (Underway.reports_record ⟨tree, start⟩ settledUnderway event named)

section
variable {source : String} {inner : Parser Expr} (records : Records source inner)
include records

private theorem nested_records : Records source (nested inner) := by
  intro start now underway
  apply meets_nested
  refine (records start now.descend (underway.accounted _ _ _)).mono ?_ ?_
  · intro tree after built
    exact ⟨built.underway.accounted _ _ _, built.reports⟩
  · intro fault after stops
    exact ⟨stops.items, stops.log⟩

private theorem indexStep_records (earlier : List (Event × Nat)) (start : Nat) (base : Growing) (now : TokenStream)
    (built : now.Built source earlier start base.tree) :
    (indexStep settle inner base).Meets now
      (fun found after => after.Built source earlier start (found.getD base).tree) (Stops source) := by
  unfold indexStep
  refine (eat_takes built.underway.has .leftBracket).bind ?_ (fun _ _ => built.underway.stops_of_stumbles)
  intro found after outcome
  cases found with
  | none =>
    obtain ⟨_, has, reads⟩ := outcome
    exact ⟨built.underway.peeked has reads, built.reports.read reads⟩
  | some bracket =>
    obtain ⟨kind, gives⟩ := outcome
    obtain ⟨token, position⟩ := bracket
    obtain rfl := eq_of_kind token .leftBracket (by simp [Token.kind]) kind
    obtain ⟨underway, opened⟩ := built.underway.given gives rfl
    refine (nested_records records _ after underway).andThen ?_
    intro subscript stop inside
    have reports := (built.reports.read gives.reads).append inside.reports
    refine (expect_takes inside.underway.has .rightBracket).bind ?_ ?_
    · intro closing last closed
      obtain ⟨kindClosing, givesClosing⟩ := closed
      have isWord : closing.token.isEnd = false := by simp [Token.isEnd, kindClosing]
      have underwayLast := (inside.underway.given givesClosing isWord).1
      have finish : start + base.tree.tokens.length + 1 + subscript.tokens.length + 1 =
          start + (Expr.index base.tree subscript).tokens.length := by
        simp [Expr.tokens]
        omega
      apply meets_get
      exact finish_records _ position _ _ _ _ _ underwayLast finish (reports.read givesClosing.reads)
        ⟨position, opened, rfl⟩ rfl (fun _ finished => finished)
    · intro fault last fails
      rcases fails with stumbles | ⟨item, _, rfl, gives⟩
      · exact inside.underway.stops_of_stumbles stumbles
      · exact inside.underway.stops_of_gives _ (closing_unexpected _ _) gives

private theorem primaryWith_records : Records source (primaryWith settle inner) := by
  intro start now underway
  unfold primaryWith
  refine (advance_takes underway.has).bind ?_ (fun _ _ => underway.stops_of_stumbles)
  intro first after taken
  obtain ⟨gives, _⟩ := taken
  obtain ⟨token, position⟩ := first
  have leaf (tree : Expr) (isWord : token.isEnd = false) (one : tree.tokens.length = 1)
      (isLeaf : tree.innerNodes start = []) (height : Nat) :
      ({ after with height } : TokenStream).Built source now.reductions start tree := by
    refine ⟨?_, ?_⟩
    · rw [one]
      exact (underway.given gives isWord).1.accounted _ _ _
    · rw [isLeaf, ← gives.reads.reductions_eq]
      exact .none source _
  cases token with
  | number value =>
    refine (settle_records (underway.given gives rfl).1 1 position).andThen ?_
    intro _ final settled
    subst settled
    exact leaf (.literal value) rfl rfl rfl 1
  | identifier name =>
    refine (settle_records (underway.given gives rfl).1 1 position).andThen ?_
    intro _ final settled
    subst settled
    apply meets_get
    apply grow_keeps
    · exact indexStep_records records now.reductions start
    · exact leaf (.var name) rfl rfl rfl 1
  | _ => exact underway.stops_of_gives _ (closing_unexpected _ _) gives

private theorem operatorStep_records (precedence : Nat) (earlier : List (Event × Nat)) (start : Nat) (left : Growing)
    (now : TokenStream) (built : now.Built source earlier start left.tree) :
    (operatorStep settle precedence inner left).Meets now
      (fun found after => after.Built source earlier start (found.getD left).tree) (Stops source) := by
  unfold operatorStep
  refine (peek_takes built.underway.has).bind ?_ (fun _ _ => built.underway.stops_of_stumbles)
  intro next after peeked
  obtain ⟨_, has, ahead, reads⟩ := peeked
  have stays : after.Built source earlier start left.tree :=
    ⟨built.underway.peeked has reads, built.reports.read reads⟩
  obtain ⟨token, position⟩ := next
  cases token with
  | operator op =>
    dsimp only
    split
    · refine (advance_ahead_takes has _ ahead _).andThen ?_
      intro item middle taken
      obtain ⟨rfl, gives, _⟩ := taken
      obtain ⟨underway, named⟩ := stays.underway.given gives rfl
      refine (records _ middle underway).andThen ?_
      intro right last behind
      have finish : start + left.tree.tokens.length + 1 + right.tokens.length =
          start + (Expr.binary op left.tree right).tokens.length := by
        simp [Expr.tokens]
        omega
      apply meets_get
      exact finish_records _ position _ _ _ _ _ behind.underway finish
        ((stays.reports.read gives.reads).append behind.reports) ⟨position, named, rfl⟩ rfl
        (fun _ finished => finished)
    · exact stays
  | _ => exact stays

private theorem leftAssociative_records (precedence : Nat) :
    Records source (leftAssociative settle precedence inner) := by
  intro start now underway
  unfold leftAssociative
  refine (records start now underway).andThen ?_
  intro first after built
  apply meets_get
  apply grow_keeps
  · exact operatorStep_records records precedence now.reductions start
  · exact built

private theorem comparisonWith_records : Records source (comparisonWith settle inner) := by
  unfold comparisonWith additiveWith multiplicativeWith
  apply leftAssociative_records
  apply leftAssociative_records
  apply leftAssociative_records
  exact primaryWith_records records

private theorem expressionWith_records : Records source (expressionWith settle inner) := by
  intro start now underway
  unfold expressionWith
  refine (peek_takes underway.has).bind ?_ (fun _ _ => underway.stops_of_stumbles)
  intro first peeked looked
  obtain ⟨next, has, _, reads⟩ := looked
  refine (comparisonWith_records records start peeked (underway.peeked has reads)).andThen ?_
  intro target middle built
  rw [reads.reductions_eq] at built
  have firstWord : (wordsOf source)[start]? = some first := by
    apply word_of_itemAt next
    have inside := built.underway.inside
    have nonempty := target.tokens_length_pos
    omega
  refine (eat_takes built.underway.has .assign).bind ?_ (fun _ _ => built.underway.stops_of_stumbles)
  intro found after outcome
  cases found with
  | none =>
    obtain ⟨_, hasAfter, readsAfter⟩ := outcome
    exact ⟨built.underway.peeked hasAfter readsAfter, built.reports.read readsAfter⟩
  | some equal =>
    obtain ⟨kind, gives⟩ := outcome
    have isWord : equal.token.isEnd = false := by simp [Token.isEnd, kind]
    have underwayAfter := (built.underway.given gives isWord).1
    dsimp only
    split
    · apply meets_get
      refine (nested_records records _ after underwayAfter).andThen ?_
      intro value last behind
      have finish : start + target.tokens.length + 1 + value.tokens.length =
          start + (Expr.assign target value).tokens.length := by
        simp [Expr.tokens]
        omega
      apply meets_get
      exact finish_records _ equal.position _ _ _ _ _ behind.underway finish
        ((built.reports.read gives.reads).append behind.reports) ⟨first, firstWord, rfl⟩ rfl
        (fun _ finished => finished)
    · exact underwayAfter.stops _ rfl

end

private theorem expressionWithin_records (source : String) (levels : Nat) :
    Records source (expressionWithin tooDeep levels) := by
  induction levels with
  | zero => exact fun _ _ underway => underway.stops _ rfl
  | succ levels ih => exact expressionWith_records ih

private theorem nestedExpression_records (source : String) : Records source nestedExpression :=
  fun start now => expressionWithin_records source now.limit start now

theorem expression_records (source : String) : Records source expression :=
  expressionWith_records (nestedExpression_records source)

structure Completes (source : String) (tree : Expr) (now : TokenStream) : Prop where
  items : now.items = (Lexer.ofString source).takeRest.1
  log : ∃ steps, now.log.toList = steps ++ [.parsed tree] ∧ (∀ event ∈ steps, event.isFinal = false) ∧
    List.Forall₂ (Node.ReportedBy (Node.NamedBy (wordsOf source))) (tree.innerNodes 0) (reductionsAfter 0 steps)

theorem sentence_records (source : String) (options : Options) :
    sentence.Meets (.ofString source options) (Completes source) (Stops source) := by
  have begins : (ofString source options).Underway source 0 :=
    ⟨hasTaken_ofString source options, Nat.zero_le _, nofun⟩
  unfold sentence sentenceBy
  refine (expression_records source 0 _ begins).andThen ?_
  intro tree now built
  refine (advance_takes built.underway.has).bind ?_ (fun _ _ => built.underway.stops_of_stumbles)
  intro last after taken
  obtain ⟨gives, _⟩ := taken
  split
  · rename_i isEnd
    apply meets_record
    apply meets_pure
    obtain ⟨reports, reductions, named⟩ := built.reports.read gives.reads
    refine ⟨?_, after.log.toList, Array.toList_push, gives.reads.steps built.underway.steps, ?_⟩
    · have taken := le_of_itemAt_end gives.item isEnd
      obtain ⟨behind, items, _⟩ := wordsOf_spec source
      rw [items_record, gives.taken.items]
      refine (List.append_nil _).trans (List.take_of_length_le ?_)
      rw [items, List.length_append, List.length_map, List.length_singleton]
      omega
    · have all : reductionsAfter 0 after.log.toList = reports := reductions
      rw [all]
      exact named
  · exact built.underway.stops_of_gives _ rfl gives

end Parser

private theorem takeRest_of_tokenize (source : String) (items : List Spanned)
    (tokenized : tokenize source = .ok items) : (Lexer.ofString source).takeRest.1 = items.map Except.ok := by
  obtain ⟨last, split, _, _, spec⟩ := wordsOf_spec source
  rw [tokenized] at spec
  cases last with
  | error cause => contradiction
  | ok item =>
    obtain rfl := Except.ok.inj spec
    rw [split, List.map_append, List.map_singleton]

private theorem tokens_of_steps (stream : TokenStream) (steps closing : List Event)
    (split : stream.log.toList = steps ++ closing) (silent : closing.filterMap Event.token? = []) :
    steps.filterMap Event.token? = stream.items.filterMap Except.toOption := by
  rw [TokenStream.items, ← tokens_of_items, split, List.filterMap_append, silent, List.append_nil]

/-- The log of a text that parses names each token of the text once and in order, and each
inner node of the tree behind the nodes inside it and behind its last token, with at most one
more token in between. The tree comes last. -/
theorem events_of_ok (source : String) (options : Options) (tree : Expr)
    (parsed : parseWith source options = .ok tree) : ∃ words place steps,
      tokenize source = .ok (words ++ [⟨.endOfInput, place⟩]) ∧
      words.map Spanned.token = tree.tokens ∧
      (Parse.run source options).log = steps ++ [.parsed tree] ∧
      (∀ event ∈ steps, event.isFinal = false) ∧
      steps.filterMap Event.token? = words ++ [⟨.endOfInput, place⟩] ∧
      List.Forall₂ (Node.ReportedBy (Node.NamedBy words)) (tree.innerNodes 0) (reductionsAfter 0 steps) := by
  obtain ⟨after, logged, outcome⟩ := run_meets source options _ _ (Parser.sentence_records source options)
  rw [parsed] at outcome
  obtain ⟨⟨place, tokenized⟩, derived, _⟩ := parseWith_ok source options tree parsed
  obtain ⟨items, steps, log, notFinal, reported⟩ := outcome
  refine ⟨wordsOf source, place, steps, tokenized, (derived.tokens_eq _ _ _).symm, logged.trans log, notFinal,
    ?_, reported⟩
  rw [tokens_of_steps after steps _ log rfl, items, takeRest_of_tokenize source _ tokenized,
    List.filterMap_map]
  exact List.filterMap_some

/-- Where a text does not parse, the log names the first few of its tokens, and last of all the
lexical error if it is one. -/
theorem events_of_error (source : String) (options : Options) (fault : Error)
    (failed : parseWith source options = .error fault) : ∃ steps,
      (Parse.run source options).log = steps ++ fault.closing ∧
      (∀ event ∈ steps, event.isFinal = false) ∧
      steps.filterMap Event.token? <+:
        (Lexer.ofString source).takeRest.1.filterMap Except.toOption := by
  obtain ⟨after, logged, outcome⟩ := run_meets source options _ _ (Parser.sentence_records source options)
  rw [failed] at outcome
  obtain ⟨items, steps, log, notFinal⟩ := outcome
  refine ⟨steps, logged.trans log, notFinal, ?_⟩
  have silent : fault.closing.filterMap Event.token? = [] := by
    cases fault <;> rfl
  rw [tokens_of_steps after steps _ log silent]
  exact items.filterMap _

end ExprLang
