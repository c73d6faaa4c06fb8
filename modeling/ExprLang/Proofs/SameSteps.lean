import ExprLang.Proofs.SideBySide

/-! The parsers of trees side by side. Those of the shorter text go along with those of
the longer one, round by round and level by level, and so do the parses of both texts. -/
namespace ExprLang

namespace Pairing

def Grown (pair : Pairing) (node : Parser.Growing) (found : Option Parser.Growing) (after : TokenStream) :
    Prop :=
  pair.Settled after ∧ ∀ taller ∈ found, node.height < taller.height ∧ taller.height ≤ pair.limit

def StepsAlike (pair : Pairing) (step step' : Parser.Growing → Parser (Option Parser.Growing)) : Prop :=
  ∀ node now other, pair.Near now other → pair.Settled now →
    pair.Follows (step node) (step' node) (fun found after _ => pair.Grown node found after) now other

section
variable {pair : Pairing} {now : TokenStream} {other : Option TokenStream}

private theorem settle_tree_follows (near : pair.Near now other) (height : Nat) (position : Position)
    (located : position.Locates pair.source) (positive : 0 < height) :
    pair.Follows (Parser.settle height position) (Parser.settle height position)
      (fun _ after _ => pair.Settled after ∧ height ≤ pair.limit) now other := by
  refine (settle_follows near height position located).mono ?_
  rintro _ after _ ⟨rfl, fits⟩
  exact ⟨⟨positive, fits⟩, fits⟩

theorem finish_follows {α : Type} (near : pair.Near now other) (height : Nat) (position : Position)
    (located : position.Locates pair.source) (positive : 0 < height) (event : Event) (answer : α) :
    pair.Follows
      (do Parser.settle height position; Parser.record event; return answer)
      (do Parser.settle height position; Parser.record event; return answer)
      (fun found after _ => found = answer ∧ pair.Settled after ∧ height ≤ pair.limit) now other := by
  refine (settle_tree_follows near height position located positive).bind ?_
  intro _ after ahead nearAfter finished
  refine (record_follows nearAfter event).bind ?_
  intro _ last late nearLast same
  refine follows_pure nearLast ⟨rfl, ?_, finished.2⟩
  rw [Settled, same]
  exact finished.1

private theorem finish_grown (near : pair.Near now other) (node taller : Parser.Growing) (position : Position)
    (located : position.Locates pair.source) (higher : node.height < taller.height) (event : Event) :
    pair.Follows
      (do Parser.settle taller.height position; Parser.record event; return some taller)
      (do Parser.settle taller.height position; Parser.record event; return some taller)
      (fun found after _ => pair.Grown node found after) now other := by
  have positive : 0 < taller.height := Nat.zero_lt_of_lt higher
  refine (finish_follows near _ position located positive event (some taller)).mono ?_
  rintro _ after _ ⟨rfl, settled, fits⟩
  refine ⟨settled, ?_⟩
  rintro _ ⟨⟩
  exact ⟨higher, fits⟩

private theorem grow_follows {step step' : Parser.Growing → Parser (Option Parser.Growing)}
    (steps : pair.StepsAlike step step') (rounds rounds' : Nat) (node : Parser.Growing)
    (near : pair.Near now other) (settled : pair.Settled now) (fewer : rounds ≤ rounds')
    (below : node.height ≤ pair.limit) (enough : pair.limit < rounds + node.height) :
    pair.Follows (Parser.grow step rounds node) (Parser.grow step' rounds' node)
      (fun _ after _ => pair.Settled after) now other := by
  -- the rounds of the first run do not run out, so none of the second one's matter
  induction rounds generalizing rounds' node now other with
  | zero => omega
  | succ rounds ih =>
    obtain ⟨rounds', rfl⟩ := Nat.exists_eq_add_of_le' (Nat.le_trans (Nat.le_add_left 1 rounds) fewer)
    refine (steps node now other near settled).bind ?_
    intro found after ahead nearAfter grown
    obtain ⟨settledAfter, taller⟩ := grown
    cases found with
    | none => exact follows_pure nearAfter settledAfter
    | some next =>
      obtain ⟨higher, fits⟩ := taller next rfl
      exact ih rounds' next nearAfter settledAfter (by omega) fits (by omega)

private theorem chain_follows {step step' : Parser.Growing → Parser (Option Parser.Growing)}
    (steps : pair.StepsAlike step step') (first : Expr) (near : pair.Near now other) (settled : pair.Settled now) :
    pair.Follows (Parser.chain step first) (Parser.chain step' first)
      (fun _ after _ => pair.Settled after) now other := by
  unfold Parser.chain
  apply follows_get
  rw [near.height]
  obtain ⟨positive, fits⟩ := settled
  have limits := near.limit_le
  rw [near.limit]
  exact grow_follows steps _ _ _ near ⟨positive, fits⟩ limits fits
    (Nat.lt_add_of_pos_right positive)

private theorem indexStep_alike {inner inner' : Parser Expr} (alike : pair.Alike inner inner') :
    pair.StepsAlike (Parser.indexStep Parser.settle inner) (Parser.indexStep Parser.settle inner') := by
  intro base now other near settled
  unfold Parser.indexStep
  refine (eat_follows near .leftBracket).bind ?_
  intro found after ahead nearAfter known
  obtain ⟨same, items⟩ := known
  cases found with
  | none =>
    refine follows_pure nearAfter ⟨?_, nofun⟩
    rwa [Settled, same]
  | some bracket =>
    have located := (items bracket rfl).2.1
    refine (nested_follows alike nearAfter).bind ?_
    intro subscript stop far nearStop _
    refine (expect_follows nearStop .rightBracket).bind ?_
    intro closing last late nearLast _
    apply follows_get
    rw [nearLast.height]
    exact finish_grown nearLast base ⟨.index base.tree subscript, max base.height last.height + 1⟩
      bracket.position located (Nat.lt_succ_of_le (Nat.le_max_left _ _)) _

private theorem primaryWith_alike {inner inner' : Parser Expr} (alike : pair.Alike inner inner') :
    pair.Alike (Parser.primaryWith Parser.settle inner) (Parser.primaryWith Parser.settle inner') := by
  intro now other near
  unfold Parser.primaryWith
  refine (advance_follows near).bind ?_
  intro first after ahead nearAfter known
  obtain ⟨token, position⟩ := first
  cases token with
  | number value =>
    refine (settle_tree_follows nearAfter 1 position known.1 Nat.one_pos).bind ?_
    intro _ final final' nearFinal finished
    exact follows_pure nearFinal finished.1
  | identifier name =>
    refine (settle_tree_follows nearAfter 1 position known.1 Nat.one_pos).bind ?_
    intro _ final final' nearFinal finished
    exact chain_follows (indexStep_alike alike) _ nearFinal finished.1
  | _ => exact follows_unexpected known nearAfter _

private theorem operatorStep_alike (precedence : Nat) {operand operand' : Parser Expr}
    (alike : pair.Alike operand operand') :
    pair.StepsAlike (Parser.operatorStep Parser.settle precedence operand)
      (Parser.operatorStep Parser.settle precedence operand') := by
  intro left now other near settled
  unfold Parser.operatorStep
  refine (peek_follows near).bind ?_
  intro next after ahead nearAfter known
  have stops : pair.Follows (pure none) (pure none) (fun found after _ => pair.Grown left found after)
      after ahead := by
    refine follows_pure nearAfter ⟨?_, nofun⟩
    rwa [Settled, known.2]
  obtain ⟨token, position⟩ := next
  cases token with
  | operator op =>
    dsimp only
    split
    · refine (advance_follows nearAfter).bind ?_
      intro _ middle between nearMiddle _
      refine (alike _ _ nearMiddle).bind ?_
      intro right last late nearLast _
      apply follows_get
      rw [nearLast.height]
      exact finish_grown nearLast left ⟨.binary op left.tree right, max left.height last.height + 1⟩
        position known.1.1 (Nat.lt_succ_of_le (Nat.le_max_left _ _)) _
    · exact stops
  | _ => exact stops

private theorem leftAssociative_alike (precedence : Nat) {operand operand' : Parser Expr}
    (alike : pair.Alike operand operand') :
    pair.Alike (Parser.leftAssociative Parser.settle precedence operand)
      (Parser.leftAssociative Parser.settle precedence operand') := by
  intro now other near
  unfold Parser.leftAssociative
  refine (alike now other near).bind ?_
  intro first after ahead nearAfter settled
  exact chain_follows (operatorStep_alike precedence alike) first nearAfter settled

private theorem comparisonWith_alike {inner inner' : Parser Expr} (alike : pair.Alike inner inner') :
    pair.Alike (Parser.comparisonWith Parser.settle inner) (Parser.comparisonWith Parser.settle inner') :=
  leftAssociative_alike _ (leftAssociative_alike _ (leftAssociative_alike _ (primaryWith_alike alike)))

private theorem expressionWith_alike {inner inner' : Parser Expr} (alike : pair.Alike inner inner') :
    pair.Alike (Parser.expressionWith Parser.settle inner) (Parser.expressionWith Parser.settle inner') := by
  intro now other near
  unfold Parser.expressionWith
  refine (peek_follows near).bind ?_
  intro start peeked ahead nearPeeked known
  refine (comparisonWith_alike alike _ _ nearPeeked).bind ?_
  intro target after behind nearAfter settled
  refine (eat_follows nearAfter .assign).bind ?_
  intro found middle between nearMiddle outcome
  obtain ⟨same, items⟩ := outcome
  cases found with
  | none =>
    refine follows_pure nearMiddle ?_
    rwa [Settled, same]
  | some equal =>
    obtain ⟨kind, located, atEnd⟩ := items equal rfl
    dsimp only
    split
    · apply follows_get
      rw [nearMiddle.height]
      refine (nested_follows alike nearMiddle).bind ?_
      intro value stop far nearStop _
      apply follows_get
      rw [nearStop.height]
      exact (finish_follows nearStop _ equal.position located (Nat.succ_pos _) _ _).mono
        (fun _ _ _ finished => finished.2.1)
    · refine follows_throw known.1.1 (fun ends => ?_)
      have isEnd := atEnd ends
      rw [Token.isEnd, kind] at isEnd
      contradiction

private theorem tooDeep_alike (second : Parser Expr) : pair.Alike Parser.tooDeep second := by
  intro now other near
  exact ⟨near.within.stands.position_locates near.within.whole, .inl trivial⟩

private theorem expressionWithin_alike (levels levels' : Nat) (fewer : levels ≤ levels') :
    pair.Alike (Parser.expressionWithin Parser.tooDeep levels)
      (Parser.expressionWithin Parser.tooDeep levels') := by
  induction levels generalizing levels' with
  | zero => exact fun now other near => (tooDeep_alike _ now other near).congr rfl (fun _ _ => rfl)
  | succ levels ih =>
    obtain ⟨levels', rfl⟩ := Nat.exists_eq_add_of_le' (Nat.le_trans (Nat.le_add_left 1 levels) fewer)
    intro now other near
    exact (expressionWith_alike (ih levels' (by omega)) now other near).congr rfl (fun _ _ => rfl)

private theorem nestedExpression_alike : pair.Alike Parser.nestedExpression Parser.nestedExpression := by
  intro now other near
  have lower := near.limit_le
  rw [← near.limit] at lower
  refine (expressionWithin_alike now.limit (other.getD now).limit lower now other near).congr rfl ?_
  intro early member
  rw [Option.mem_def.mp member]
  rfl

theorem sentence_follows (near : pair.Near now other) :
    pair.Follows Parser.sentence Parser.sentence (fun _ _ _ => True) now other := by
  unfold Parser.sentence Parser.expression
  refine (expressionWith_alike nestedExpression_alike now other near).bind ?_
  intro tree after ahead nearAfter _
  refine (advance_follows nearAfter).bind ?_
  intro item last late nearLast known
  split
  · refine (record_follows nearLast _).bind ?_
    intro _ done done' nearDone _
    exact follows_pure nearDone trivial
  · rename_i word
    exact follows_throw known.1 (fun ends => absurd (known.2 ends) word)

end

end Pairing

section
variable (source tail : String) (options wider : Options)
  (separated : ∀ c ∈ tail.toList.head?, isBlank c = true) (lower : options.maxDepth ≤ wider.maxDepth)
include lower

private theorem near_ofString : Pairing.Near ⟨source, tail.toList, options.maxDepth, separated⟩
    (.ofString source options) (some (.ofString (source ++ tail) wider)) := by
  refine ⟨⟨Lexer.standsIn_ofString source, nofun, nofun, rfl⟩, ?_⟩
  refine ⟨⟨?_, rfl, rfl, nofun⟩, rfl, rfl, rfl, lower⟩
  exact String.toList_append

/-- An error names a place of the text. It stands if the text goes on and the limit is
raised, unless it is for the end of the text or for the limit. -/
theorem parseWith_stands (fault : Error) (parsed : parseWith source options = .error fault) :
    fault.position.Locates source ∧
      (Pairing.Cut ⟨source, tail.toList, options.maxDepth, separated⟩ fault ∨
        parseWith (source ++ tail) wider = .error fault) := by
  have follows := Pairing.sentence_follows (near_ofString source tail options wider separated lower)
  unfold Pairing.Follows Parser.Meets at follows
  unfold parseWith Parse.run at parsed ⊢
  cases ran : Parser.sentence (.ofString source options) with
  | ok tree after =>
    rw [ran] at parsed
    contradiction
  | error cause after =>
    rw [ran] at follows parsed
    cases parsed
    refine ⟨follows.1, follows.2.imp_right ?_⟩
    rintro ⟨_, ⟨⟩, late, ranLonger⟩
    rw [ranLonger]

end

end ExprLang
