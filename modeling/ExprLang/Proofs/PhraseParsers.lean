import ExprLang.Proofs.Progress

/-! What the parser of each phrase answers: a tree that the tokens taken derive, up to
a token that no longer belongs to the phrase, or an error that says why the phrase
cannot go on. -/
namespace ExprLang.Parser
open TokenStream

private theorem accepts_target (start now : TokenStream) (words : List Spanned) (tree : Expr)
    (derived : start.Derived .target words tree now)
    (ends : ∀ item, now.supply.head = .ok item → item.token.kind ≠ .leftBracket) :
    start.Accepts (.operand Precedence.primary) tree now := by
  refine ⟨⟨words, derived.toReached, .ofTarget _ _ derived.derives, derived.height, derived.room⟩, ?_⟩
  intro item next
  have notBracket := ends item next
  cases token : item.token with
  | operator op => cases op <;> rfl
  | leftBracket => rw [token] at notBracket; contradiction
  | _ => rfl

theorem eq_of_kind (token bare : Token) (isBare : bare.kind ≠ .identifier ∧ bare.kind ≠ .number)
    (same : token.kind = bare.kind) : token = bare := by
  cases token <;> cases bare <;> simp_all [Token.kind]

section
variable (start now stop after : TokenStream) (words inside : List Spanned) (base subscript : Expr)
  (before : List Token) (opened : tokensOf words = before ++ [.leftBracket])
  (indexed : Derives .target before base) (bracketed : Derives .expression (tokensOf inside) subscript)
include opened indexed bracketed

private theorem derives_index (closing : Spanned) (kind : closing.token.kind = .rightBracket) :
    Derives .target (tokensOf (words ++ inside ++ [closing])) (.index base subscript) := by
  have closes := eq_of_kind closing.token .rightBracket (by simp [Token.kind]) kind
  have tokens : tokensOf (words ++ inside ++ [closing]) =
      before ++ [.leftBracket] ++ tokensOf inside ++ [.rightBracket] := by
    simp only [tokensOf, List.map_append, List.map_singleton, closes] at opened ⊢
    rw [opened]
  rw [tokens]
  exact Phrase.derives_element before base _ subscript indexed bracketed

private theorem rejects_of_unclosed (fault : Error) (reached : start.Reached (words ++ inside) stop)
    (ends : stop.Ends .expression subscript)
    (fails : stop.Breaks fault after ∨ ∃ item, item.token.kind ≠ .rightBracket ∧
      fault = unexpected item [.rightBracket] ∧ stop.supply = .cons (.ok item) after.supply ∧
      stop.SameAccount after) :
    start.Rejects (.operand Precedence.primary) fault after := by
  have tokens : tokensOf (words ++ inside) = before ++ [.leftBracket] ++ tokensOf inside := by
    rw [tokensOf, List.map_append, ← opened]
  have whole : ∀ token, token.kind ∈ [TokenKind.rightBracket] →
      Phrase.Viable (.operand Precedence.primary) (before ++ [.leftBracket] ++ tokensOf inside ++ [token]) := by
    intro token kind
    rw [eq_of_kind token .rightBracket (by simp [Token.kind]) (List.mem_singleton.mp kind)]
    have element := Phrase.derives_element before base _ subscript indexed bracketed
    exact Phrase.viable_of_derives _ _ _ (.ofTarget _ _ element)
  have viable : Phrase.Viable (.operand Precedence.primary) (tokensOf (words ++ inside)) := by
    obtain ⟨rest, tree, derived⟩ := whole .rightBracket (List.mem_singleton.mpr rfl)
    exact ⟨.rightBracket :: rest, tree, by rw [tokens]; simpa using derived⟩
  rcases fails with breaks | ⟨item, other, rfl, supply, same⟩
  · exact reached.rejects_of_breaks _ viable fault breaks
  · refine ⟨⟨words ++ inside, stop.supply, reached.takes, ?_⟩, same.depth.trans reached.depth⟩
    have next : stop.supply.head = .ok item := congrArg Stream'.head supply
    rw [next]
    apply blames_unexpected _ _ _ _ _ _ viable
    · rw [tokens]
      exact Phrase.lacking_inside before base _ subscript indexed bracketed
    · rw [tokens]
      apply Phrase.refuses_inside before base _ subscript indexed bracketed _ (ends item next)
      intro bracket
      rw [bracket] at other
      contradiction
    · rw [tokens]
      exact whole
    · intro assign
      have ended := ends item next
      rw [assign] at ended
      contradiction

end

theorem indexStep_meets (inner : Parser Expr) (start now : TokenStream) (words : List Spanned)
    (base : Growing) (reads : ReadsBelow inner start)
    (derived : start.Derived .target words base.tree now) (height : base.height = base.tree.height) :
    (indexStep settle inner base).Meets now
      (fun found after => match found with
        | some taller => (∃ more, start.Derived .target more taller.tree after) ∧
            taller.height = taller.tree.height ∧ base.height < taller.height
        | none => start.Accepts (.operand Precedence.primary) base.tree after)
      (start.Rejects (.operand Precedence.primary)) := by
  have viable := Phrase.viable_of_derives _ _ _ (Derives.ofTarget _ _ derived.derives)
  unfold indexStep
  refine (eat_meets .leftBracket now).bind ?_ (fun fault _ => derived.rejects_of_breaks _ viable fault)
  intro found after outcome
  obtain ⟨same, outcome⟩ := outcome
  cases found with
  | none =>
    obtain ⟨supply, other⟩ := outcome
    exact accepts_target start after words base.tree (derived.peeked same supply) other
  | some bracket =>
    obtain ⟨kind, supply⟩ := outcome
    obtain ⟨token, position⟩ := bracket
    obtain rfl := eq_of_kind token .leftBracket (by simp [Token.kind]) kind
    have opened := tokensOf_snoc words .leftBracket position
    obtain ⟨reached, holds⟩ :=
      derived.toReached.behind same supply (Phrase.holds_subscript _ _ derived.derives)
    refine (nested_meets reached _ inner reads holds derived.depth_lt).andThen ?_
    intro subscript stop gained
    obtain ⟨inside, bracketed, reachedInside⟩ := gained.spelled
    refine (expect_meets .rightBracket stop).bind ?_ (fun fault last => rejects_of_unclosed start stop last
      _ inside base.tree subscript (tokensOf words) opened derived.derives bracketed fault reachedInside gained.ends)
    intro closing last closed
    obtain ⟨kindClosing, supplyClosing, sameClosing⟩ := closed
    have derives := derives_index _ inside base.tree subscript (tokensOf words) opened derived.derives
      bracketed closing kindClosing
    have heights : max base.height last.height + 1 = (Expr.index base.tree subscript).height := by
      rw [height, sameClosing.height, gained.height]
      rfl
    apply meets_get
    rw [heights]
    apply finish_tree_meets (reachedInside.taken sameClosing supplyClosing) .target _ _ position _ _ _
      derives (.ofTarget _ _ derives)
    intro final finished _
    refine ⟨⟨_, finished⟩, rfl, ?_⟩
    rw [height]
    exact Nat.lt_succ_of_le (Nat.le_max_left _ _)

private theorem ends_primary_literal (value : Int64) (now : TokenStream) :
    now.Ends (.operand Precedence.primary) (.literal value) := by
  intro item _
  cases token : item.token with
  | operator op => cases op <;> rfl
  | _ => rfl

private theorem viable_primary (token : Token) (kind : token.kind ∈ [TokenKind.identifier, .number]) :
    Phrase.Viable (.operand Precedence.primary) [token] := by
  cases token with
  | identifier name => exact Phrase.viable_of_derives _ _ _ (.ofTarget _ _ (.name name))
  | number value => exact Phrase.viable_of_derives _ _ _ (.number value)
  | _ => simp [Token.kind] at kind

theorem primaryWith_reads (inner : Parser Expr) (stream : TokenStream)
    (reads : ReadsBelow inner stream) :
    Reads (.operand Precedence.primary) (primaryWith settle inner) stream := by
  have viable : Phrase.Viable (.operand Precedence.primary) [] := ⟨[.number 0], .literal 0, .number 0⟩
  unfold primaryWith
  refine (advance_meets stream).bind ?_ (fun fault _ => (Reached.here stream).rejects_of_breaks _ viable fault)
  intro first after taken
  obtain ⟨supply, _, same⟩ := taken
  have reached := (Reached.here stream).taken same supply
  obtain ⟨token, position⟩ := first
  have refused (notName : token.kind ≠ .identifier) (notNumber : token.kind ≠ .number) :
      stream.Rejects (.operand Precedence.primary)
        (unexpected ⟨token, position⟩ [.identifier, .number]) after := by
    refine ⟨⟨[], stream.supply, rfl, ?_⟩, same.depth⟩
    rw [supply]
    exact blames_unexpected _ _ _ [] ⟨token, position⟩ _ viable (Phrase.lacking_nil _)
      (Phrase.refuses_primary token notName notNumber) viable_primary (fun _ => List.mem_cons_self ..)
  cases token with
  | number value =>
    refine (settle_tree_meets reached _ _ (.literal value) position (.number value) (.number value)).andThen ?_
    intro _ final settled
    exact ⟨⟨_, settled.1⟩, ends_primary_literal value final⟩
  | identifier name =>
    refine (settle_tree_meets reached _ _ (.var name) position (.name name) (.ofTarget _ _ (.name name))).andThen ?_
    intro _ final settled
    -- each round of the loop leaves a longer target
    apply chain_meets (indexStep settle inner) (fun node now =>
      (∃ words, stream.Derived .target words node.tree now) ∧ node.height = node.tree.height)
    · intro node now kept
      obtain ⟨⟨words, derived⟩, height⟩ := kept
      have room := derived.room
      rw [height, settled.1.limit]
      omega
    · intro node now kept
      obtain ⟨⟨words, derived⟩, height⟩ := kept
      refine (indexStep_meets inner stream now words node reads derived height).mono ?_ (fun _ _ rejects => rejects)
      intro found last outcome
      cases found with
      | none => exact outcome
      | some taller => exact ⟨⟨outcome.1, outcome.2.1⟩, outcome.2.2⟩
    · exact ⟨⟨_, settled.1⟩, settled.1.height⟩
    · rw [settled.1.height]
      exact Expr.height_pos _
  | _ => exact meets_throw (refused (by simp [Token.kind]) (by simp [Token.kind]))

def Joined (level : Nat) (start : TokenStream) (node : Growing) (now : TokenStream) : Prop :=
  (∃ words, start.Derived (.operand level) words node.tree now) ∧
    now.Ends (.operand (level + 1)) node.tree ∧ node.height = node.tree.height

private theorem accepts_joined (level : Nat) (start now : TokenStream) (node : Growing)
    (looser : Precedence.assignment < level) (joined : Joined level start node now)
    (ends : ∀ item op, now.supply.head = .ok item → item.token = .operator op → op.precedence ≠ level) :
    start.Accepts (.operand level) node.tree now := by
  obtain ⟨derived, endsTighter, _⟩ := joined
  refine ⟨derived, ?_⟩
  intro item next
  have tighter := endsTighter item next
  cases token : item.token with
  | operator op =>
    have other := ends item op next token
    rw [token, Phrase.not_goesOn_operator] at tighter
    exact (Phrase.not_goesOn_operator _ _ _).mpr (Nat.lt_of_le_of_ne (Nat.le_of_lt_succ tighter) other)
  | assign => exact (Phrase.not_goesOn_assign _ _).mpr looser
  | leftBracket =>
    rw [token] at tighter
    exact tighter
  | _ => rfl

theorem operatorStep_meets (level : Nat) (operand : Parser Expr) (start now : TokenStream)
    (left : Growing) (looser : Precedence.assignment < level)
    (reads : ∀ middle, middle.depth = start.depth → middle.limit = start.limit →
      Reads (.operand (level + 1)) operand middle)
    (joined : Joined level start left now) :
    (operatorStep settle level operand left).Meets now
      (fun found after => match found with
        | some taller => Joined level start taller after ∧ left.height < taller.height
        | none => start.Accepts (.operand level) left.tree after)
      (start.Rejects (.operand level)) := by
  obtain ⟨⟨words, derived⟩, endsTighter, height⟩ := joined
  have viable := Phrase.viable_of_derives _ _ _ derived.derives
  unfold operatorStep
  refine (peek_meets now).bind ?_ (fun fault _ => derived.rejects_of_breaks _ viable fault)
  intro next after peeked
  obtain ⟨supply, ahead, same⟩ := peeked
  have items := supply_of_lookahead after next ahead
  have derivedAfter := derived.peeked same supply
  obtain ⟨token, position⟩ := next
  have stops (other : ∀ op, token = .operator op → op.precedence ≠ level) :
      start.Accepts (.operand level) left.tree after := by
    apply accepts_joined level start after left looser ⟨⟨words, derivedAfter⟩, endsTighter.peeked supply, height⟩
    intro item op next isOperator
    rw [items] at next
    cases next
    exact other op isOperator
  cases token with
  | operator op =>
    dsimp only
    split
    · rename_i sameLevel
      subst sameLevel
      refine (advance_ahead_meets after _ ahead _).andThen ?_
      intro item middle taken
      obtain ⟨rfl, supplyTaken, sameTaken⟩ := taken
      obtain ⟨reached, holds⟩ :=
        derivedAfter.toReached.behind sameTaken supplyTaken (Phrase.holds_rightOperand op _ _ derived.derives)
      refine (held_meets reached _ _ operand holds (reads middle reached.depth reached.limit)).andThen ?_
      intro right last gained
      obtain ⟨more, derivesRight, reachedRight⟩ := gained.spelled
      have derives : Derives (.operand op.precedence)
          (tokensOf (words ++ [⟨.operator op, position⟩] ++ more)) (.binary op left.tree right) := by
        have both := Derives.joined op _ _ _ _ derived.derives derivesRight
        simpa [tokensOf] using both
      have heights : max left.height last.height + 1 = (Expr.binary op left.tree right).height := by
        rw [height, gained.height]
        rfl
      apply meets_get
      rw [heights]
      apply finish_tree_meets reachedRight _ _ _ position _ _ _ derives derives
      intro final finished supplyFinal
      refine ⟨⟨⟨_, finished⟩, (gained.ends.around rfl).peeked supplyFinal, rfl⟩, ?_⟩
      rw [height]
      exact Nat.lt_succ_of_le (Nat.le_max_left _ _)
    · rename_i otherLevel
      apply meets_pure
      apply stops
      intro other isOther
      cases isOther
      exact otherLevel
  | _ =>
    apply meets_pure
    apply stops
    intro op isOperator
    contradiction

theorem leftAssociative_reads (level : Nat) (operand : Parser Expr) (stream : TokenStream)
    (looser : Precedence.assignment < level)
    (reads : ∀ middle, middle.depth = stream.depth → middle.limit = stream.limit →
      Reads (.operand (level + 1)) operand middle) :
    Reads (.operand level) (leftAssociative settle level operand) stream := by
  unfold leftAssociative
  refine (held_meets (Reached.here stream) _ _ operand (Phrase.holds_tighter level) (reads stream rfl rfl)).andThen ?_
  intro first after gained
  obtain ⟨words, derived⟩ := gained.derived
  apply chain_meets (operatorStep settle level operand) (Joined level stream)
  · intro node now joined
    obtain ⟨⟨more, derivedMore⟩, _, height⟩ := joined
    have room := derivedMore.room
    rw [height, derived.limit]
    omega
  · intro node now joined
    exact operatorStep_meets level operand stream now node looser reads joined
  · exact ⟨⟨words, derived.toReached, .ofTighter _ _ _ derived.derives, derived.height, derived.room⟩,
      gained.ends, derived.height⟩
  · rw [derived.height]
    exact first.height_pos

section
variable (inner : Parser Expr) (stream : TokenStream) (reads : ReadsBelow inner stream)
include reads

theorem multiplicativeWith_reads :
    Reads (.operand Precedence.multiplicative) (multiplicativeWith settle inner) stream :=
  leftAssociative_reads _ _ stream (by decide)
    (fun middle depth limit => primaryWith_reads inner middle (reads.congr middle depth limit))

theorem additiveWith_reads : Reads (.operand Precedence.additive) (additiveWith settle inner) stream :=
  leftAssociative_reads _ _ stream (by decide)
    (fun middle depth limit => multiplicativeWith_reads inner middle (reads.congr middle depth limit))

theorem comparisonWith_reads : Reads (.operand Precedence.comparison) (comparisonWith settle inner) stream :=
  leftAssociative_reads _ _ stream (by decide)
    (fun middle depth limit => additiveWith_reads inner middle (reads.congr middle depth limit))

end

private theorem accepts_comparison (start now : TokenStream) (words : List Spanned) (tree : Expr)
    (derived : start.Derived (.operand Precedence.comparison) words tree now)
    (ends : now.Ends (.operand Precedence.comparison) tree)
    (notAssign : ∀ item, now.supply.head = .ok item → item.token.kind ≠ .assign) :
    start.Accepts .expression tree now := by
  refine ⟨⟨words, derived.toReached, .ofComparison _ _ derived.derives, derived.height, derived.room⟩, ?_⟩
  intro item next
  have other := notAssign item next
  have tighter := ends item next
  cases token : item.token with
  | operator op =>
    rw [token, Phrase.not_goesOn_operator] at tighter
    cases op <;> exact absurd tighter (by decide)
  | assign => rw [token] at other; contradiction
  | leftBracket => rw [token] at tighter; exact tighter
  | _ => rfl

theorem expressionWith_reads (inner : Parser Expr) (stream : TokenStream)
    (reads : ReadsBelow inner stream) : Reads .expression (expressionWith settle inner) stream := by
  have viable : Phrase.Viable .expression [] :=
    ⟨[.number 0], .literal 0, .ofComparison _ _
      (.ofTighter _ _ _ (.ofTighter _ _ _ (.ofTighter _ _ _ (.number 0))))⟩
  unfold expressionWith
  refine (peek_meets stream).bind ?_ (fun fault _ => (Reached.here stream).rejects_of_breaks _ viable fault)
  intro first peeked looked
  obtain ⟨supplyPeeked, ahead, samePeeked⟩ := looked
  have reachedPeeked := (Reached.here stream).peeked samePeeked supplyPeeked
  have readsPeeked := reads.congr peeked samePeeked.depth samePeeked.limit
  refine (held_meets reachedPeeked _ _ _ Phrase.holds_comparison
    (comparisonWith_reads inner peeked readsPeeked)).andThen ?_
  intro target now gained
  obtain ⟨words, derived⟩ := gained.derived
  have viableTarget := Phrase.viable_of_derives _ _ _ (Derives.ofComparison _ _ derived.derives)
  refine (eat_meets .assign now).bind ?_ (fun fault _ => derived.rejects_of_breaks _ viableTarget fault)
  intro found after outcome
  obtain ⟨same, outcome⟩ := outcome
  cases found with
  | none =>
    obtain ⟨supply, other⟩ := outcome
    exact accepts_comparison stream after words target (derived.peeked same supply)
      (gained.ends.peeked supply) other
  | some equal =>
    obtain ⟨kind, supply⟩ := outcome
    obtain ⟨token, position⟩ := equal
    obtain rfl := eq_of_kind token .assign (by simp [Token.kind]) kind
    dsimp only
    split
    · rename_i lvalue
      have assigned := Derives.target_of_isLvalue _ _ _ derived.derives lvalue
      obtain ⟨reached, holds⟩ :=
        derived.toReached.behind same supply (Phrase.holds_value _ _ assigned)
      apply meets_get
      refine (nested_meets reached _ inner reads holds derived.depth_lt).andThen ?_
      intro value stop gainedValue
      obtain ⟨more, derivesValue, reachedValue⟩ := gainedValue.spelled
      have derives : Derives .expression (tokensOf (words ++ [⟨.assign, position⟩] ++ more))
          (.assign target value) := by
        have both := Derives.assign _ _ _ _ assigned derivesValue
        simpa [tokensOf] using both
      have heights : max after.height stop.height + 1 = (Expr.assign target value).height := by
        rw [same.height, derived.height, gainedValue.height]
        rfl
      apply meets_get
      rw [heights]
      apply finish_tree_meets reachedValue _ _ _ position _ _ _ derives derives
      intro final finished supplyFinal
      exact ⟨⟨_, finished⟩, (gainedValue.ends.around rfl).peeked supplyFinal⟩
    · rename_i notLvalue
      have noTarget := Bool.eq_false_iff.mpr notLvalue
      apply meets_throw
      refine ⟨⟨words, now.supply, derived.takes, ?_⟩, same.depth.trans derived.depth⟩
      rw [supply]
      refine ⟨⟨position, rfl⟩, viableTarget, Phrase.refuses_assign _ target derived.derives noTarget,
        [], words, 0, target, rfl, Phrase.holds_itself _, derived.derives, noTarget, ?_⟩
      -- the place was looked up before the left side was read
      cases words with
      | nil => exact absurd rfl derived.derives.ne_nil
      | cons word words =>
        have next := supply_of_lookahead peeked first ahead
        rw [supplyPeeked, derived.takes] at next
        cases congrArg Stream'.head next
        rfl

/-- The limit leaves a level for every expression that a tree of its height can hold. -/
theorem expressionWithin_reads (exhausted : Parser Expr) (levels : Nat) (stream : TokenStream)
    (within : stream.depth ≤ stream.limit) (enough : stream.limit < stream.depth + levels) :
    Reads .expression (expressionWithin exhausted levels) stream := by
  -- an expression one level down is one level deeper, so the sum stays above the limit
  induction levels generalizing stream with
  | zero => omega
  | succ levels ih =>
    apply expressionWith_reads
    intro now deeper narrower below
    exact ih now below (by omega)

theorem readsBelow_nestedExpression (stream : TokenStream) : ReadsBelow nestedExpression stream := by
  intro now deeper _ within
  exact expressionWithin_reads tooDeep now.limit now within (by omega)

theorem expression_reads (stream : TokenStream) : Reads .expression expression stream :=
  expressionWith_reads nestedExpression stream (readsBelow_nestedExpression stream)

end ExprLang.Parser
