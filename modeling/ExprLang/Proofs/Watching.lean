import ExprLang.Proofs.Verdicts

/-! How deep a parse goes. The parser is run under watch: where a step would leave the bounds
that the limit sets, an alarm is raised in its place. No text raises any, whatever they do, so
every parse keeps within the bounds. -/
namespace ExprLang.Parser
open TokenStream

/-- What is done in the place of a step that would leave the bounds: of an expression below the
limit, of one that would be open together with too many others, and of settling a tree that
reaches more than one level below the limit. -/
structure Alarms where
  deep : Parser Expr
  crowded : Parser Expr
  tall : Parser Unit

def Alarms.settle (alarms : Alarms) (height : Nat) (position : Position) : Parser Unit := fun stream =>
  if stream.depth + height ≤ stream.limit + 1 then Parser.settle height position stream
  else alarms.tall stream

/-- An expression under watch, with at most `levels` expressions open at once. -/
def watchedWithin (alarms : Alarms) : Nat → Parser Expr
  | 0, stream => alarms.crowded stream
  | levels + 1, stream =>
    if stream.depth ≤ stream.limit then
      expressionWith alarms.settle (watchedWithin alarms levels) stream
    else alarms.deep stream

section
variable {α β : Type} {now : TokenStream}

theorem agree_bind {first first' : Parser β} {next next' : β → Parser α}
    {middle : β → TokenStream → Prop} {faults : Error → TokenStream → Prop}
    (same : first' now = first now) (meets : first.Meets now middle faults)
    (goes : ∀ answer after, middle answer after → next' answer after = next answer after) :
    (first' >>= next') now = (first >>= next) now := by
  change EStateM.bind first' next' now = EStateM.bind first next now
  unfold EStateM.bind
  unfold Meets at meets
  rw [same]
  cases ran : first now with
  | ok answer after => rw [ran] at meets; exact goes answer after meets
  | error fault after => rfl

theorem agree_chain {step step' : Growing → Parser (Option Growing)} (kept : Growing → TokenStream → Prop)
    (steps : ∀ node now, kept node now → step' node now = step node now)
    (keeps : ∀ node now, kept node now → (step node).Meets now
      (fun found after => ∀ taller ∈ found, kept taller after) (fun _ _ => True))
    (first : Expr) (start : kept ⟨first, now.height⟩ now) : chain step' first now = chain step first now := by
  have grows (rounds : Nat) (node : Growing) (now : TokenStream) (start : kept node now) :
      grow step' rounds node now = grow step rounds node now := by
    induction rounds generalizing node now with
    | zero => rfl
    | succ rounds ih =>
      unfold grow
      refine agree_bind (steps node now start) (keeps node now start) ?_
      intro found after keptAfter
      cases found with
      | none => rfl
      | some taller => exact ih taller after (keptAfter taller rfl)
  exact grows now.limit ⟨first, now.height⟩ now start

end

structure AgreeBelow (inner inner' : Parser Expr) (stream : TokenStream) : Prop where
  reads : ReadsBelow inner stream
  same : ∀ now : TokenStream, now.depth = stream.depth + 1 → now.limit = stream.limit →
    now.depth ≤ now.limit → inner' now = inner now

structure AgreeBeside (level : Nat) (operand operand' : Parser Expr) (stream : TokenStream) : Prop where
  reads : ∀ now : TokenStream, now.depth = stream.depth → now.limit = stream.limit →
    Reads (.operand level) operand now
  same : ∀ now : TokenStream, now.depth = stream.depth → now.limit = stream.limit →
    operand' now = operand now

section
variable {inner inner' : Parser Expr} {start now : TokenStream}

private theorem AgreeBelow.nested {words : List Spanned} (agree : AgreeBelow inner inner' start)
    (reached : start.Reached words now) (room : start.depth < start.limit) :
    nested inner' now = nested inner now := by
  obtain ⟨deeper, within⟩ := reached.descended room
  unfold Parser.nested
  rw [agree.same now.descend deeper reached.limit within]

private theorem AgreeBelow.congr (agree : AgreeBelow inner inner' start) (depth : now.depth = start.depth)
    (limit : now.limit = start.limit) : AgreeBelow inner inner' now := by
  refine ⟨agree.reads.congr now depth limit, ?_⟩
  intro deeper down narrower within
  exact agree.same deeper (down.trans (congrArg (· + 1) depth)) (narrower.trans limit) within

private theorem AgreeBeside.congr {level : Nat} (agree : AgreeBeside level inner inner' start)
    (depth : now.depth = start.depth) (limit : now.limit = start.limit) :
    AgreeBeside level inner inner' now := by
  constructor
  · intro other sameDepth sameLimit
    exact agree.reads other (sameDepth.trans depth) (sameLimit.trans limit)
  · intro other sameDepth sameLimit
    exact agree.same other (sameDepth.trans depth) (sameLimit.trans limit)

end

section
variable {finish : Nat → Position → Parser Unit}
  (bounded : ∀ (now : TokenStream) height position, now.depth + height ≤ now.limit + 1 →
    finish height position now = settle height position now)
include bounded

private theorem agree_finish {α : Type} {now : TokenStream} (height : Nat) (position : Position)
    (next : Unit → Parser α) (room : now.depth + height ≤ now.limit + 1) :
    (finish height position >>= next) now = (settle height position >>= next) now :=
  agree_bind (bounded now height position room) (settle_meets height position now) (fun _ _ _ => rfl)

section
variable {inner inner' : Parser Expr} {start : TokenStream} (agree : AgreeBelow inner inner' start)
include agree

private theorem indexStep_agrees {words : List Spanned} {now : TokenStream} (base : Growing)
    (derived : start.Derived .target words base.tree now) (height : base.height = base.tree.height) :
    indexStep finish inner' base now = indexStep settle inner base now := by
  unfold indexStep
  refine agree_bind rfl (eat_meets .leftBracket now) ?_
  rintro found after ⟨same, outcome⟩
  cases found with
  | none => rfl
  | some bracket =>
    obtain ⟨kind, supply⟩ := outcome
    obtain ⟨token, position⟩ := bracket
    obtain rfl := eq_of_kind token .leftBracket (by simp [Token.kind]) kind
    obtain ⟨reached, holds⟩ :=
      derived.toReached.behind same supply (Phrase.holds_subscript _ _ derived.derives)
    refine agree_bind (agree.nested reached derived.depth_lt)
      (nested_meets reached _ inner agree.reads holds derived.depth_lt) ?_
    intro subscript stop gained
    refine agree_bind rfl (expect_meets .rightBracket stop) ?_
    rintro closing last ⟨_, _, sameClosing⟩
    obtain ⟨inside, _, reachedInside⟩ := gained.spelled
    have roomBase := derived.room
    have roomInside := gained.room
    apply agree_finish bounded
    rw [sameClosing.depth, sameClosing.height, sameClosing.limit, reachedInside.depth, reachedInside.limit,
      gained.height, height]
    omega

private theorem primaryWith_agrees (within : start.depth ≤ start.limit) :
    primaryWith finish inner' start = primaryWith settle inner start := by
  unfold primaryWith
  refine agree_bind rfl (advance_meets start) ?_
  rintro first after ⟨supply, _, same⟩
  have reached := (Reached.here start).taken same supply
  have room : after.depth + 1 ≤ after.limit + 1 := by
    rw [same.depth, same.limit]
    exact Nat.succ_le_succ within
  obtain ⟨token, position⟩ := first
  cases token with
  | number value => exact agree_finish bounded 1 position _ room
  | identifier name =>
    refine agree_bind (bounded after 1 position room)
      (settle_tree_meets reached .target (.operand Precedence.primary) (.var name) position (.name name)
        (.ofTarget _ _ (.name name))) ?_
    rintro _ final ⟨derived, _⟩
    refine agree_chain (fun node now =>
      (∃ words, start.Derived .target words node.tree now) ∧ node.height = node.tree.height) ?_ ?_ _ ?_
    · rintro node now ⟨⟨words, derived⟩, height⟩
      exact indexStep_agrees bounded agree node derived height
    · rintro node now ⟨⟨words, derived⟩, height⟩
      refine (indexStep_meets inner start now words node agree.reads derived height).mono ?_ (fun _ _ _ => trivial)
      rintro found last outcome taller ⟨⟩
      exact ⟨outcome.1, outcome.2.1⟩
    · exact ⟨⟨_, derived⟩, derived.height⟩
  | _ => rfl

private theorem primaryWith_beside (within : start.depth ≤ start.limit) :
    AgreeBeside Precedence.primary (primaryWith settle inner) (primaryWith finish inner') start := by
  constructor
  · intro now depth limit
    exact primaryWith_reads inner now (agree.congr depth limit).reads
  · intro now depth limit
    exact primaryWith_agrees bounded (agree.congr depth limit) (by rwa [depth, limit])

end

section
variable {level : Nat} {operand operand' : Parser Expr} {start : TokenStream}
  (looser : Precedence.assignment < level) (agree : AgreeBeside (level + 1) operand operand' start)
include agree

private theorem operatorStep_agrees {now : TokenStream} (left : Growing) (joined : Joined level start left now) :
    operatorStep finish level operand' left now = operatorStep settle level operand left now := by
  obtain ⟨⟨words, derived⟩, _, height⟩ := joined
  unfold operatorStep
  refine agree_bind rfl (peek_meets now) ?_
  rintro next after ⟨supply, ahead, same⟩
  have derivedAfter := derived.peeked same supply
  obtain ⟨token, position⟩ := next
  cases token with
  | operator op =>
    dsimp only
    split
    · rename_i sameLevel
      subst sameLevel
      refine agree_bind rfl (advance_ahead_meets after _ ahead fun _ _ => True) ?_
      rintro item middle ⟨rfl, supplyTaken, sameTaken⟩
      obtain ⟨reached, holds⟩ :=
        derivedAfter.toReached.behind sameTaken supplyTaken (Phrase.holds_rightOperand op _ _ derived.derives)
      refine agree_bind (agree.same middle reached.depth reached.limit)
        (held_meets reached _ _ operand holds (agree.reads middle reached.depth reached.limit)) ?_
      intro right last gained
      obtain ⟨more, _, reachedRight⟩ := gained.spelled
      have roomLeft := derived.room
      have roomRight := gained.room
      apply agree_finish bounded
      rw [reachedRight.depth, reachedRight.limit, gained.height, height]
      omega
    · rfl
  | _ => rfl

include looser

private theorem leftAssociative_agrees :
    leftAssociative finish level operand' start = leftAssociative settle level operand start := by
  unfold leftAssociative
  refine agree_bind (agree.same start rfl rfl)
    (held_meets (Reached.here start) _ _ operand (Phrase.holds_tighter level) (agree.reads start rfl rfl)) ?_
  intro first after gained
  obtain ⟨words, derived⟩ := gained.derived
  refine agree_chain (Joined level start) ?_ ?_ first ?_
  · intro node now joined
    exact operatorStep_agrees bounded agree node joined
  · intro node now joined
    refine (operatorStep_meets level operand start now node looser agree.reads joined).mono ?_ (fun _ _ _ => trivial)
    rintro found last outcome taller ⟨⟩
    exact outcome.1
  · exact ⟨⟨words, derived.toReached, .ofTighter _ _ _ derived.derives, derived.height, derived.room⟩,
      gained.ends, derived.height⟩

private theorem leftAssociative_beside :
    AgreeBeside level (leftAssociative settle level operand) (leftAssociative finish level operand') start := by
  constructor
  · intro now depth limit
    exact leftAssociative_reads level operand now looser (agree.congr depth limit).reads
  · intro now depth limit
    exact leftAssociative_agrees bounded looser (agree.congr depth limit)

end

theorem expressionWith_agrees {inner inner' : Parser Expr} {start : TokenStream}
    (agree : AgreeBelow inner inner' start) (within : start.depth ≤ start.limit) :
    expressionWith finish inner' start = expressionWith settle inner start := by
  unfold expressionWith
  refine agree_bind rfl (peek_meets start) ?_
  rintro first peeked ⟨supplyPeeked, _, samePeeked⟩
  have reachedPeeked := (Reached.here start).peeked samePeeked supplyPeeked
  have primaries := primaryWith_beside bounded agree within
  have products := leftAssociative_beside bounded (by decide) primaries
  have sums := leftAssociative_beside bounded (by decide) products
  have comparisons := leftAssociative_beside bounded (by decide) sums
  refine agree_bind (comparisons.same peeked samePeeked.depth samePeeked.limit)
    (held_meets reachedPeeked _ _ _ Phrase.holds_comparison
      (comparisons.reads peeked samePeeked.depth samePeeked.limit)) ?_
  intro target now gained
  obtain ⟨words, derived⟩ := gained.derived
  refine agree_bind rfl (eat_meets .assign now) ?_
  rintro found after ⟨same, outcome⟩
  cases found with
  | none => rfl
  | some equal =>
    obtain ⟨kind, supply⟩ := outcome
    obtain ⟨token, position⟩ := equal
    obtain rfl := eq_of_kind token .assign (by simp [Token.kind]) kind
    dsimp only
    split
    · rename_i lvalue
      have assigned := Derives.target_of_isLvalue _ _ _ derived.derives lvalue
      obtain ⟨reached, holds⟩ :=
        derived.toReached.behind same supply (Phrase.holds_value _ _ assigned)
      change (nested inner' >>= _) after = (nested inner >>= _) after
      refine agree_bind (agree.nested reached derived.depth_lt)
        (nested_meets reached .expression inner agree.reads holds derived.depth_lt) ?_
      intro value stop gainedValue
      obtain ⟨more, _, reachedValue⟩ := gainedValue.spelled
      have roomTarget := derived.room
      have roomValue := gainedValue.room
      apply agree_finish bounded
      rw [reachedValue.depth, reachedValue.limit, gainedValue.height, same.height, derived.height]
      omega
    · rfl

/-- A parser with a level for each expression that the limit allows to be open does not come to
the end of its levels. -/
theorem levels_suffice (attempt : Nat → Parser Expr)
    (opens : ∀ levels (now : TokenStream), now.depth ≤ now.limit →
      attempt (levels + 1) now = expressionWith finish (attempt levels) now)
    (levels others : Nat) (stream : TokenStream) (within : stream.depth ≤ stream.limit)
    (enough : stream.limit < stream.depth + levels) (enoughToo : stream.limit < stream.depth + others) :
    attempt levels stream = expressionWithin tooDeep others stream := by
  -- one level is used up by going one level deeper, so the sum stays above the limit
  induction levels generalizing others stream with
  | zero => omega
  | succ levels ih =>
    obtain ⟨others, rfl⟩ : ∃ fewer, others = fewer + 1 := Nat.exists_eq_succ_of_ne_zero (by omega)
    rw [opens levels stream within]
    apply expressionWith_agrees bounded _ within
    constructor
    · intro now deeper narrower below
      exact expressionWithin_reads tooDeep others now below (by omega)
    · intro now deeper narrower below
      exact ih others now below (by omega) (by omega)

private theorem expression_of_levels (attempt : Nat → Parser Expr)
    (opens : ∀ levels (now : TokenStream), now.depth ≤ now.limit →
      attempt (levels + 1) now = expressionWith finish (attempt levels) now)
    (levels : Nat) (stream : TokenStream) (within : stream.depth ≤ stream.limit)
    (enough : stream.limit < stream.depth + levels) : attempt levels stream = expression stream := by
  obtain ⟨levels, rfl⟩ : ∃ fewer, levels = fewer + 1 := Nat.exists_eq_succ_of_ne_zero (by omega)
  rw [opens levels stream within]
  apply expressionWith_agrees bounded _ within
  refine ⟨readsBelow_nestedExpression stream, ?_⟩
  intro now deeper narrower below
  exact levels_suffice bounded attempt opens levels now.limit now below (by omega) (by omega)

end

private theorem watchedWithin_succ (alarms : Alarms) (levels : Nat) (now : TokenStream)
    (within : now.depth ≤ now.limit) : watchedWithin alarms (levels + 1) now =
      expressionWith alarms.settle (watchedWithin alarms levels) now := by
  rw [watchedWithin, if_pos within]

private theorem Alarms.settle_within (alarms : Alarms) (now : TokenStream) (height : Nat) (position : Position)
    (room : now.depth + height ≤ now.limit + 1) :
    alarms.settle height position now = Parser.settle height position now := by
  rw [Alarms.settle, if_pos room]

private theorem agree_sentence (whole : Parser Expr) (stream : TokenStream)
    (same : whole stream = expression stream) :
    sentenceBy whole stream = sentence stream := by
  unfold sentence sentenceBy
  exact agree_bind same (expression_reads stream) (fun _ _ _ => rfl)

/-- With one more level than the limit has, a parse does the same whatever is done for an expression
beyond the levels. It goes down no deeper than the limit, opens no more expressions at once than it
has levels, and accounts for no tree that reaches more than one level below the limit: no alarm that
watches this is raised. -/
theorem sentence_raises_no_alarm (source : String) (options : Options) (levels : Nat)
    (enough : options.maxDepth < levels) :
    (∀ exhausted, sentenceBy (expressionWithin exhausted levels) (.ofString source options) =
      sentence (.ofString source options)) ∧
    ∀ alarms, sentenceBy (watchedWithin alarms levels) (.ofString source options) =
      sentence (.ofString source options) := by
  have within : (TokenStream.ofString source options).depth ≤ options.maxDepth := Nat.zero_le _
  have enoughHere : options.maxDepth < (TokenStream.ofString source options).depth + levels :=
    Nat.lt_add_left 0 enough
  constructor
  · intro exhausted
    apply agree_sentence
    exact expression_of_levels (fun _ _ _ _ => rfl) (expressionWithin exhausted) (fun _ _ _ => rfl)
      levels _ within enoughHere
  · intro alarms
    apply agree_sentence
    exact expression_of_levels alarms.settle_within _ (watchedWithin_succ alarms) levels _ within enoughHere

theorem sentence_raises_no_alarm_brackets :
    2 < 3 ∧
    (∀ exhausted, sentenceBy (expressionWithin exhausted 3) (.ofString "a[b[c[d[e" ⟨2⟩) =
      sentence (.ofString "a[b[c[d[e" ⟨2⟩)) ∧
    ∀ alarms, sentenceBy (watchedWithin alarms 3) (.ofString "a[b[c[d[e" ⟨2⟩) =
      sentence (.ofString "a[b[c[d[e" ⟨2⟩) := by
  have enough : 2 < 3 := by decide
  exact ⟨enough, sentence_raises_no_alarm "a[b[c[d[e" ⟨2⟩ 3 enough⟩

/-- The bound is reached: under a limit of two there are three expressions open at once, so with
two levels an alarm is raised. -/
example :
    let alarms : Alarms := ⟨throw (.parse (.unexpectedEndOfInput .start)),
      throw (.parse (.invalidAssignmentTarget .start)), throw (.parse (.nestingTooDeep 0 .start))⟩
    [3, 2].map (fun levels =>
      match sentenceBy (watchedWithin alarms levels) (.ofString "a[b[c[d[e" ⟨2⟩) with
      | .ok _ _ => none
      | .error fault _ => some fault) =
    [some (.parse (.nestingTooDeep 2 ⟨4, 1, 5⟩)), some (.parse (.invalidAssignmentTarget .start))] := by
  decide +kernel

end ExprLang.Parser
