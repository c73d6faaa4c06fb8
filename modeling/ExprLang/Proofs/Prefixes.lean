import ExprLang.Proofs.Derivations

/-! Beginnings of phrases: tokens that a phrase can go on from, and the ways in which
it cannot. All of them carry over to a larger phrase that holds the phrase behind some
tokens of its own. -/
namespace ExprLang.Phrase

/-- Whether the phrase can begin with the tokens. -/
def Viable (phrase : Phrase) (tokens : List Token) : Prop :=
  ∃ rest tree, Derives phrase (tokens ++ rest) tree

/-- Whether the phrase, wherever it stands, cannot go on with `token` behind `tokens`. -/
def Refuses (phrase : Phrase) (tokens : List Token) (token : Token) : Prop :=
  ∀ context, phrase.BeginsIn context → (Reading.wanting context).run (tokens ++ [token]) = none

def Lacking (phrase : Phrase) (tokens : List Token) : Prop :=
  ∀ context state, phrase.BeginsIn context →
    (Reading.wanting context).run tokens = some state → state.Lacks context

/-- Whether every tree that holds the phrase at `depth`, or deeper, is taller than
`limit` once the phrase has begun with the tokens. -/
def Exceeds (phrase : Phrase) (depth limit : Nat) (tokens : List Token) : Prop :=
  ∀ context state, phrase.BeginsIn context → depth ≤ context.depth →
    (Reading.wanting context).run tokens = some state → limit < state.reach

/-- Behind the tokens `before`, the `outer` phrase can hold the `inner` one, which is
then read `down` levels deeper. -/
structure Holds (outer : Phrase) (before : List Token) (inner : Phrase) (down : Nat) : Prop where
  viable : ∀ tokens, inner.Viable tokens → outer.Viable (before ++ tokens)
  runs : ∀ context, outer.BeginsIn context → ∃ deeper, inner.BeginsIn deeper ∧
    context.depth + down ≤ deeper.depth ∧ context.brackets ≤ deeper.brackets ∧
    (Reading.wanting context).run before = some (.wanting deeper)

theorem Holds.refuses {outer inner : Phrase} {before : List Token} {down : Nat}
    (holds : outer.Holds before inner down) (tokens : List Token) (token : Token)
    (refuses : inner.Refuses tokens token) : outer.Refuses (before ++ tokens) token := by
  intro context begins
  obtain ⟨deeper, beginsDeeper, _, _, ran⟩ := holds.runs context begins
  rw [List.append_assoc, Reading.run_append, ran]
  exact refuses deeper beginsDeeper

theorem Holds.lacking {outer inner : Phrase} {before : List Token} {down : Nat}
    (holds : outer.Holds before inner down) (tokens : List Token)
    (lacking : inner.Lacking tokens) : outer.Lacking (before ++ tokens) := by
  intro context state begins ranAll
  obtain ⟨deeper, beginsDeeper, _, brackets, ran⟩ := holds.runs context begins
  rw [Reading.run_append, ran] at ranAll
  have lacks := lacking deeper state beginsDeeper ranAll
  cases state with
  | wanting inner => trivial
  | holding inner operand => exact Nat.lt_of_le_of_lt brackets lacks

theorem Holds.exceeds {outer inner : Phrase} {before : List Token} {down : Nat}
    (holds : outer.Holds before inner down) (depth limit : Nat) (tokens : List Token)
    (exceeds : inner.Exceeds (depth + down) limit tokens) :
    outer.Exceeds depth limit (before ++ tokens) := by
  intro context state begins deepEnough ranAll
  obtain ⟨deeper, beginsDeeper, depths, _, ran⟩ := holds.runs context begins
  rw [Reading.run_append, ran] at ranAll
  exact exceeds deeper state beginsDeeper (by omega) ranAll

theorem Holds.trans {outer middle inner : Phrase} {before more : List Token} {down further : Nat}
    (holds : outer.Holds before middle down) (inside : middle.Holds more inner further) :
    outer.Holds (before ++ more) inner (down + further) where
  viable := by
    intro tokens viable
    rw [List.append_assoc]
    exact holds.viable _ (inside.viable tokens viable)
  runs := by
    intro context begins
    obtain ⟨deeper, beginsDeeper, depths, brackets, ran⟩ := holds.runs context begins
    obtain ⟨deepest, beginsDeepest, depthsDeepest, bracketsDeepest, ranDeepest⟩ :=
      inside.runs deeper beginsDeeper
    refine ⟨deepest, beginsDeepest, by omega, Nat.le_trans brackets bracketsDeepest, ?_⟩
    rw [Reading.run_append, ran]
    exact ranDeepest

theorem holds_itself (phrase : Phrase) : phrase.Holds [] phrase 0 where
  viable := fun _ viable => viable
  runs := fun context begins => ⟨context, begins, Nat.le_refl _, Nat.le_refl _, rfl⟩

theorem holds_tighter (level : Nat) : Holds (.operand level) [] (.operand (level + 1)) 0 where
  viable := by
    rintro tokens ⟨rest, tree, derived⟩
    exact ⟨rest, tree, .ofTighter level _ tree derived⟩
  runs := by
    intro context begins
    exact ⟨context, context.openAt_of_le _ _ (Nat.le_succ level) begins, Nat.le_refl _, Nat.le_refl _, rfl⟩

theorem holds_comparison : Holds .expression [] (.operand Precedence.comparison) 0 where
  viable := by
    rintro tokens ⟨rest, tree, derived⟩
    exact ⟨rest, tree, .ofComparison _ tree derived⟩
  runs := by
    intro context begins
    exact ⟨context, begins, Nat.le_refl _, Nat.le_refl _, rfl⟩

theorem holds_rightOperand (op : BinaryOperator) (left : List Token) (leftTree : Expr)
    (derived : Derives (.operand op.precedence) left leftTree) :
    Holds (.operand op.precedence) (left ++ [.operator op]) (.operand (op.precedence + 1)) 0 where
  viable := by
    rintro tokens ⟨rest, tree, right⟩
    refine ⟨rest, .binary op leftTree tree, ?_⟩
    simpa using Derives.joined op left (tokens ++ rest) leftTree tree derived right
  runs := by
    intro context begins
    refine ⟨.operand op leftTree :: context, ?_, ?_, ?_, ?_⟩
    · exact Reading.beginsIn_operand op leftTree context
    · simp [Context.depth, Frame.depth]
    · simp [Context.brackets]
    · exact Reading.run_operator op left leftTree derived context begins

theorem holds_value (target : List Token) (targetTree : Expr)
    (derived : Derives .target target targetTree) :
    Holds .expression (target ++ [.assign]) .expression 1 where
  viable := by
    rintro tokens ⟨rest, tree, value⟩
    refine ⟨rest, .assign targetTree tree, ?_⟩
    simpa using Derives.assign target (tokens ++ rest) targetTree tree derived value
  runs := by
    intro context begins
    refine ⟨.value targetTree :: context, ?_, ?_, ?_, ?_⟩
    · exact Reading.beginsIn_value targetTree context
    · simp [Context.depth, Frame.depth, Nat.add_comm]
    · simp [Context.brackets]
    · exact Reading.run_assign target targetTree derived context begins

theorem holds_subscript (base : List Token) (baseTree : Expr)
    (derived : Derives .target base baseTree) :
    Holds (.operand Precedence.primary) (base ++ [.leftBracket]) .expression 1 where
  viable := by
    rintro tokens ⟨rest, tree, inside⟩
    refine ⟨rest ++ [.rightBracket], .index baseTree tree, .ofTarget _ _ ?_⟩
    simpa using Derives.element base (tokens ++ rest) baseTree tree derived inside
  runs := by
    intro context begins
    refine ⟨.subscript baseTree :: context, ?_, ?_, ?_, ?_⟩
    · exact Reading.beginsIn_subscript baseTree context
    · simp [Context.depth, Frame.depth, Nat.add_comm]
    · simp [Context.brackets]
    · exact Reading.run_leftBracket base baseTree derived context

theorem viable_of_derives (phrase : Phrase) (tokens : List Token) (tree : Expr)
    (derived : Derives phrase tokens tree) : phrase.Viable tokens := by
  refine ⟨[], tree, ?_⟩
  rwa [List.append_nil]

theorem exceeds_of_derives (phrase : Phrase) (depth limit : Nat) (tokens : List Token) (tree : Expr)
    (derived : Derives phrase tokens tree) (tall : limit < depth + tree.height) :
    phrase.Exceeds depth limit tokens := by
  intro context state begins deepEnough ran
  obtain ⟨_, ranDerived, behind⟩ := Reading.run_of_derives phrase tokens tree derived context begins
  cases ran.symm.trans ranDerived
  rw [Reading.reach_behind phrase context tree state behind]
  have rises := context.depth_add_le_rise tree.height
  omega

theorem refuses_primary (token : Token) (notName : token.kind ≠ .identifier)
    (notNumber : token.kind ≠ .number) : (operand Precedence.primary).Refuses [] token := by
  intro context begins
  cases token with
  | identifier name => exact absurd rfl notName
  | number value => exact absurd rfl notNumber
  | _ => rfl

theorem lacking_nil (phrase : Phrase) : phrase.Lacking [] := by
  intro context state begins ran
  cases ran
  trivial

theorem refuses_assign (left : List Token) (leftTree : Expr)
    (derived : Derives (.operand Precedence.comparison) left leftTree)
    (notLvalue : leftTree.isLvalue = false) : expression.Refuses left .assign := by
  intro context begins
  obtain ⟨state, ran, behind⟩ := Reading.run_of_derives _ left leftTree derived context begins
  rw [Reading.run_snoc _ state _ _ ran, Reading.step_assign context leftTree state begins behind,
    notLvalue]
  rfl

section
variable (base : List Token) (baseTree : Expr) (inside : List Token) (insideTree : Expr)

private theorem run_inside (indexed : Derives .target base baseTree)
    (bracketed : Derives .expression inside insideTree) (context : Context) :
    ∃ state, (Reading.wanting context).run (base ++ [.leftBracket] ++ inside) = some state ∧
      Reading.Behind .expression (.subscript baseTree :: context) insideTree state := by
  rw [Reading.run_append, Reading.run_leftBracket base baseTree indexed context]
  exact Reading.run_of_derives .expression inside insideTree bracketed _
    (Reading.beginsIn_subscript baseTree context)

theorem lacking_inside (indexed : Derives .target base baseTree)
    (bracketed : Derives .expression inside insideTree) :
    (operand Precedence.primary).Lacking (base ++ [.leftBracket] ++ inside) := by
  intro context state begins ran
  obtain ⟨_, ranInside, inner, last, rfl, closed⟩ :=
    run_inside base baseTree inside insideTree indexed bracketed context
  cases ran.symm.trans ranInside
  rw [Reading.Lacks, ← inner.brackets_close expression.level last, closed, Context.brackets_close]
  simp [Context.brackets, Frame.brackets]

theorem refuses_inside (indexed : Derives .target base baseTree)
    (bracketed : Derives .expression inside insideTree) (token : Token)
    (ends : expression.goesOn insideTree token = false) (noBracket : token ≠ .rightBracket) :
    (operand Precedence.primary).Refuses (base ++ [.leftBracket] ++ inside) token := by
  intro context begins
  obtain ⟨state, ran, behind⟩ := run_inside base baseTree inside insideTree indexed bracketed context
  rw [Reading.run_snoc _ state _ _ ran]
  exact Reading.step_behind_expression _ insideTree state token behind ends (.inl noBracket)

theorem derives_element (indexed : Derives .target base baseTree)
    (bracketed : Derives .expression inside insideTree) :
    Derives .target (base ++ [.leftBracket] ++ inside ++ [.rightBracket]) (.index baseTree insideTree) := by
  simpa using Derives.element base inside baseTree insideTree indexed bracketed

end

end ExprLang.Phrase
