import ExprLang.Proofs.LeftSides
import ExprLang.Proofs.Verdicts

/-! Assignments to what cannot be assigned to. The error that refuses one stands for an `=`
behind a left side that is no target, and gives the place at which that begins; what follows
the `=` has not been read. -/
namespace ExprLang

/-- Whether an `=` behind the words would stand behind a left side that is complete, begins at
the place, and is nothing that can be assigned to. -/
structure Misassigns (before : List Spanned) (position : Position) : Prop where
  viable : Viable (tokensOf before)
  complete : ∃ tree, Derives (.operand Precedence.comparison) (tokensOf (leftSide before)) tree
  noTarget : ¬ ∃ tree, Derives .target (tokensOf (leftSide before)) tree
  starts : (leftSide before).head?.map Spanned.position = some position

private theorem length_le_of_viable (words taken between before behind : List Spanned) (word : Spanned)
    (splitTaken : words = taken ++ between) (split : words = before ++ word :: behind)
    (viable : Viable (tokensOf taken)) (stops : ¬ Viable (tokensOf before ++ [word.token])) :
    taken.length ≤ before.length := by
  by_contra longer
  obtain ⟨more, rfl, _⟩ | ⟨more, rfl, tail⟩ := List.append_eq_append_iff.mp (splitTaken.symm.trans split)
  · simp at longer
  · cases more with
    | nil => simp at longer
    | cons next more =>
      cases tail
      exact stops (viable_through _ before more word rfl viable)

/-- There is one token at which the tokens of a text cease to begin an expression. -/
theorem dead_end_unique (words before other behind more : List Spanned) (word next : Spanned)
    (split : words = before ++ word :: behind) (splitOther : words = other ++ next :: more)
    (viable : Viable (tokensOf before)) (stops : ¬ Viable (tokensOf before ++ [word.token]))
    (viableOther : Viable (tokensOf other)) (stopsOther : ¬ Viable (tokensOf other ++ [next.token])) :
    before = other ∧ word = next := by
  have shorter := length_le_of_viable words before _ other more next split splitOther viable stopsOther
  have longer := length_le_of_viable words other _ before behind word splitOther split viableOther stops
  obtain ⟨same, rest⟩ := List.append_inj (split.symm.trans splitOther) (Nat.le_antisymm shorter longer)
  exact ⟨same, (List.cons.inj rest).1⟩

private theorem isLvalue_of_target (tokens : List Token) (tree other : Expr)
    (derived : Derives (.operand Precedence.comparison) tokens tree) (target : Derives .target tokens other) :
    tree.isLvalue = true := by
  have whole : Derives (.operand Precedence.comparison) tokens other :=
    .ofTighter _ _ _ (.ofTighter _ _ _ (.ofTighter _ _ _ (.ofTarget _ _ target)))
  rw [Derives.unique tokens tree other (.ofComparison _ _ derived) (.ofComparison _ _ whole)]
  exact target.isLvalue

private theorem misassigns_of_parseWith (source : String) (options : Options) (position : Position)
    (parsed : parseWith source options = .error (.parse (.invalidAssignmentTarget position))) :
    ∃ before place behind, wordsOf source = before ++ ⟨.assign, place⟩ :: behind ∧
      Misassigns before position := by
  obtain ⟨last, _, isLast, _, outcome⟩ := parseWith_outcome source options
  rw [parsed] at outcome
  obtain ⟨taken, between, split, ⟨place, next⟩, viable, _, noTarget⟩ := outcome
  obtain ⟨behind, rfl⟩ := itemBehind_word between last ⟨.assign, place⟩ isLast next rfl
  obtain ⟨outer, side, down, tree, rfl, holds, derived, notLvalue, starts⟩ := noTarget
  obtain ⟨context, begins, _, _, ran⟩ := holds.runs [] (Reading.beginsIn_nothing _)
  have opens := Reading.opens_of_wanting (tokensOf outer) context begins ran
  have same := leftSide_append outer side opens tree derived
  refine ⟨outer ++ side, place, behind, split, viable, ?_, ?_, ?_⟩
  · rw [same]
    exact ⟨tree, derived⟩
  · rw [same]
    rintro ⟨other, target⟩
    rw [isLvalue_of_target _ tree other derived target] at notLvalue
    contradiction
  · rw [same]
    exact starts

theorem Misassigns.refuses {before : List Spanned} {position : Position}
    (misassigns : Misassigns before position) :
    (∃ context operand, (Reading.wanting []).run (tokensOf before) = some (.holding context operand)) ∧
      ¬ Viable (tokensOf before ++ [.assign]) := by
  obtain ⟨viable, ⟨tree, derived⟩, noTarget, _⟩ := misassigns
  obtain ⟨outer, split, opens⟩ := leftSide_split before
  have tokens : tokensOf before = tokensOf outer ++ tokensOf (leftSide before) := by
    rw [← List.map_append, ← split]
  have notLvalue : tree.isLvalue = false := by
    rw [Bool.eq_false_iff]
    intro lvalue
    exact noTarget ⟨tree, derived.target_of_isLvalue _ _ _ lvalue⟩
  obtain ⟨state, ran⟩ := Reading.run_of_viable _ viable
  rw [tokens, Reading.run_append] at ran
  obtain ⟨middle, ranOuter, ranSide⟩ := Option.bind_eq_some_iff.mp ran
  obtain ⟨context, rfl, begins⟩ := Reading.wanting_of_opens _ opens middle ranOuter
  obtain ⟨_, ranDerived, inner, operand, rfl, _⟩ := Reading.run_of_derives _ _ tree derived context begins
  constructor
  · refine ⟨inner, operand, ?_⟩
    rw [tokens, Reading.run_append, ranOuter]
    exact ranDerived
  · intro viableAssign
    obtain ⟨last, ranAll⟩ := Reading.run_of_viable _ viableAssign
    have refused := Phrase.refuses_assign _ tree derived notLvalue context begins
    rw [tokens, List.append_assoc, Reading.run_append, ranOuter] at ranAll
    exact absurd (refused.symm.trans ranAll) nofun

/-- A limit that leaves room for the tokens before an `=` leaves nothing else to be said of it. -/
theorem error_of_misassigns (source : String) (options : Options) (before behind : List Spanned)
    (place position : Position) (room : before.length ≤ options.maxDepth)
    (split : wordsOf source = before ++ ⟨.assign, place⟩ :: behind) (misassigns : Misassigns before position) :
    parseWith source options = .error (.parse (.invalidAssignmentTarget position)) := by
  obtain ⟨⟨context, operand, ran⟩, stops⟩ := misassigns.refuses
  have notViable : ¬ Viable (tokensOf (wordsOf source)) := fun viable =>
    stops (viable_through _ before behind _ split viable)
  cases parsed : parseWith source options with
  | ok tree =>
    have derived := (parseWith_ok source options tree parsed).2.1
    exact absurd (Phrase.viable_of_derives _ _ tree derived) notViable
  | error fault =>
    have explains := parseWith_error source options fault parsed
    obtain ⟨last, _, _, _, outcome⟩ := parseWith_outcome source options
    rw [parsed] at outcome
    obtain ⟨taken, between, splitTaken, faults⟩ := outcome
    cases fault with
    | lex cause => exact absurd explains.2 notViable
    | parse fault =>
      cases fault with
      | unexpectedEndOfInput finish => exact absurd explains.2.1 notViable
      | unexpectedToken expected found start =>
        obtain ⟨other, more, splitOther, viableOther, stopsOther, admits⟩ := explains
        obtain ⟨rfl, same⟩ := dead_end_unique _ before other behind more _ _ split splitOther
          misassigns.viable stops viableOther stopsOther
        cases same
        obtain ⟨_, _, _, _, _, beforeOperand⟩ := faults
        -- an `=` is found unexpected only before an operand, but one has been read
        have name := admits .identifier (beforeOperand rfl) (.identifier "") rfl
        obtain ⟨state, ranName⟩ := Reading.run_of_viable _ name
        rw [Reading.run_snoc _ _ _ _ ran] at ranName
        contradiction
      | invalidAssignmentTarget start =>
        obtain ⟨other, _, more, splitOther, found⟩ := misassigns_of_parseWith source options start parsed
        obtain ⟨rfl, _⟩ := dead_end_unique _ before other behind more _ _ split splitOther
          misassigns.viable stops found.viable found.refuses.2
        rw [Option.some.inj (misassigns.starts.symm.trans found.starts)]
      | nestingTooDeep bound start =>
        have shorter := length_le_of_viable _ taken between before behind _ splitTaken split faults.viable stops
        have long := faults.lt_length
        omega

/-- Where the limit leaves room for all tokens, the error stands for an `=` behind a left side
that is complete but no target, and nothing behind that `=` changes it. -/
theorem parseWith_invalidAssignmentTarget_iff (source : String) (options : Options)
    (room : (wordsOf source).length ≤ options.maxDepth) (position : Position) :
    (parseWith source options = .error (.parse (.invalidAssignmentTarget position)) ↔
      ∃ before place behind, wordsOf source = before ++ ⟨.assign, place⟩ :: behind ∧
        Misassigns before position) ∧
    ∀ before place behind, wordsOf source = before ++ ⟨.assign, place⟩ :: behind →
      Misassigns before position → ∀ other more, wordsOf other = before ++ ⟨.assign, place⟩ :: more →
        parseWith other options = .error (.parse (.invalidAssignmentTarget position)) := by
  have fits (before behind : List Spanned) (place : Position)
      (split : wordsOf source = before ++ ⟨.assign, place⟩ :: behind) : before.length ≤ options.maxDepth := by
    rw [split, List.length_append] at room
    omega
  refine ⟨⟨?_, ?_⟩, ?_⟩
  · intro parsed
    exact misassigns_of_parseWith source options position parsed
  · rintro ⟨before, place, behind, split, misassigns⟩
    exact error_of_misassigns source options before behind place position (fits _ _ _ split) split misassigns
  · intro before place behind split misassigns other more splitOther
    exact error_of_misassigns other options before more place position (fits _ _ _ split) splitOther misassigns

theorem parseWith_invalidAssignmentTarget_iff_inner :
    (wordsOf "a[b = c[0] + 1 = d").length ≤ 128 ∧
      ∃ before place behind, wordsOf "a[b = c[0] + 1 = d" = before ++ ⟨.assign, place⟩ :: behind ∧
        Misassigns before ⟨6, 1, 7⟩ := by
  have room : (wordsOf "a[b = c[0] + 1 = d").length ≤ 128 := by decide +kernel
  refine ⟨room, ?_⟩
  exact (parseWith_invalidAssignmentTarget_iff "a[b = c[0] + 1 = d" {} room ⟨6, 1, 7⟩).1.mp (by decide +kernel)

end ExprLang
