import ExprLang.Proofs.Verdicts

/-! Where errors stand. As long as the limit leaves room for all tokens, an error is
the lexical one only if the tokens before it begin an expression, and otherwise names
the first token behind which no expression goes on. -/
namespace ExprLang

/-- Errors have the correct-prefix property: what comes before an error could have
gone on, and what goes up to its token could not. -/
theorem parseWith_error_at_first_dead_end (source : String) (options : Options)
    (room : (wordsOf source).length ≤ options.maxDepth) :
    (∀ cause, parseWith source options = .error (.lex cause) ↔
      tokenize source = .error cause ∧ Viable (tokensOf (wordsOf source))) ∧
    (∀ position, parseWith source options = .error (.parse (.unexpectedEndOfInput position)) ↔
      tokenize source = .ok (wordsOf source ++ [⟨.endOfInput, position⟩]) ∧
        Viable (tokensOf (wordsOf source)) ∧ ¬ Sentence (tokensOf (wordsOf source))) ∧
    (∀ expected found position,
      parseWith source options = .error (.parse (.unexpectedToken expected found position)) →
      ∃ before behind, wordsOf source = before ++ ⟨found, position⟩ :: behind ∧
        Viable (tokensOf before) ∧ ¬ Viable (tokensOf before ++ [found]) ∧
        ∀ kind ∈ expected, Admits (tokensOf before) kind) ∧
    (∀ start, parseWith source options = .error (.parse (.invalidAssignmentTarget start)) →
      ∃ before position behind, wordsOf source = before ++ ⟨.assign, position⟩ :: behind ∧
        Viable (tokensOf before) ∧ ¬ Viable (tokensOf before ++ [.assign])) ∧
    ∀ limit position,
      parseWith source options ≠ .error (.parse (.nestingTooDeep limit position)) := by
  have explained := parseWith_error source options
  refine ⟨?_, ?_, fun _ _ _ parsed => explained _ parsed, fun _ parsed => explained _ parsed, ?_⟩
  · intro cause
    constructor
    · exact explained (.lex cause)
    · intro broken
      exact parseWith_of_broken source options room broken.2 cause broken.1
  · intro position
    constructor
    · exact explained (.parse (.unexpectedEndOfInput position))
    · intro ended
      obtain ⟨tokenized, viable, notSentence⟩ := ended
      exact parseWith_of_unfinished source options room viable position tokenized notSentence
  · intro limit position parsed
    exact absurd (explained _ parsed).2.1 (Nat.not_lt_of_le room)

theorem parseWith_error_at_first_dead_end_name :
    (wordsOf "a[1] = b c $").length ≤ 128 ∧
      ∃ before behind, wordsOf "a[1] = b c $" = before ++ ⟨.identifier "c", ⟨9, 1, 10⟩⟩ :: behind ∧
        Viable (tokensOf before) ∧ ¬ Viable (tokensOf before ++ [.identifier "c"]) ∧
        ∀ kind ∈ [TokenKind.endOfInput], Admits (tokensOf before) kind := by
  have room : (wordsOf "a[1] = b c $").length ≤ 128 := by decide +kernel
  refine ⟨room, ?_⟩
  exact (parseWith_error_at_first_dead_end "a[1] = b c $" {} room).2.2.1 _ _ _ (by decide +kernel)

end ExprLang
