import ExprLang.Proofs.Expressibility

/-! Printing a tree keeps its tokens, whatever its shape: the printed form reads as the
tokens of the tree from left to right. So the printed form of a tree that was read has the
tokens of the text it was read from. -/
namespace ExprLang

/-- Whether the names in a tree are names of the language and its numbers not negative. -/
def Expr.Spellable : Expr → Prop
  | .literal value => 0 ≤ value
  | .var name => IsName name.toList
  | .assign target value => target.Spellable ∧ value.Spellable
  | .binary _ left right => left.Spellable ∧ right.Spellable
  | .index base subscript => base.Spellable ∧ subscript.Spellable

theorem Expr.spellable_iff (tree : Expr) : tree.Spellable ↔ ∀ token ∈ tree.tokens, token.Writable := by
  induction tree with
  | literal value => simp [Spellable, tokens, Token.Writable]
  | var name => simp [Spellable, tokens, Token.Writable]
  | assign target value targetIff valueIff =>
    rw [tokens, writable_around, ← targetIff, ← valueIff]
    simp [Spellable, Token.Writable]
  | binary op left right leftIff rightIff =>
    rw [tokens, writable_around, ← leftIff, ← rightIff]
    simp [Spellable, Token.Writable]
  | index base subscript baseIff subscriptIff =>
    rw [tokens, writable_around, writable_around, ← baseIff, ← subscriptIff]
    simp [Spellable, Token.Writable]

theorem Derives.tokens_eq (phrase : Phrase) (tokens : List Token) (tree : Expr)
    (derived : Derives phrase tokens tree) : tree.tokens = tokens := by
  induction derived with
  | name name => rfl
  | number value => rfl
  | element base subscript baseTree subscriptTree _ _ baseTokens subscriptTokens =>
    rw [Expr.tokens, baseTokens, subscriptTokens]
  | ofTarget tokens tree _ ih => exact ih
  | ofTighter level tokens tree _ ih => exact ih
  | binary level op left right leftTree rightTree _ _ _ leftTokens rightTokens =>
    rw [Expr.tokens, leftTokens, rightTokens]
  | ofComparison tokens tree _ ih => exact ih
  | assign target value targetTree valueTree _ _ targetTokens valueTokens =>
    rw [Expr.tokens, targetTokens, valueTokens]

/-- A printed tree reads as its tokens from left to right and the end of input. The tokens
of a text that parses are those of its printed tree. -/
theorem printing_keeps_tokens :
    (∀ tree : Expr, tree.Spellable → ∃ words position,
      tokenize tree.render = .ok (words ++ [⟨.endOfInput, position⟩]) ∧
        words.map Spanned.token = tree.tokens) ∧
    ∀ (source : String) (options : Options) (tree : Expr), parseWith source options = .ok tree →
      ∃ tokens printed, tokenize source = .ok tokens ∧ tokenize tree.render = .ok printed ∧
        printed.map Spanned.token = tokens.map Spanned.token := by
  constructor
  · intro tree spellable
    obtain ⟨position, tokenized, spelled⟩ := tokenize_render tree (tree.spellable_iff.mp spellable)
    exact ⟨_, position, tokenized, spelled⟩
  · intro source options tree parsed
    have expressible := isExpressible_of_parseWith source options tree parsed
    obtain ⟨⟨place, tokenized⟩, derived, _⟩ := parseWith_ok source options tree parsed
    obtain ⟨position, printed, spelled⟩ := tokenize_render tree (tree.writable_of_isExpressible expressible)
    refine ⟨_, _, tokenized, printed, ?_⟩
    have same : tokensOf (wordsOf tree.render) = tokensOf (wordsOf source) :=
      spelled.trans (derived.tokens_eq _ _ _)
    change tokensOf (wordsOf tree.render ++ _) = tokensOf (wordsOf source ++ _)
    rw [tokensOf_snoc, tokensOf_snoc, same]

/-- A tree with an assignment as its base has no source form, but its printed form has the
tokens of the tree. -/
theorem printing_keeps_tokens_misplaced :
    let tree := Expr.index (.assign (.var "ᚠ") (.literal 9223372036854775807)) (.binary .lessEqual (.var "_") (.literal 0))
    tree.Spellable ∧ ∃ words position,
      tokenize "ᚠ = 9223372036854775807[_ <= 0]" = .ok (words ++ [⟨.endOfInput, position⟩]) ∧
        words.map Spanned.token = tree.tokens := by
  intro tree
  have rune : IsName "ᚠ".toList := (isIdentifier_iff "ᚠ").mp (by decide +kernel)
  have underscore : IsName "_".toList := (isIdentifier_iff "_").mp (by decide +kernel)
  have numbers : (0 : Int64) ≤ 9223372036854775807 ∧ (0 : Int64) ≤ 0 := by decide
  have spellable : tree.Spellable := ⟨⟨rune, numbers.1⟩, underscore, numbers.2⟩
  have printed : tree.render = "ᚠ = 9223372036854775807[_ <= 0]" := by decide +kernel
  rw [← printed]
  exact ⟨spellable, printing_keeps_tokens.1 tree spellable⟩

end ExprLang
