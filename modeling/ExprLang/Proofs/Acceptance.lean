import ExprLang.Proofs.Verdicts

/-! Which texts are read, and as which trees: those whose tokens derive a tree that
the limit leaves room for. -/
namespace ExprLang

/-- Reading accepts the grammar and nothing else, and the grammar gives no tokens two
trees. -/
theorem parseWith_ok_iff_derives :
    (∀ (source : String) (options : Options) (tree : Expr),
      parseWith source options = .ok tree ↔
        ∃ (words : List Spanned) (position : Position),
          tokenize source = .ok (words ++ [⟨.endOfInput, position⟩]) ∧
          Derives .expression (words.map Spanned.token) tree ∧ tree.height ≤ options.maxDepth) ∧
    ∀ (tokens : List Token) (first second : Expr),
      Derives .expression tokens first → Derives .expression tokens second → first = second := by
  refine ⟨?_, Derives.unique⟩
  intro source options tree
  constructor
  · intro parsed
    obtain ⟨⟨position, tokenized⟩, derived, room⟩ := parseWith_ok source options tree parsed
    exact ⟨wordsOf source, position, tokenized, derived, room⟩
  · intro accepted
    obtain ⟨words, position, tokenized, derived, room⟩ := accepted
    have same := words_of_tokenize source words position tokenized
    rw [← same] at tokenized derived
    exact parseWith_of_derives source options position tree tokenized derived room

theorem parseWith_ok_iff_derives_difference :
    let tree := Expr.binary .sub (.binary .sub (.var "a") (.literal 1)) (.literal 2)
    ∃ (words : List Spanned) (position : Position),
      tokenize "a - 1 - 2" = .ok (words ++ [⟨.endOfInput, position⟩]) ∧
      Derives .expression (words.map Spanned.token) tree ∧ tree.height ≤ 3 :=
  (parseWith_ok_iff_derives.1 "a - 1 - 2" ⟨3⟩ _).mp (by decide +kernel)

end ExprLang
