import ExprLang.Proofs.Expressibility

/-! Printed trees are read back, unless they are taller than the limit. -/
namespace ExprLang

/-- The printed form of an expressible tree reads as the tree where the limit leaves
room for it, and is refused for its height where the limit does not. -/
theorem parseWith_render (tree : Expr) (expressible : tree.isExpressible = true) (options : Options) :
    (tree.height ≤ options.maxDepth → parseWith tree.render options = .ok tree) ∧
    (options.maxDepth < tree.height → ∃ position,
      parseWith tree.render options = .error (.parse (.nestingTooDeep options.maxDepth position))) := by
  have writable := tree.writable_of_isExpressible expressible
  obtain ⟨position, tokenized, spelled⟩ := tokenize_render tree writable
  have derived := Derives.loosen 0 _ (Nat.zero_le _) _ _ (tree.derives_of_isExpressible expressible)
  rw [← spelled] at derived
  constructor
  · exact parseWith_of_derives tree.render options position tree tokenized derived
  · intro tall
    cases parsed : parseWith tree.render options with
    | ok other =>
      obtain ⟨_, otherDerived, room⟩ := parseWith_ok tree.render options other parsed
      rw [Derives.unique _ other tree otherDerived derived] at room
      exact absurd tall (Nat.not_lt_of_le room)
    | error fault =>
      obtain ⟨_, place, rfl⟩ :=
        tooDeep_of_sentence tree.render options position tree fault tokenized derived parsed
      exact ⟨place, rfl⟩

theorem parseWith_render_element :
    let tree := Expr.assign (.index (.var "a") (.literal 0)) (.binary .sub (.var "b") (.literal 1))
    parseWith "a[0] = b - 1" ⟨3⟩ = .ok tree ∧ ∃ position,
      parseWith "a[0] = b - 1" ⟨2⟩ = .error (.parse (.nestingTooDeep 2 position)) := by
  intro tree
  have printed : tree.render = "a[0] = b - 1" := by decide +kernel
  have expressible : tree.isExpressible = true := by decide +kernel
  rw [← printed]
  exact ⟨(parseWith_render tree expressible ⟨3⟩).1 (by decide),
    (parseWith_render tree expressible ⟨2⟩).2 (by decide)⟩

end ExprLang
