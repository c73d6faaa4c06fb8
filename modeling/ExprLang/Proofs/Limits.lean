import ExprLang.Proofs.SameSteps
import ExprLang.Proofs.Verdicts

/-! What the limit does. A text that is an expression under one limit is the same one
under each limit that its tree fits, and what else is wrong with a text is wrong under
all limits that do not cut the parse off before. -/
namespace ExprLang

private theorem parseWith_other_of_ok (source : String) (options other : Options) (tree : Expr)
    (parsed : parseWith source options = .ok tree) :
    (tree.height ≤ other.maxDepth → parseWith source other = .ok tree) ∧
      (other.maxDepth < tree.height →
        ∃ position, parseWith source other = .error (.parse (.nestingTooDeep other.maxDepth position))) := by
  obtain ⟨⟨position, tokenized⟩, derived, _⟩ := parseWith_ok source options tree parsed
  refine ⟨parseWith_of_derives source other position tree tokenized derived, ?_⟩
  intro tall
  cases read : parseWith source other with
  | ok second =>
    obtain ⟨_, derivedToo, room⟩ := parseWith_ok source other second read
    rw [Derives.unique _ second tree derivedToo derived] at room
    exact absurd room (Nat.not_le_of_lt tall)
  | error fault =>
    obtain ⟨_, place, rfl⟩ := tooDeep_of_sentence source other position tree fault tokenized derived read
    exact ⟨place, rfl⟩

theorem parseWith_wider_of_error (source : String) (options wider : Options)
    (lower : options.maxDepth ≤ wider.maxDepth) (fault : Error)
    (parsed : parseWith source options = .error fault) :
    (∃ position, fault = .parse (.nestingTooDeep options.maxDepth position)) ∨
      parseWith source wider = .error fault := by
  obtain ⟨_, cut | same⟩ := parseWith_stands source "" options wider nofun lower fault parsed
  · have explains := parseWith_error source options fault parsed
    cases fault with
    | lex cause => exact cut.elim
    | parse fault =>
      cases fault with
      | unexpectedEndOfInput position => exact absurd rfl cut
      | nestingTooDeep bound position =>
        obtain ⟨rfl, _⟩ := explains
        exact .inl ⟨position, rfl⟩
      | _ => exact cut.elim
  · rw [String.append_empty] at same
    exact .inr same

/-- The limit only ever cuts a parse off, and it cuts off exactly the trees that are
taller. -/
theorem parseWith_limit_only_cuts (source : String) (options : Options) :
    (∀ tree, parseWith source options = .ok tree → ∀ other : Options,
      (tree.height ≤ other.maxDepth → parseWith source other = .ok tree) ∧
      (other.maxDepth < tree.height →
        ∃ position, parseWith source other = .error (.parse (.nestingTooDeep other.maxDepth position)))) ∧
    ∀ fault, parseWith source options = .error fault →
      (∀ limit position, fault ≠ .parse (.nestingTooDeep limit position)) → ∀ other : Options,
        (options.maxDepth ≤ other.maxDepth → parseWith source other = .error fault) ∧
        (other.maxDepth < options.maxDepth → parseWith source other = .error fault ∨
          ∃ position, parseWith source other = .error (.parse (.nestingTooDeep other.maxDepth position))) := by
  refine ⟨fun tree parsed other => parseWith_other_of_ok source options other tree parsed, ?_⟩
  intro fault parsed notLimit other
  constructor
  · intro lower
    refine (parseWith_wider_of_error source options other lower fault parsed).resolve_left ?_
    rintro ⟨position, rfl⟩
    exact notLimit _ position rfl
  · intro lower
    cases read : parseWith source other with
    | ok tree =>
      -- a tree under the lower limit is one under the higher
      obtain ⟨_, _, room⟩ := parseWith_ok source other tree read
      have parsedToo := (parseWith_other_of_ok source other options tree read).1 (by omega)
      rw [parsed] at parsedToo
      contradiction
    | error cause =>
      rcases parseWith_wider_of_error source other options (Nat.le_of_lt lower) cause read with
        ⟨position, rfl⟩ | same
      · exact .inr ⟨position, rfl⟩
      · rw [parsed] at same
        exact .inl same.symm

theorem parseWith_limit_only_cuts_brackets :
    (∃ tree, tree.height = 4 ∧ parseWith "a[b - 1] = c * c" ⟨4⟩ = .ok tree ∧
      ∃ position, parseWith "a[b - 1] = c * c" ⟨3⟩ = .error (.parse (.nestingTooDeep 3 position))) ∧
    ∃ fault : Error, (∀ limit position, fault ≠ .parse (.nestingTooDeep limit position)) ∧
      parseWith "a[b] c" ⟨2⟩ = .error fault ∧ parseWith "a[b] c" ⟨128⟩ = .error fault ∧
      (parseWith "a[b] c" ⟨1⟩ = .error fault ∨
        ∃ position, parseWith "a[b] c" ⟨1⟩ = .error (.parse (.nestingTooDeep 1 position))) := by
  have read : parseWith "a[b - 1] = c * c" ⟨128⟩ = .ok (.assign
      (.index (.var "a") (.binary .sub (.var "b") (.literal 1)))
      (.binary .mul (.var "c") (.var "c"))) := by
    decide +kernel
  have refused : parseWith "a[b] c" ⟨2⟩ =
      .error (.parse (.unexpectedToken [.endOfInput] (.identifier "c") ⟨5, 1, 6⟩)) := by
    decide +kernel
  constructor
  · have limited := (parseWith_limit_only_cuts "a[b - 1] = c * c" ⟨128⟩).1 _ read
    exact ⟨_, rfl, (limited ⟨4⟩).1 (by decide), (limited ⟨3⟩).2 (by decide)⟩
  · have limited := (parseWith_limit_only_cuts "a[b] c" ⟨2⟩).2 _ refused nofun
    refine ⟨_, ?_, refused, (limited ⟨128⟩).1 (by decide), (limited ⟨1⟩).2 (by decide)⟩
    nofun

end ExprLang
