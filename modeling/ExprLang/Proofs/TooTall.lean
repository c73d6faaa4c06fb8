import ExprLang.Proofs.Settling
import ExprLang.Proofs.TokenSequence

/-! Where a limit cuts a parse off. A text whose tree is too tall is refused at the first of the
trees inside it, in the order in which they end, that does not fit in below the assignments and
brackets around it. -/
namespace ExprLang

private theorem Expr.isEnd_ownToken (tree : Expr) : tree.ownToken.isEnd = false := by
  cases tree <;> rfl

section
variable {source : String} {tree : Expr} {position : Position}
  (tokenized : tokenize source = .ok (wordsOf source ++ [⟨.endOfInput, position⟩]))
  (derived : Derives .expression (tokensOf (wordsOf source)) tree)
include tokenized derived

theorem spelled_ofString (options : Options) :
    Spells (TokenStream.ofString source options).supply 0 tree.tokens ∧
      (TokenStream.ofString source options).supply.get tree.tokens.length = .ok ⟨.endOfInput, position⟩ := by
  obtain ⟨last, items, _, _, spec⟩ := wordsOf_spec source
  obtain ⟨behind, supply⟩ := supply_ofString source options last items
  obtain ⟨spells, rest⟩ := spells_words (TokenStream.ofString source options).supply 0 _ _ supply
  have ends : last = .ok ⟨.endOfInput, position⟩ := by
    rw [tokenized] at spec
    cases last with
    | error fault => contradiction
    | ok item => rw [List.singleton_inj.mp (List.append_cancel_left (Except.ok.inj spec))]
  have tokens := derived.tokens_eq _ _ _
  have length : tree.tokens.length = 0 + (wordsOf source).length := by
    rw [tokens, tokensOf, List.length_map, Nat.zero_add]
  constructor
  · rw [tokens]
    exact spells
  · rw [length, ← Stream'.head_drop, rest]
    exact ends

private theorem parseWith_refuses (expressible : tree.isExpressible = true) (limit : Nat)
    (lower : limit < tree.height) :
    ∃ site, (tree.sites 0 0).find? (Site.exceeds limit) = some site ∧
      parseWith source ⟨limit⟩ =
        .error (.parse (.nestingTooDeep limit (LexItem.position (itemAt source site.anchor)))) := by
  let setting : Setting := ⟨(TokenStream.ofString source ⟨limit⟩).supply, 0, limit⟩
  obtain ⟨spells, last⟩ := spelled_ofString tokenized derived ⟨limit⟩
  have ends : setting.Ends Precedence.assignment 0 tree := by
    rw [← Nat.zero_add tree.tokens.length] at last
    exact ⟨_, last, rfl⟩
  have walks := Tier.expression.builds setting tree 0 (.ofString source ⟨limit⟩) expressible
    ⟨rfl, rfl, rfl⟩ spells ends
  have refused : Parser.sentence.Meets (.ofString source ⟨limit⟩) (fun _ _ => False) (fun fault _ =>
      ∃ site, (tree.sites 0 0).find? (Site.exceeds limit) = some site ∧ fault = setting.refusal site) := by
    refine Parser.Meets.bind walks ?_ (fun _ _ refused => refused)
    rintro answer after ⟨within, _⟩
    have room := (tree.find_exceeds_eq_none_iff limit 0 0).mp within
    omega
  obtain ⟨after, _, outcome⟩ := run_meets source ⟨limit⟩ _ _ refused
  cases parsed : parseWith source ⟨limit⟩ with
  | ok answer =>
    rw [parsed] at outcome
    contradiction
  | error fault =>
    rw [parsed] at outcome
    obtain ⟨site, found, rfl⟩ := outcome
    refine ⟨site, found, ?_⟩
    have item := Lexer.supply_afterCalls source 0 site.anchor
    rw [Nat.zero_add] at item
    rw [← item]
    rfl

private theorem word_of_site (site : Site) (member : site ∈ tree.sites 0 0) :
    ∃ word, (wordsOf source ++ [⟨.endOfInput, position⟩])[site.anchor]? = some word ∧
      itemAt source site.anchor = .ok word ∧ word.token = site.tree.ownToken := by
  obtain ⟨spells, _⟩ := spelled_ofString tokenized derived .standard
  obtain ⟨place, item⟩ := Expr.sites_spelled _ tree 0 0 spells site member
  have next : itemAt source site.anchor = .ok ⟨site.tree.ownToken, place⟩ := by
    have same := Lexer.supply_afterCalls source 0 site.anchor
    rw [Nat.zero_add] at same
    exact same.symm.trans item
  have inside := lt_of_itemAt next site.tree.isEnd_ownToken
  refine ⟨⟨site.tree.ownToken, place⟩, ?_, next, rfl⟩
  rw [List.getElem?_append_left inside]
  exact word_of_itemAt next inside

end

/-- Under a limit that its tree exceeds, a text is refused at the first tree inside that one that
is too tall for the depth at which it stands. The error names the token that this tree is known by. -/
theorem parseWith_too_tall (source : String) (options : Options) (tree : Expr)
    (parsed : parseWith source options = .ok tree) (limit : Nat) (lower : limit < tree.height) :
    ∃ (before behind : List Site) (site : Site) (tokens : List Spanned) (word : Spanned),
      tree.sites 0 0 = before ++ site :: behind ∧
      (∀ earlier ∈ before, earlier.depth + earlier.tree.height ≤ limit) ∧
      limit < site.depth + site.tree.height ∧
      tokenize source = .ok tokens ∧ tokens[site.anchor]? = some word ∧ word.token = site.tree.ownToken ∧
      parseWith source ⟨limit⟩ = .error (.parse (.nestingTooDeep limit word.position)) := by
  obtain ⟨⟨position, tokenized⟩, derived, _⟩ := parseWith_ok source options tree parsed
  have expressible := isExpressible_of_parseWith source options tree parsed
  obtain ⟨site, found, refused⟩ := parseWith_refuses tokenized derived expressible limit lower
  obtain ⟨word, taken, item, own⟩ := word_of_site tokenized derived site (List.mem_of_find?_eq_some found)
  obtain ⟨exceeds, before, behind, split, within⟩ := List.find?_eq_some_iff_append.mp found
  refine ⟨before, behind, site, _, word, split, ?_, of_decide_eq_true exceeds, tokenized, taken, own, ?_⟩
  · intro earlier member
    have fits := within earlier member
    simpa [Site.exceeds] using fits
  · rw [item] at refused
    exact refused

theorem parseWith_too_tall_brackets :
    let tree : Expr := .assign (.index (.var "a") (.binary .sub (.var "b") (.literal 1)))
      (.binary .mul (.var "c") (.var "c"))
    parseWith "a[b - 1] = c * c" ⟨128⟩ = .ok tree ∧ 2 < tree.height ∧
    ∃ (before behind : List Site) (site : Site) (tokens : List Spanned) (word : Spanned),
      tree.sites 0 0 = before ++ site :: behind ∧
      (∀ earlier ∈ before, earlier.depth + earlier.tree.height ≤ 2) ∧
      2 < site.depth + site.tree.height ∧
      tokenize "a[b - 1] = c * c" = .ok tokens ∧ tokens[site.anchor]? = some word ∧
      word.token = site.tree.ownToken ∧
      parseWith "a[b - 1] = c * c" ⟨2⟩ = .error (.parse (.nestingTooDeep 2 word.position)) := by
  intro tree
  have parsed : parseWith "a[b - 1] = c * c" ⟨128⟩ = .ok tree := by decide +kernel
  have lower : 2 < tree.height := by decide
  exact ⟨parsed, lower, parseWith_too_tall _ ⟨128⟩ tree parsed 2 lower⟩

/-- The assignment, the difference, its first operand, and the name before the brackets. -/
example : [3, 2, 1, 0].map (fun limit => parseWith "a[b - 1] = c * c" ⟨limit⟩) =
    [.error (.parse (.nestingTooDeep 3 ⟨9, 1, 10⟩)), .error (.parse (.nestingTooDeep 2 ⟨4, 1, 5⟩)),
      .error (.parse (.nestingTooDeep 1 ⟨2, 1, 3⟩)), .error (.parse (.nestingTooDeep 0 ⟨0, 1, 1⟩))] := by
  decide +kernel

end ExprLang
