import ExprLang.Proofs.Splitting

/-! The printed form of a tree splits into the tree's own tokens, whatever its shape:
the spaces and brackets of the form keep each token apart from the next. -/
namespace ExprLang

def SeamBefore (rest : List Char) : Prop :=
  ∀ c ∈ rest.head?, c ∈ [' ', '[', ']']

private theorem Token.endsBefore_seam (token : Token) (rest : List Char) (seam : SeamBefore rest) :
    ∀ c ∈ rest.head?, token.endsBefore c = true := by
  intro c next
  have ends (d : Char) (isSeam : d = ' ' ∨ d = '[' ∨ d = ']') : token.endsBefore d = true := by
    rcases isSeam with rfl | rfl | rfl <;> cases token with
    | operator op => cases op <;> rfl
    | _ => rfl
  exact ends c (by simpa using seam c next)

private theorem seamBefore_cons (c : Char) (text : List Char) (seam : c ∈ [' ', '[', ']']) :
    SeamBefore (c :: text) := by
  intro d next
  cases next
  exact seam

namespace Splits

private theorem spaced (token : Token) (text : List Char) (writable : token.Writable) :
    Splits (' ' :: token.spelling ++ ' ' :: text) [token] text := by
  have seam : SeamBefore (' ' :: text) := seamBefore_cons ' ' text (by decide)
  have alone := written token (' ' :: text) writable (token.endsBefore_seam _ seam)
  have space (text : List Char) : Splits (' ' :: text) [] text := blank ' ' text (by decide)
  exact append _ _ _ [] [token] (space _) (append _ _ _ [token] [] alone (space text))

private theorem joined (token : Token) (left right rest : List Char) (before behind : List Token)
    (writable : token.Writable) (splitsLeft : ∀ rest, SeamBefore rest → Splits (left ++ rest) before rest)
    (splitsRight : Splits (right ++ rest) behind rest) :
    Splits (left ++ (' ' :: token.spelling ++ ' ' :: (right ++ rest))) (before ++ token :: behind) rest := by
  have first := splitsLeft (' ' :: token.spelling ++ ' ' :: (right ++ rest))
    (seamBefore_cons ' ' _ (by decide))
  have second := spaced token (right ++ rest) writable
  exact append _ _ _ before (token :: behind) first (append _ _ _ [token] behind second splitsRight)

private theorem bracketed (left inside rest : List Char) (before between : List Token)
    (splitsLeft : ∀ rest, SeamBefore rest → Splits (left ++ rest) before rest)
    (splitsInside : ∀ rest, SeamBefore rest → Splits (inside ++ rest) between rest) :
    Splits (left ++ '[' :: (inside ++ ']' :: rest))
      (before ++ .leftBracket :: between ++ [.rightBracket]) rest := by
  have first := splitsLeft ('[' :: (inside ++ ']' :: rest)) (seamBefore_cons '[' _ (by decide))
  have opening := written .leftBracket (inside ++ ']' :: rest) trivial fun _ _ => rfl
  have second := splitsInside (']' :: rest) (seamBefore_cons ']' _ (by decide))
  have closing := written .rightBracket rest trivial fun _ _ => rfl
  have opened := append _ _ _ [.leftBracket] between opening second
  exact append _ _ _ (before ++ .leftBracket :: between) [.rightBracket]
    (append _ _ _ before (.leftBracket :: between) first opened) closing

end Splits

/-- The characters of a printed tree split into its tokens. -/
theorem splits_render (tree : Expr) (rest : List Char) (seam : SeamBefore rest)
    (writable : ∀ token ∈ tree.tokens, token.Writable) :
    Splits (tree.render.toList ++ rest) tree.tokens rest := by
  -- for every rest, since what follows a child is the remainder of its parent
  induction tree generalizing rest with
  | literal value =>
    exact .written (.number value) rest (writable _ (List.mem_singleton.mpr rfl))
      (Token.endsBefore_seam _ rest seam)
  | var name =>
    exact .written (.identifier name) rest (writable _ (List.mem_singleton.mpr rfl))
      (Token.endsBefore_seam _ rest seam)
  | assign target value targetSplits valueSplits =>
    have split : (Expr.assign target value).render.toList ++ rest =
        target.render.toList ++ (' ' :: Token.assign.spelling ++ ' ' :: (value.render.toList ++ rest)) := by
      simp [Expr.render, Token.spelling]
    simp only [Expr.tokens, List.mem_append, List.mem_cons] at writable
    rw [split]
    exact .joined .assign _ _ rest _ _ trivial
      (fun rest seam => targetSplits rest seam fun token member => writable token (.inl member))
      (valueSplits rest seam fun token member => writable token (.inr (.inr member)))
  | binary op left right leftSplits rightSplits =>
    have split : (Expr.binary op left right).render.toList ++ rest =
        left.render.toList ++ (' ' :: (Token.operator op).spelling ++ ' ' :: (right.render.toList ++ rest)) := by
      simp [Expr.render, Token.spelling]
    simp only [Expr.tokens, List.mem_append, List.mem_cons] at writable
    rw [split]
    exact .joined (.operator op) _ _ rest _ _ trivial
      (fun rest seam => leftSplits rest seam fun token member => writable token (.inl member))
      (rightSplits rest seam fun token member => writable token (.inr (.inr member)))
  | index base subscript baseSplits subscriptSplits =>
    have split : (Expr.index base subscript).render.toList ++ rest =
        base.render.toList ++ '[' :: (subscript.render.toList ++ ']' :: rest) := by
      simp [Expr.render]
    simp only [Expr.tokens, List.mem_append, List.mem_cons] at writable
    rw [split]
    exact .bracketed _ _ rest _ _
      (fun rest seam => baseSplits rest seam fun token member => writable token (.inl (.inl member)))
      (fun rest seam => subscriptSplits rest seam fun token member =>
        writable token (.inl (.inr (.inr member))))

theorem tokenize_render (tree : Expr) (writable : ∀ token ∈ tree.tokens, token.Writable) :
    ∃ position, tokenize tree.render = .ok (wordsOf tree.render ++ [⟨.endOfInput, position⟩]) ∧
      tokensOf (wordsOf tree.render) = tree.tokens := by
  have splits := splits_render tree [] nofun writable
  rw [List.append_nil] at splits
  exact splits.tokenize

end ExprLang
