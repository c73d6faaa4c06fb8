import ExprLang.Proofs.Verdicts

/-! Left sides. What an `=` would assign to is what stands before it, back to the nearest `=`
in the same brackets or to the bracket that is still open. Where a comparison has been read
before an `=`, it is that left side. -/
namespace ExprLang

/-- The words of a left side, the last one first, from the words before an `=` in this order.
`closed` counts the brackets that are closed among the words passed so far, but not opened. -/
def leftSideBack : Nat → List Spanned → List Spanned
  | _, [] => []
  | closed, word :: words =>
    match word.token, closed with
    | .assign, 0 | .leftBracket, 0 => []
    | .leftBracket, closed + 1 => word :: leftSideBack closed words
    | .rightBracket, closed => word :: leftSideBack (closed + 1) words
    | _, closed => word :: leftSideBack closed words

/-- The left side of an `=` behind the words. -/
def leftSide (words : List Spanned) : List Spanned :=
  (leftSideBack 0 words.reverse).reverse

/-- Whether the tokens end where an expression begins: they are none, or the last one is an `=`
or an opening bracket. -/
def Opens (tokens : List Token) : Prop :=
  ∀ token ∈ tokens.getLast?, token = .assign ∨ token = .leftBracket

private theorem leftSideBack_split (closed : Nat) (words : List Spanned) :
    ∃ outer, words = leftSideBack closed words ++ outer ∧
      ∀ word ∈ outer.head?, word.token = .assign ∨ word.token = .leftBracket := by
  induction words generalizing closed with
  | nil => exact ⟨[], rfl, nofun⟩
  | cons word words ih =>
    have passes (closed : Nat) : ∃ outer, word :: words = word :: leftSideBack closed words ++ outer ∧
        ∀ word ∈ outer.head?, word.token = .assign ∨ word.token = .leftBracket := by
      obtain ⟨outer, split, opens⟩ := ih closed
      exact ⟨outer, congrArg (word :: ·) split, opens⟩
    unfold leftSideBack
    split
    · rename_i assign
      exact ⟨word :: words, rfl, by rintro _ ⟨⟩; exact .inl assign⟩
    · rename_i bracket
      exact ⟨word :: words, rfl, by rintro _ ⟨⟩; exact .inr bracket⟩
    · exact passes _
    · exact passes _
    · exact passes _

theorem leftSide_split (words : List Spanned) :
    ∃ outer, words = outer ++ leftSide words ∧ Opens (tokensOf outer) := by
  obtain ⟨outer, split, opens⟩ := leftSideBack_split 0 words.reverse
  refine ⟨outer.reverse, ?_, ?_⟩
  · rw [leftSide, ← List.reverse_append, ← split, List.reverse_reverse]
  · intro token last
    rw [tokensOf, List.getLast?_map, List.getLast?_reverse] at last
    obtain ⟨word, first, rfl⟩ := Option.map_eq_some_iff.mp last
    exact opens word first

def PassedBack (closed : Nat) (words : List Spanned) : Prop :=
  ∀ before, leftSideBack closed (words.reverse ++ before) = words.reverse ++ leftSideBack closed before

namespace PassedBack
variable {closed : Nat} {first second : List Spanned}

theorem append (passFirst : PassedBack closed first) (passSecond : PassedBack closed second) :
    PassedBack closed (first ++ second) := by
  intro before
  rw [List.reverse_append, List.append_assoc, passSecond, passFirst, List.append_assoc]

theorem operator (op : BinaryOperator) (place : Position) : PassedBack closed [⟨.operator op, place⟩] :=
  fun _ => rfl

theorem assign (inside : 0 < closed) (place : Position) : PassedBack closed [⟨.assign, place⟩] := by
  cases closed with
  | zero => contradiction
  | succ closed => exact fun _ => rfl

theorem bracketed (passed : PassedBack (closed + 1) first) (opening final : Position) :
    PassedBack closed (⟨.leftBracket, opening⟩ :: first ++ [⟨.rightBracket, final⟩]) := by
  intro before
  simp only [List.reverse_append, List.reverse_cons, List.append_assoc, List.reverse_nil,
    List.nil_append, List.cons_append]
  have inside := passed (⟨.leftBracket, opening⟩ :: before)
  exact congrArg (⟨.rightBracket, final⟩ :: ·) inside

end PassedBack

/-- A whole expression is passed only inside brackets, as it may be an assignment. -/
theorem passedBack_phrase (phrase : Phrase) (tokens : List Token) (tree : Expr)
    (derived : Derives phrase tokens tree) (words : List Spanned) (spelled : tokensOf words = tokens)
    (closed : Nat) (inside : phrase = .expression → 0 < closed) : PassedBack closed words := by
  induction derived generalizing words closed with
  | name name =>
    obtain ⟨⟨_, place⟩, rfl, rfl⟩ := List.map_eq_singleton_iff.mp spelled
    exact fun _ => rfl
  | number value =>
    obtain ⟨⟨_, place⟩, rfl, rfl⟩ := List.map_eq_singleton_iff.mp spelled
    exact fun _ => rfl
  | ofTarget tokens tree _ ih => exact ih words spelled closed nofun
  | ofTighter level tokens tree _ ih => exact ih words spelled closed nofun
  | ofComparison tokens tree _ ih => exact ih words spelled closed nofun
  | binary level op left right leftTree rightTree _ _ _ passLeft passRight =>
    obtain ⟨first, _, rfl, spelledLeft, tail⟩ := List.map_eq_append_iff.mp spelled
    obtain ⟨⟨_, place⟩, last, rfl, rfl, spelledRight⟩ := List.map_eq_cons_iff.mp tail
    have passed := (PassedBack.operator op place).append (passRight last spelledRight closed nofun)
    exact (passLeft first spelledLeft closed nofun).append passed
  | assign target value targetTree valueTree _ _ passTarget passValue =>
    obtain ⟨first, _, rfl, spelledTarget, tail⟩ := List.map_eq_append_iff.mp spelled
    obtain ⟨⟨_, place⟩, last, rfl, rfl, spelledValue⟩ := List.map_eq_cons_iff.mp tail
    have passed := (PassedBack.assign (inside rfl) place).append (passValue last spelledValue closed inside)
    exact (passTarget first spelledTarget closed nofun).append passed
  | element base subscript baseTree subscriptTree _ _ passBase passSubscript =>
    rw [List.append_assoc] at spelled
    obtain ⟨first, _, rfl, spelledBase, tail⟩ := List.map_eq_append_iff.mp spelled
    obtain ⟨⟨_, opening⟩, _, rfl, rfl, behind⟩ := List.map_eq_cons_iff.mp tail
    obtain ⟨middle, _, rfl, spelledInside, closing⟩ := List.map_eq_append_iff.mp behind
    obtain ⟨⟨_, final⟩, rfl, rfl⟩ := List.map_eq_singleton_iff.mp closing
    have passed := passSubscript middle spelledInside (closed + 1) (fun _ => Nat.succ_pos closed)
    exact (passBase first spelledBase closed nofun).append (passed.bracketed opening final)

theorem leftSide_append (outer side : List Spanned) (opens : Opens (tokensOf outer)) (tree : Expr)
    (derived : Derives (.operand Precedence.comparison) (tokensOf side) tree) :
    leftSide (outer ++ side) = side := by
  have passed := passedBack_phrase _ _ tree derived side rfl 0 nofun outer.reverse
  have stops : leftSideBack 0 outer.reverse = [] := by
    rcases List.eq_nil_or_concat outer with rfl | ⟨before, ⟨token, place⟩, rfl⟩
    · rfl
    · rw [List.concat_eq_append, List.reverse_append, List.reverse_singleton, List.singleton_append]
      rcases opens token (by simp) with rfl | rfl <;> rfl
  rw [leftSide, List.reverse_append, passed, stops, List.append_nil, List.reverse_reverse]

namespace Reading

theorem wanting_of_opens (tokens : List Token) (opens : Opens tokens) (state : Reading)
    (ran : (wanting []).run tokens = some state) :
    ∃ context, state = .wanting context ∧ Phrase.expression.BeginsIn context := by
  rcases List.eq_nil_or_concat tokens with rfl | ⟨before, token, rfl⟩
  · cases ran
    exact ⟨[], rfl, beginsIn_nothing _⟩
  · rw [List.concat_eq_append, run_append] at ran
    obtain ⟨middle, _, stepped⟩ := Option.bind_eq_some_iff.mp ran
    rw [run_singleton] at stepped
    rcases opens token (by simp) with rfl | rfl
    · cases middle with
      | wanting context => contradiction
      | holding context operand =>
        obtain ⟨_, same⟩ := Option.ite_none_right_eq_some.mp stepped
        cases same
        exact ⟨_, rfl, beginsIn_value _ _⟩
    · cases middle with
      | wanting context => contradiction
      | holding context operand =>
        obtain ⟨_, same⟩ := Option.ite_none_right_eq_some.mp stepped
        cases same
        exact ⟨_, rfl, beginsIn_subscript _ _⟩

theorem opens_of_wanting (tokens : List Token) (context : Context)
    (begins : Phrase.expression.BeginsIn context) (ran : (wanting []).run tokens = some (.wanting context)) :
    Opens tokens := by
  rcases List.eq_nil_or_concat tokens with rfl | ⟨before, token, rfl⟩
  · exact nofun
  · rw [List.concat_eq_append, run_append] at ran
    obtain ⟨middle, _, stepped⟩ := Option.bind_eq_some_iff.mp ran
    rw [run_singleton] at stepped
    intro last same
    obtain rfl : token = last := by simpa using same
    cases token with
    | assign => exact .inl rfl
    | leftBracket => exact .inr rfl
    | operator op =>
      cases middle with
      | wanting context => contradiction
      | holding outer operand =>
        cases stepped
        have stays := begins _ rfl
        cases op <;> contradiction
    | rightBracket =>
      cases middle with
      | wanting context => contradiction
      | holding outer operand =>
        simp only [step] at stepped
        split at stepped <;> cases stepped
    | _ => cases middle <;> cases stepped

end Reading

end ExprLang
