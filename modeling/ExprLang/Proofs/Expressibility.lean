import ExprLang.Proofs.Printing
import ExprLang.Proofs.Verdicts

/-! Which trees are expressible: those that the grammar derives from their own tokens,
as long as these can be written. So every tree that is read is expressible. -/
namespace ExprLang

def Phrase.ofLevel : Nat → Phrase
  | 0 => .expression
  | level + 1 => .operand (level + 1)

theorem Derives.loosen (loose tight : Nat) (below : loose ≤ tight) (tokens : List Token) (tree : Expr)
    (derived : Derives (.ofLevel tight) tokens tree) : Derives (.ofLevel loose) tokens tree := by
  induction below with
  | refl => exact derived
  | step _ ih =>
    rename_i level _
    apply ih
    cases level with
    | zero => exact .ofComparison tokens tree derived
    | succ level => exact .ofTighter _ tokens tree derived

private theorem Phrase.ofLevel_precedence (op : BinaryOperator) :
    Phrase.ofLevel op.precedence = .operand op.precedence := by
  cases op <;> rfl

theorem writable_around (token : Token) (before behind : List Token) :
    (∀ other ∈ before ++ token :: behind, other.Writable) ↔
      (∀ other ∈ before, other.Writable) ∧ token.Writable ∧ ∀ other ∈ behind, other.Writable := by
  rw [List.forall_mem_append, List.forall_mem_cons]

namespace Expr

theorem fits_iff (tree : Expr) (level : Nat) :
    tree.fits level = true ↔ level ≤ tree.precedence ∧ tree.isExpressible = true := by
  cases tree <;> simp [isExpressible, fits]

theorem precedence_of_isLvalue (tree : Expr) (lvalue : tree.isLvalue = true) :
    tree.precedence = Precedence.primary := by
  cases tree with
  | var name => rfl
  | index base subscript => rfl
  | _ => contradiction

private theorem fits_primary_iff (tree : Expr) (lvalue : tree.isLvalue = true) :
    tree.fits Precedence.primary = true ↔ tree.isExpressible = true := by
  rw [fits_iff, precedence_of_isLvalue tree lvalue]
  simp

theorem isExpressible_assign (target value : Expr) :
    (assign target value).isExpressible = true ↔
      (target.isLvalue = true ∧ target.isExpressible = true) ∧ value.isExpressible = true := by
  rw [isExpressible, fits]
  simp only [Nat.zero_le, decide_true, Bool.true_and, Bool.and_eq_true]
  rw [and_congr_right (target.fits_primary_iff)]
  rfl

theorem isExpressible_index (base subscript : Expr) :
    (index base subscript).isExpressible = true ↔
      (base.isLvalue = true ∧ base.isExpressible = true) ∧ subscript.isExpressible = true := by
  rw [isExpressible, fits]
  simp only [Nat.zero_le, decide_true, Bool.true_and, Bool.and_eq_true]
  rw [and_congr_right (base.fits_primary_iff)]
  rfl

theorem isExpressible_binary (op : BinaryOperator) (left right : Expr) :
    (binary op left right).isExpressible = true ↔
      (op.precedence ≤ left.precedence ∧ left.isExpressible = true) ∧
      op.precedence < right.precedence ∧ right.isExpressible = true := by
  rw [isExpressible, fits]
  simp only [Nat.zero_le, decide_true, Bool.true_and, Bool.and_eq_true, fits_iff, Nat.succ_le_iff]

private theorem target_of_isExpressible (tree : Expr) (lvalue : tree.isLvalue = true)
    (derived : Derives (.ofLevel tree.precedence) tree.tokens tree) : Derives .target tree.tokens tree := by
  rw [precedence_of_isLvalue tree lvalue] at derived
  exact derived.target_of_isLvalue _ _ _ lvalue

theorem derives_of_isExpressible (tree : Expr) (expressible : tree.isExpressible = true) :
    Derives (.ofLevel tree.precedence) tree.tokens tree := by
  induction tree with
  | literal value => exact .number value
  | var name => exact .ofTarget _ _ (.name name)
  | assign target value targetDerives valueDerives =>
    obtain ⟨⟨lvalue, expressibleTarget⟩, expressibleValue⟩ := (isExpressible_assign _ _).mp expressible
    have before := target.target_of_isExpressible lvalue (targetDerives expressibleTarget)
    have behind := Derives.loosen 0 _ (Nat.zero_le _) _ _ (valueDerives expressibleValue)
    exact .assign _ _ target value before behind
  | binary op left right leftDerives rightDerives =>
    obtain ⟨⟨leftLevel, expressibleLeft⟩, rightLevel, expressibleRight⟩ :=
      (isExpressible_binary _ _ _).mp expressible
    have before := Derives.loosen _ _ leftLevel _ _ (leftDerives expressibleLeft)
    have behind := Derives.loosen _ _ rightLevel _ _ (rightDerives expressibleRight)
    rw [Phrase.ofLevel_precedence] at before
    rw [precedence, Phrase.ofLevel_precedence]
    exact .joined op _ _ left right before behind
  | index base subscript baseDerives subscriptDerives =>
    obtain ⟨⟨lvalue, expressibleBase⟩, expressibleSubscript⟩ := (isExpressible_index _ _).mp expressible
    have indexed := base.target_of_isExpressible lvalue (baseDerives expressibleBase)
    have bracketed := Derives.loosen 0 _ (Nat.zero_le _) _ _ (subscriptDerives expressibleSubscript)
    exact .ofTarget _ _ (.element _ _ base subscript indexed bracketed)

theorem isExpressible_literal (value : Int64) : (literal value).isExpressible = true ↔ 0 ≤ value := by
  simp [isExpressible, fits]

theorem isExpressible_var (name : String) : (var name).isExpressible = true ↔ IsName name.toList := by
  rw [← isIdentifier_iff]
  simp [isExpressible, fits]

theorem writable_of_isExpressible (tree : Expr) (expressible : tree.isExpressible = true) :
    ∀ token ∈ tree.tokens, token.Writable := by
  induction tree with
  | literal value =>
    have written : (Token.number value).Writable := (isExpressible_literal value).mp expressible
    exact List.forall_mem_singleton.mpr written
  | var name =>
    have written : (Token.identifier name).Writable := (isExpressible_var name).mp expressible
    exact List.forall_mem_singleton.mpr written
  | assign target value targetWritable valueWritable =>
    obtain ⟨⟨_, expressibleTarget⟩, expressibleValue⟩ := (isExpressible_assign _ _).mp expressible
    exact (writable_around .assign _ _).mpr
      ⟨targetWritable expressibleTarget, trivial, valueWritable expressibleValue⟩
  | binary op left right leftWritable rightWritable =>
    obtain ⟨⟨_, expressibleLeft⟩, _, expressibleRight⟩ := (isExpressible_binary _ _ _).mp expressible
    exact (writable_around (.operator op) _ _).mpr
      ⟨leftWritable expressibleLeft, trivial, rightWritable expressibleRight⟩
  | index base subscript baseWritable subscriptWritable =>
    obtain ⟨⟨_, expressibleBase⟩, expressibleSubscript⟩ := (isExpressible_index _ _).mp expressible
    have opened := (writable_around .leftBracket _ _).mpr
      ⟨baseWritable expressibleBase, trivial, subscriptWritable expressibleSubscript⟩
    exact (writable_around .rightBracket _ []).mpr ⟨opened, trivial, nofun⟩

/-- What a phrase derives from tokens that can be written is expressible, and binds as
tightly as the phrase demands. -/
theorem isExpressible_of_derives (phrase : Phrase) (tokens : List Token) (tree : Expr)
    (derived : Derives phrase tokens tree) (writable : ∀ token ∈ tokens, token.Writable) :
    phrase.level ≤ tree.precedence ∧ tree.isExpressible = true := by
  induction derived with
  | name name =>
    exact ⟨Nat.le_refl _, (isExpressible_var name).mpr (writable _ (List.mem_singleton.mpr rfl))⟩
  | number value =>
    exact ⟨Nat.le_refl _, (isExpressible_literal value).mpr (writable _ (List.mem_singleton.mpr rfl))⟩
  | element base subscript baseTree subscriptTree indexed _ baseFits subscriptFits =>
    obtain ⟨opened, _⟩ := (writable_around _ _ []).mp writable
    obtain ⟨baseWritable, _, subscriptWritable⟩ := (writable_around _ _ _).mp opened
    have base := (baseFits baseWritable).2
    have subscript := (subscriptFits subscriptWritable).2
    exact ⟨Nat.le_refl _, (isExpressible_index _ _).mpr ⟨⟨indexed.isLvalue, base⟩, subscript⟩⟩
  | ofTarget tokens tree _ ih => exact ih writable
  | ofTighter level tokens tree _ ih =>
    obtain ⟨tight, expressible⟩ := ih writable
    exact ⟨Nat.le_of_succ_le tight, expressible⟩
  | binary level op left right leftTree rightTree listed _ _ leftFits rightFits =>
    obtain rfl := (mem_operatorsAt_iff op level).mp listed
    obtain ⟨leftWritable, _, rightWritable⟩ := (writable_around _ _ _).mp writable
    have left := leftFits leftWritable
    have right := rightFits rightWritable
    exact ⟨Nat.le_refl _, (isExpressible_binary _ _ _).mpr ⟨left, right⟩⟩
  | ofComparison tokens tree _ ih =>
    exact ⟨Nat.zero_le _, (ih writable).2⟩
  | assign target value targetTree valueTree before _ targetFits valueFits =>
    obtain ⟨targetWritable, _, valueWritable⟩ := (writable_around _ _ _).mp writable
    have target := (targetFits targetWritable).2
    have value := (valueFits valueWritable).2
    exact ⟨Nat.zero_le _, (isExpressible_assign _ _).mpr ⟨⟨before.isLvalue, target⟩, value⟩⟩

end Expr

theorem isExpressible_of_parseWith (source : String) (options : Options) (tree : Expr)
    (parsed : parseWith source options = .ok tree) : tree.isExpressible = true := by
  obtain ⟨_, derived, _⟩ := parseWith_ok source options tree parsed
  have writable : ∀ token ∈ tokensOf (wordsOf source), token.Writable := by
    intro token member
    obtain ⟨word, inside, rfl⟩ := List.mem_map.mp member
    exact wordsOf_writable source word inside
  exact (Expr.isExpressible_of_derives _ _ tree derived writable).2

/-- Only expressible trees are read. So a tree that is not expressible is the answer
for no text, and its printed form, if it reads at all, reads as another tree. -/
theorem parseWith_only_expressible :
    (∀ (source : String) (options : Options) (tree : Expr),
      parseWith source options = .ok tree → tree.isExpressible = true) ∧
    ∀ tree : Expr, tree.isExpressible = false →
      (∀ (source : String) (options : Options), parseWith source options ≠ .ok tree) ∧
      ∀ options : Options, (∃ fault, parseWith tree.render options = .error fault) ∨
        ∃ other, parseWith tree.render options = .ok other ∧ other ≠ tree := by
  refine ⟨isExpressible_of_parseWith, ?_⟩
  intro tree inexpressible
  have never (source : String) (options : Options) : parseWith source options ≠ .ok tree := by
    intro parsed
    rw [isExpressible_of_parseWith source options tree parsed] at inexpressible
    contradiction
  refine ⟨never, ?_⟩
  intro options
  cases reread : parseWith tree.render options with
  | error fault => exact .inl ⟨fault, rfl⟩
  | ok other =>
    refine .inr ⟨other, rfl, ?_⟩
    intro same
    exact never tree.render options (same ▸ reread)

/-- The tree of a product with a sum on its left prints as a sum with a product on its
right, and reads as that. -/
theorem parseWith_only_expressible_product :
    (Expr.binary .mul (.binary .add (.literal 1) (.literal 2)) (.literal 3)).isExpressible = false ∧
      (Expr.binary .add (.literal 1) (.binary .mul (.literal 2) (.literal 3))).isExpressible = true ∧
      parseWith "1 + 2 * 3" {} ≠
        .ok (.binary .mul (.binary .add (.literal 1) (.literal 2)) (.literal 3)) := by
  have sumFirst : (Expr.binary .mul (.binary .add (.literal 1) (.literal 2)) (.literal 3)).isExpressible = false :=
    rfl
  refine ⟨sumFirst, ?_, ?_⟩
  · exact parseWith_only_expressible.1 "1 + 2 * 3" {} _ (by decide +kernel)
  · exact (parseWith_only_expressible.2 _ sumFirst).1 "1 + 2 * 3" {}

end ExprLang
