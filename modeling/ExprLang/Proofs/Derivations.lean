import ExprLang.Proofs.Reading

/-! Derivations as runs over their tokens. A phrase that begins in some context ends
with the frames of its own that later tokens can still change, and with nothing else
left open. So no tokens derive two trees. -/
namespace ExprLang

/-- The operators of a level are those that bind with its precedence. -/
theorem mem_operatorsAt_iff (op : BinaryOperator) (level : Nat) :
    op ∈ operatorsAt level ↔ op.precedence = level := by
  constructor
  · intro listed
    match level with
    | 1 | 2 | 3 => cases op <;> first | rfl | simp [operatorsAt] at listed
    | 0 | _ + 4 => simp [operatorsAt] at listed
  · rintro rfl
    cases op <;> simp [operatorsAt, BinaryOperator.precedence]

theorem Derives.joined (op : BinaryOperator) (left right : List Token) (leftTree rightTree : Expr)
    (before : Derives (.operand op.precedence) left leftTree)
    (behind : Derives (.operand (op.precedence + 1)) right rightTree) :
    Derives (.operand op.precedence) (left ++ .operator op :: right) (.binary op leftTree rightTree) :=
  .binary _ op left right leftTree rightTree ((mem_operatorsAt_iff op _).mpr rfl) before behind

def Phrase.level : Phrase → Nat
  | .expression => Precedence.assignment
  | .target => Precedence.primary
  | .operand level => level

def Phrase.entry : Phrase → Nat
  | .expression => Precedence.comparison
  | .target => Precedence.primary
  | .operand level => level

def Phrase.BeginsIn (phrase : Phrase) (context : Context) : Prop := context.OpenAt phrase.entry

/-- Whether a `[` behind the tree would index its last operand. -/
def Expr.endsIndexable : Expr → Bool
  | .literal _ => false
  | .var _ | .index _ _ => true
  | .assign _ value => value.endsIndexable
  | .binary _ _ right => right.endsIndexable

/-- Whether a token right behind the phrase still belongs to it. -/
def Phrase.goesOn (phrase : Phrase) (tree : Expr) : Token → Bool
  | .operator op => phrase.level ≤ op.precedence
  | .assign => phrase.level ≤ Precedence.assignment
  | .leftBracket => tree.endsIndexable
  | _ => false

theorem Phrase.not_goesOn_operator (phrase : Phrase) (tree : Expr) (op : BinaryOperator) :
    phrase.goesOn tree (.operator op) = false ↔ op.precedence < phrase.level := by
  rw [goesOn, decide_eq_false_iff_not, Nat.not_le]

theorem Phrase.not_goesOn_assign (phrase : Phrase) (tree : Expr) :
    phrase.goesOn tree .assign = false ↔ Precedence.assignment < phrase.level := by
  rw [goesOn, decide_eq_false_iff_not, Nat.not_le]

theorem Expr.endsIndexable_of_isLvalue (tree : Expr) (lvalue : tree.isLvalue = true) :
    tree.endsIndexable = true := by
  cases tree with
  | var name => rfl
  | index base subscript => rfl
  | _ => contradiction

private theorem Context.endsIndexable_close (level : Nat) (context : Context) (tree : Expr) :
    (context.close level tree).2.endsIndexable = tree.endsIndexable := by
  induction context generalizing tree with
  | nil => rfl
  | cons frame outer ih =>
    cases closes : frame.closesAt level with
    | false => rw [close, closes]; rfl
    | true =>
      rw [close, if_pos closes, ih]
      cases frame with
      | subscript base => contradiction
      | _ => rfl

theorem Derives.isLvalue {tokens : List Token} {tree : Expr} (derived : Derives .target tokens tree) :
    tree.isLvalue = true := by
  cases derived with
  | name name => rfl
  | element => rfl

theorem Derives.target_of_isLvalue (level : Nat) (tokens : List Token) (tree : Expr)
    (derived : Derives (.operand level) tokens tree) (lvalue : tree.isLvalue = true) :
    Derives .target tokens tree := by
  generalize same : Phrase.operand level = phrase at derived
  induction derived generalizing level with
  | ofTarget tokens tree target _ => exact target
  | ofTighter _ tokens tree _ ih => exact ih _ lvalue rfl
  | number value => contradiction
  | binary _ op left right leftTree rightTree _ _ _ _ _ => contradiction
  | _ => contradiction

theorem Derives.ne_nil {phrase : Phrase} {tokens : List Token} {tree : Expr}
    (derived : Derives phrase tokens tree) : tokens ≠ [] := by
  induction derived with
  | ofTarget tokens tree _ ih => exact ih
  | ofTighter level tokens tree _ ih => exact ih
  | ofComparison tokens tree _ ih => exact ih
  | _ => simp

theorem Derives.ne_endOfInput (phrase : Phrase) (tokens : List Token) (tree : Expr)
    (derived : Derives phrase tokens tree) : ∀ token ∈ tokens, token ≠ .endOfInput := by
  induction derived with
  | name name => simp
  | number value => simp
  | element base subscript baseTree subscriptTree _ _ indexed bracketed =>
    simp only [List.mem_append, List.mem_cons, List.not_mem_nil, or_false]
    rintro token ((inside | rfl | inside) | rfl)
    · exact indexed token inside
    · simp
    · exact bracketed token inside
    · simp
  | ofTarget tokens tree _ ih => exact ih
  | ofTighter level tokens tree _ ih => exact ih
  | ofComparison tokens tree _ ih => exact ih
  | binary level op left right leftTree rightTree _ _ _ before behind =>
    simp only [List.mem_append, List.mem_cons]
    rintro token (inside | rfl | inside)
    · exact before token inside
    · simp
    · exact behind token inside
  | assign target value targetTree valueTree _ _ before behind =>
    simp only [List.mem_append, List.mem_cons]
    rintro token (inside | rfl | inside)
    · exact before token inside
    · simp
    · exact behind token inside

namespace Reading

/-- The state behind a phrase: frames of the phrase may be unfinished, and it takes
nothing but a token that binds looser to complete them to the phrase's tree. -/
def Behind (phrase : Phrase) (context : Context) (tree : Expr) (state : Reading) : Prop :=
  ∃ inner operand, state = .holding inner operand ∧
    inner.close phrase.level operand = context.close phrase.level tree

private theorem behind_target (context : Context) (tree : Expr) (state : Reading)
    (behind : Behind .target context tree state) : state = .holding context tree := by
  obtain ⟨inner, operand, rfl, closed⟩ := behind
  simp only [Phrase.level, Context.close_of_openAt _ _ (Context.openAt_primary _)] at closed
  cases closed
  rfl

private theorem behind_looser (phrase looser : Phrase) (below : looser.level ≤ phrase.level)
    (context : Context) (tree : Expr) (state : Reading) (behind : Behind phrase context tree state) :
    Behind looser context tree state := by
  obtain ⟨inner, operand, rfl, closed⟩ := behind
  refine ⟨inner, operand, rfl, ?_⟩
  rw [← inner.close_close _ _ below, closed, context.close_close _ _ below]

private theorem behind_filled (phrase looser : Phrase) (below : looser.level ≤ phrase.level) (frame : Frame)
    (closes : frame.closesAt looser.level = true) (context : Context) (tree : Expr) (state : Reading)
    (behind : Behind phrase (frame :: context) tree state) :
    Behind looser context (frame.fill tree) state := by
  obtain ⟨inner, operand, rfl, closed⟩ := behind
  refine ⟨inner, operand, rfl, ?_⟩
  rw [← inner.close_close _ _ below, closed, Context.close_close _ _ below, Context.close, if_pos closes]

theorem step_operator (op : BinaryOperator) (context : Context) (left : Expr) (state : Reading)
    (begins : context.OpenAt op.precedence)
    (behind : Behind (.operand op.precedence) context left state) :
    state.step (.operator op) = some (.wanting (.operand op left :: context)) := by
  obtain ⟨inner, operand, rfl, closed⟩ := behind
  rw [Phrase.level, context.close_of_openAt _ begins] at closed
  simp only [step, closed]

theorem step_assign (context : Context) (left : Expr) (state : Reading)
    (begins : context.OpenAt Precedence.comparison)
    (behind : Behind (.operand Precedence.comparison) context left state) :
    state.step .assign =
      if left.isLvalue then some (.wanting (.value left :: context)) else none := by
  obtain ⟨inner, operand, rfl, closed⟩ := behind
  rw [Phrase.level, context.close_of_openAt _ begins] at closed
  simp only [step, closed]

theorem step_leftBracket (context : Context) (base : Expr) (lvalue : base.isLvalue = true) :
    (holding context base).step .leftBracket = some (.wanting (.subscript base :: context)) := by
  simp only [step, lvalue, if_true]

theorem step_rightBracket (context : Context) (base subscript : Expr) (state : Reading)
    (behind : Behind .expression (.subscript base :: context) subscript state) :
    state.step .rightBracket = some (.holding context (.index base subscript)) := by
  obtain ⟨inner, operand, rfl, closed⟩ := behind
  have stays : (Frame.subscript base).closesAt Precedence.assignment = false := rfl
  simp only [Phrase.level, Context.close, stays, Bool.false_eq_true, if_false] at closed
  simp only [step, closed]

theorem run_snoc (state middle : Reading) (tokens : List Token) (token : Token)
    (ran : state.run tokens = some middle) : state.run (tokens ++ [token]) = middle.step token := by
  rw [run_append, ran]
  exact run_singleton middle token

private theorem run_cons_behind (state middle next : Reading) (tokens rest : List Token) (token : Token)
    (ran : state.run tokens = some middle) (stepped : middle.step token = some next) :
    state.run (tokens ++ token :: rest) = next.run rest := by
  rw [List.append_cons, run_append, run_snoc state middle tokens token ran, stepped]
  rfl

theorem beginsIn_nothing (phrase : Phrase) : phrase.BeginsIn [] := nofun

theorem beginsIn_operand (op : BinaryOperator) (left : Expr) (context : Context) :
    Phrase.BeginsIn (.operand (op.precedence + 1)) (.operand op left :: context) := by
  intro frame member
  cases member
  exact decide_eq_false (Nat.not_succ_le_self _)

theorem beginsIn_value (target : Expr) (context : Context) :
    Phrase.BeginsIn .expression (.value target :: context) := by
  intro frame member
  cases member
  rfl

theorem beginsIn_subscript (base : Expr) (context : Context) :
    Phrase.BeginsIn .expression (.subscript base :: context) := by
  intro frame member
  cases member
  rfl

/-- A derivation is a run from before its phrase to behind it. -/
theorem run_of_derives (phrase : Phrase) (tokens : List Token) (tree : Expr)
    (derived : Derives phrase tokens tree) (context : Context) (begins : phrase.BeginsIn context) :
    ∃ state, (wanting context).run tokens = some state ∧ Behind phrase context tree state := by
  -- each phrase inside the derivation begins in a context of its own
  induction derived generalizing context with
  | name name => exact ⟨_, rfl, _, _, rfl, rfl⟩
  | number value => exact ⟨_, rfl, _, _, rfl, rfl⟩
  | ofTarget tokens tree _ ih => exact ih context begins
  | ofTighter level tokens tree _ ih =>
    have tighter : level ≤ level + 1 := Nat.le_succ level
    obtain ⟨state, ran, behind⟩ := ih context (context.openAt_of_le _ _ tighter begins)
    exact ⟨state, ran, behind_looser (.operand (level + 1)) (.operand level) tighter _ _ _ behind⟩
  | ofComparison tokens tree _ ih =>
    obtain ⟨state, ran, behind⟩ := ih context begins
    exact ⟨state, ran, behind_looser _ .expression (Nat.zero_le _) _ _ _ behind⟩
  | binary level op left right leftTree rightTree listed _ _ before after =>
    obtain rfl := (mem_operatorsAt_iff op level).mp listed
    obtain ⟨middle, ranLeft, behindLeft⟩ := before context begins
    have stepped := step_operator op context leftTree middle begins behindLeft
    obtain ⟨state, ranRight, behindRight⟩ := after _ (beginsIn_operand op leftTree context)
    refine ⟨state, ?_, ?_⟩
    · rw [run_cons_behind _ _ _ _ _ _ ranLeft stepped, ranRight]
    · exact behind_filled _ (.operand op.precedence) (Nat.le_succ _) (.operand op leftTree)
        (decide_eq_true (Nat.le_refl _)) _ _ _ behindRight
  | element base subscript baseTree subscriptTree indexed _ before inside =>
    obtain ⟨middle, ranBase, behindBase⟩ := before context begins
    rw [behind_target _ _ _ behindBase] at ranBase
    have stepped := step_leftBracket context baseTree indexed.isLvalue
    obtain ⟨state, ranInside, behindInside⟩ := inside _ (beginsIn_subscript baseTree context)
    refine ⟨.holding context (.index baseTree subscriptTree), ?_, _, _, rfl, rfl⟩
    rw [run_append, run_cons_behind _ _ _ _ _ _ ranBase stepped, ranInside]
    exact (run_singleton state _).trans (step_rightBracket _ _ _ _ behindInside)
  | assign target value targetTree valueTree assigned _ before after =>
    obtain ⟨middle, ranTarget, behindTarget⟩ := before context context.openAt_primary
    have stepped := step_assign context targetTree middle begins
      (behind_looser _ (.operand Precedence.comparison) (by decide) _ _ _ behindTarget)
    rw [if_pos assigned.isLvalue] at stepped
    obtain ⟨state, ranValue, behindValue⟩ := after _ (beginsIn_value targetTree context)
    refine ⟨state, ?_, ?_⟩
    · rw [run_cons_behind _ _ _ _ _ _ ranTarget stepped, ranValue]
    · exact behind_filled .expression .expression (Nat.le_refl _) _ rfl _ _ _ behindValue

theorem run_operator (op : BinaryOperator) (left : List Token) (leftTree : Expr)
    (derived : Derives (.operand op.precedence) left leftTree) (context : Context)
    (begins : Phrase.BeginsIn (.operand op.precedence) context) :
    (wanting context).run (left ++ [.operator op]) = some (.wanting (.operand op leftTree :: context)) := by
  obtain ⟨state, ran, behind⟩ := run_of_derives _ left leftTree derived context begins
  rw [run_snoc _ state _ _ ran]
  exact step_operator op context leftTree state begins behind

theorem run_assign (target : List Token) (targetTree : Expr)
    (derived : Derives .target target targetTree) (context : Context)
    (begins : Phrase.BeginsIn .expression context) :
    (wanting context).run (target ++ [.assign]) = some (.wanting (.value targetTree :: context)) := by
  obtain ⟨state, ran, behind⟩ := run_of_derives _ target targetTree derived context context.openAt_primary
  have looser := behind_looser _ (.operand Precedence.comparison) (by decide) _ _ _ behind
  rw [run_snoc _ state _ _ ran, step_assign context targetTree state begins looser,
    if_pos derived.isLvalue]

theorem run_leftBracket (base : List Token) (baseTree : Expr)
    (derived : Derives .target base baseTree) (context : Context) :
    (wanting context).run (base ++ [.leftBracket]) = some (.wanting (.subscript baseTree :: context)) := by
  obtain ⟨state, ran, behind⟩ := run_of_derives _ base baseTree derived context context.openAt_primary
  rw [run_snoc _ state _ _ ran, behind_target _ _ _ behind]
  exact step_leftBracket context baseTree derived.isLvalue

theorem reach_behind (phrase : Phrase) (context : Context) (tree : Expr) (state : Reading)
    (behind : Behind phrase context tree state) : state.reach = context.rise tree.height := by
  obtain ⟨inner, operand, rfl, closed⟩ := behind
  rw [reach_holding phrase.level, closed, context.rise_close]

private theorem finish_behind (tree : Expr) (state : Reading) (behind : Behind .expression [] tree state) :
    state.finish = some tree := by
  obtain ⟨inner, operand, rfl, closed⟩ := behind
  have whole : inner.close Precedence.assignment operand = ([], tree) := closed
  simp only [finish, whole]

theorem finish_of_lacks (state : Reading) (lacks : Lacks [] state) : state.finish = none := by
  cases state with
  | wanting context => rfl
  | holding context operand =>
    cases finished : (holding context operand).finish with
    | none => rfl
    | some tree =>
      simp only [finish] at finished
      split at finished
      · rename_i whole closed
        have closedBrackets := context.brackets_close Precedence.assignment operand
        have fewer : Context.brackets [] < context.brackets := lacks
        rw [← closedBrackets, closed] at fewer
        exact absurd fewer (Nat.lt_irrefl _)
      · contradiction

theorem step_behind_expression (context : Context) (tree : Expr) (state : Reading) (token : Token)
    (behind : Behind .expression context tree state)
    (ends : Phrase.expression.goesOn tree token = false)
    (noBracket : token ≠ .rightBracket ∨ context = []) : state.step token = none := by
  obtain ⟨inner, operand, rfl, closed⟩ := behind
  cases token with
  | operator op => contradiction
  | assign => contradiction
  | leftBracket =>
    have notIndexable : operand.isLvalue = false := by
      cases lvalue : operand.isLvalue with
      | false => rfl
      | true =>
        have indexable := operand.endsIndexable_of_isLvalue lvalue
        rw [← inner.endsIndexable_close Phrase.expression.level operand, closed,
          context.endsIndexable_close] at indexable
        rw [Phrase.goesOn, indexable] at ends
        contradiction
    simp only [step, notIndexable, Bool.false_eq_true, if_false]
  | rightBracket =>
    obtain other | rfl := noBracket
    · contradiction
    · have whole : inner.close Precedence.assignment operand = ([], tree) := closed
      simp only [step, whole]
  | _ => rfl

theorem finish_of_derives (tokens : List Token) (tree : Expr)
    (derived : Derives .expression tokens tree) :
    ((wanting []).run tokens).bind finish = some tree := by
  obtain ⟨state, ran, behind⟩ := run_of_derives .expression tokens tree derived [] (beginsIn_nothing _)
  rw [ran]
  exact finish_behind tree state behind

theorem run_of_viable (tokens : List Token) (viable : Viable tokens) :
    ∃ state, (wanting []).run tokens = some state := by
  obtain ⟨rest, tree, derived⟩ := viable
  have finished := finish_of_derives _ tree derived
  rw [run_append] at finished
  cases ran : (wanting []).run tokens with
  | none => rw [ran] at finished; contradiction
  | some state => exact ⟨state, rfl⟩

theorem reach_le_height (tokens rest : List Token) (tree : Expr) (state : Reading)
    (derived : Derives .expression (tokens ++ rest) tree)
    (ran : (wanting []).run tokens = some state) : state.reach ≤ tree.height := by
  have finished := finish_of_derives _ tree derived
  rw [run_append, ran] at finished
  obtain ⟨last, ranRest, finished⟩ := Option.bind_eq_some_iff.mp finished
  rw [← reach_finish last tree finished]
  exact (reach_run state last rest ranRest).1

end Reading

/-- No tokens derive two trees as an expression. -/
theorem Derives.unique (tokens : List Token) (first second : Expr)
    (left : Derives .expression tokens first) (right : Derives .expression tokens second) :
    first = second := by
  have same := Reading.finish_of_derives tokens first left
  rw [Reading.finish_of_derives tokens second right] at same
  exact (Option.some.inj same).symm

end ExprLang
