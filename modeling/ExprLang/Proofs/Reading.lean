import ExprLang.Grammar

/-! Reading tokens one at a time, from left to right. Any tokens that begin an
expression lead to one state: the unfinished nodes around the phrase to come and,
behind an operand, the operand. Each derivation is a run between such states, so
where a run has no next step no expression goes on. -/
namespace ExprLang

/-- A node that still lacks its last child. -/
inductive Frame where
  | operand (op : BinaryOperator) (left : Expr)
  | value (target : Expr)
  | subscript (base : Expr)

namespace Frame

def fill : Frame → Expr → Expr
  | .operand op left, tree => .binary op left tree
  | .value target, tree => .assign target tree
  | .subscript base, tree => .index base tree

def first : Frame → Expr
  | .operand _ left => left
  | .value target => target
  | .subscript base => base

def closesAt (level : Nat) : Frame → Bool
  | .operand op _ => level ≤ op.precedence
  | .value _ => level ≤ Precedence.assignment
  | .subscript _ => false

def depth : Frame → Nat
  | .operand _ _ => 0
  | .value _ | .subscript _ => 1

def brackets : Frame → Nat
  | .operand _ _ | .value _ => 0
  | .subscript _ => 1

theorem height_fill (frame : Frame) (tree : Expr) :
    (frame.fill tree).height = max frame.first.height tree.height + 1 := by
  cases frame <;> rfl

private theorem closesAt_of_le (frame : Frame) (lower level : Nat) (below : lower ≤ level)
    (closes : frame.closesAt level = true) : frame.closesAt lower = true := by
  cases frame with
  | operand op left => simp only [closesAt, decide_eq_true_eq] at closes ⊢; omega
  | value target => simp only [closesAt, decide_eq_true_eq] at closes ⊢; omega
  | subscript base => exact closes

private theorem not_closesAt_primary (frame : Frame) : frame.closesAt Precedence.primary = false := by
  cases frame with
  | operand op left => cases op <;> rfl
  | value target => rfl
  | subscript base => rfl

private theorem brackets_of_closesAt (frame : Frame) (level : Nat) (closes : frame.closesAt level = true) :
    frame.brackets = 0 := by
  cases frame with
  | subscript base => simp [closesAt] at closes
  | _ => rfl

end Frame

/-- The nodes around the phrase to come, the innermost first. -/
abbrev Context := List Frame

namespace Context

def depth : Context → Nat
  | [] => 0
  | frame :: outer => frame.depth + depth outer

def brackets : Context → Nat
  | [] => 0
  | frame :: outer => frame.brackets + brackets outer

/-- The height of the whole tree if the phrase has the given height and nothing else
is read. -/
def rise : Context → Nat → Nat
  | [], height => height
  | frame :: outer, height => rise outer (max frame.first.height height + 1)

def close (level : Nat) : Context → Expr → Context × Expr
  | [], tree => ([], tree)
  | frame :: outer, tree =>
    if frame.closesAt level then close level outer (frame.fill tree) else (frame :: outer, tree)

def OpenAt (level : Nat) (context : Context) : Prop :=
  ∀ frame ∈ context.head?, frame.closesAt level = false

theorem rise_mono (context : Context) (lower higher : Nat) (below : lower ≤ higher) :
    context.rise lower ≤ context.rise higher := by
  induction context generalizing lower higher with
  | nil => exact below
  | cons frame outer ih => exact ih _ _ (by omega)

private theorem rise_succ_le (context : Context) (height : Nat) :
    context.rise (height + 1) ≤ context.rise height + 1 := by
  induction context generalizing height with
  | nil => exact Nat.le_refl _
  | cons frame outer ih =>
    have above := ih (max frame.first.height height + 1)
    have wider := Context.rise_mono outer (max frame.first.height (height + 1) + 1)
      (max frame.first.height height + 1 + 1) (by omega)
    exact Nat.le_trans wider above

theorem depth_add_le_rise (context : Context) (height : Nat) :
    context.depth + height ≤ context.rise height := by
  induction context generalizing height with
  | nil => simp [depth, rise]
  | cons frame outer ih =>
    have above := ih (max frame.first.height height + 1)
    have step : frame.depth ≤ 1 := by cases frame <;> simp [Frame.depth]
    simp only [depth, rise] at above ⊢
    omega

theorem close_of_openAt (level : Nat) (context : Context) (isOpen : context.OpenAt level)
    (tree : Expr) : context.close level tree = (context, tree) := by
  cases context with
  | nil => rfl
  | cons frame outer => simp [close, isOpen frame rfl]

theorem openAt_of_le (lower level : Nat) (context : Context) (below : lower ≤ level)
    (isOpen : context.OpenAt lower) : context.OpenAt level := by
  intro frame member
  cases closes : frame.closesAt level with
  | false => rfl
  | true =>
    have lowerCloses := frame.closesAt_of_le lower level below closes
    rw [isOpen frame member] at lowerCloses
    contradiction

theorem openAt_primary (context : Context) : context.OpenAt Precedence.primary :=
  fun frame _ => frame.not_closesAt_primary

theorem close_close (lower level : Nat) (below : lower ≤ level) (context : Context) (tree : Expr) :
    (context.close level tree).1.close lower (context.close level tree).2 =
      context.close lower tree := by
  induction context generalizing tree with
  | nil => rfl
  | cons frame outer ih =>
    by_cases closes : frame.closesAt level
    · rw [close, if_pos closes, ih, close, if_pos (frame.closesAt_of_le lower level below closes)]
    · rw [close, if_neg closes]

theorem rise_close (level : Nat) (context : Context) (tree : Expr) :
    (context.close level tree).1.rise (context.close level tree).2.height =
      context.rise tree.height := by
  induction context generalizing tree with
  | nil => rfl
  | cons frame outer ih =>
    by_cases closes : frame.closesAt level
    · rw [close, if_pos closes, ih, rise, Frame.height_fill]
    · rw [close, if_neg closes]

theorem brackets_close (level : Nat) (context : Context) (tree : Expr) :
    (context.close level tree).1.brackets = context.brackets := by
  induction context generalizing tree with
  | nil => rfl
  | cons frame outer ih =>
    by_cases closes : frame.closesAt level
    · rw [close, if_pos closes, ih]
      simp [brackets, frame.brackets_of_closesAt level closes]
    · rw [close, if_neg closes]

end Context

/-- Where the reading of tokens stands: before an operand, or behind one. -/
inductive Reading where
  | wanting (context : Context)
  | holding (context : Context) (operand : Expr)

namespace Reading

/-- One more token. There is none where no expression goes on with the token. -/
def step : Reading → Token → Option Reading
  | .wanting context, .number value => some (.holding context (.literal value))
  | .wanting context, .identifier name => some (.holding context (.var name))
  | .holding context operand, .operator op =>
    let (outer, left) := context.close op.precedence operand
    some (.wanting (.operand op left :: outer))
  | .holding context operand, .assign =>
    let (outer, target) := context.close Precedence.comparison operand
    if target.isLvalue then some (.wanting (.value target :: outer)) else none
  | .holding context operand, .leftBracket =>
    if operand.isLvalue then some (.wanting (.subscript operand :: context)) else none
  | .holding context operand, .rightBracket =>
    match context.close Precedence.assignment operand with
    | (.subscript base :: outer, subscript) => some (.holding outer (.index base subscript))
    | _ => none
  | _, _ => none

def run (state : Reading) (tokens : List Token) : Option Reading :=
  tokens.foldlM step state

def finish : Reading → Option Expr
  | .holding context operand =>
    match context.close Precedence.assignment operand with
    | ([], tree) => some tree
    | _ => none
  | .wanting _ => none

/-- The height that every tree reaches which goes on from here. -/
def reach : Reading → Nat
  | .wanting context => context.rise 0
  | .holding context operand => context.rise operand.height

def Lacks (context : Context) : Reading → Prop
  | .wanting _ => True
  | .holding inner _ => context.brackets < inner.brackets

theorem run_append (state : Reading) (first second : List Token) :
    state.run (first ++ second) = (state.run first).bind (fun middle => middle.run second) := by
  rw [run, List.foldlM_append]
  rfl

theorem run_singleton (state : Reading) (token : Token) : state.run [token] = state.step token := by
  simp [run]

theorem reach_holding (level : Nat) (context : Context) (operand : Expr) :
    (holding context operand).reach =
      (context.close level operand).1.rise (context.close level operand).2.height :=
  (context.rise_close level operand).symm

private theorem reach_wanting (frame : Frame) (outer : Context) :
    outer.rise frame.first.height ≤ (wanting (frame :: outer)).reach ∧
      (wanting (frame :: outer)).reach ≤ outer.rise frame.first.height + 1 := by
  have same : (wanting (frame :: outer)).reach = outer.rise (frame.first.height + 1) :=
    congrArg (fun height => outer.rise (height + 1)) (Nat.max_eq_left (Nat.zero_le _))
  rw [same]
  exact ⟨outer.rise_mono _ _ (Nat.le_succ _), outer.rise_succ_le _⟩

theorem reach_step (state next : Reading) (token : Token) (stepped : state.step token = some next) :
    state.reach ≤ next.reach ∧ next.reach ≤ state.reach + 1 := by
  cases state with
  | wanting context =>
    cases token <;> simp only [step, reduceCtorEq, Option.some.injEq] at stepped
    all_goals
      subst next
      exact ⟨context.rise_mono 0 1 (Nat.zero_le _), context.rise_succ_le 0⟩
  | holding context operand =>
    cases token with
    | operator op =>
      cases stepped
      rw [reach_holding op.precedence]
      exact reach_wanting (.operand op _) _
    | assign =>
      simp only [step] at stepped
      split at stepped
      · cases stepped
        rw [reach_holding Precedence.comparison]
        exact reach_wanting (.value _) _
      · contradiction
    | leftBracket =>
      simp only [step] at stepped
      split at stepped
      · cases stepped
        exact reach_wanting (.subscript operand) context
      · contradiction
    | rightBracket =>
      simp only [step] at stepped
      split at stepped
      · rename_i base outer subscript closes
        cases stepped
        rw [reach_holding Precedence.assignment, closes]
        exact ⟨Nat.le_refl _, Nat.le_succ _⟩
      · contradiction
    | _ => simp [step] at stepped

theorem reach_run (state last : Reading) (tokens : List Token)
    (ran : state.run tokens = some last) :
    state.reach ≤ last.reach ∧ last.reach ≤ state.reach + tokens.length := by
  induction tokens generalizing state with
  | nil => cases ran; exact ⟨Nat.le_refl _, Nat.le_refl _⟩
  | cons token tokens ih =>
    obtain ⟨next, stepped, ran⟩ := Option.bind_eq_some_iff.mp ran
    have first := reach_step state next token stepped
    have rest := ih next ran
    rw [List.length_cons]
    omega

theorem reach_finish (state : Reading) (tree : Expr) (finished : state.finish = some tree) :
    state.reach = tree.height := by
  cases state with
  | wanting context => contradiction
  | holding context operand =>
    simp only [finish] at finished
    split at finished
    · rename_i whole closes
      cases finished
      rw [reach_holding Precedence.assignment, closes]
      rfl
    · contradiction

end Reading

end ExprLang
