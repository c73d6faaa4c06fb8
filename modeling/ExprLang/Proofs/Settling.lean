import ExprLang.Proofs.Journal
import ExprLang.Proofs.Sites
import ExprLang.Proofs.StreamCalls

/-! What a parser does where the tokens of a tree lie before it. It finishes the trees inside
the tree one after the other, each behind those inside it, and ends with the tree, or else with
an error at the first one that the limit does not allow. -/
namespace ExprLang

/-- Where a phrase is read: the items that are to come, and the depth and the limit of the
account. -/
structure Setting where
  items : Stream' LexItem
  depth : Nat
  limit : Nat

namespace Setting

def below (setting : Setting) : Setting := { setting with depth := setting.depth + 1 }

def refusal (setting : Setting) (site : Site) : Error :=
  .parse (.nestingTooDeep setting.limit (LexItem.position (setting.items.get site.anchor)))

structure Reaches (setting : Setting) (place : Nat) (now : TokenStream) : Prop where
  supply : now.supply = setting.items.drop place
  depth : now.depth = setting.depth
  limit : now.limit = setting.limit

structure Raises (setting : Setting) (place : Nat) (tree : Expr) (now : TokenStream) : Prop
    extends Reaches setting (place + tree.tokens.length) now where
  height : now.height = tree.height
  room : setting.depth + tree.height ≤ setting.limit

/-- Whether a run finishes the trees at the sites in turn: it goes on to its answer if all are
within the limit, and fails at the first that is not. -/
def Walks {α : Type} (setting : Setting) (sites : List Site) (parser : Parser α) (now : TokenStream)
    (accepts : α → TokenStream → Prop) : Prop :=
  parser.Meets now
    (fun answer after => sites.find? (Site.exceeds setting.limit) = none ∧ accepts answer after)
    (fun fault _ => ∃ site, sites.find? (Site.exceeds setting.limit) = some site ∧
      fault = setting.refusal site)

def Ends (setting : Setting) (level place : Nat) (tree : Expr) : Prop :=
  ∃ next, setting.items.get (place + tree.tokens.length) = .ok next ∧
    (Phrase.ofLevel level).goesOn tree next.token = false

def Builds (setting : Setting) (level : Nat) (parser : Parser Expr) : Prop :=
  ∀ tree place now, tree.fits level = true → setting.Reaches place now →
    Spells setting.items place tree.tokens → setting.Ends level place tree →
    setting.Walks (tree.sites setting.depth place) parser now
      (fun answer after => answer = tree ∧ setting.Raises place tree after)

end Setting

theorem Phrase.level_ofLevel (level : Nat) : (Phrase.ofLevel level).level = level := by
  cases level <;> rfl

theorem Phrase.not_goesOn_tighter (loose tight : Nat) (below : loose ≤ tight) (tree : Expr) (token : Token)
    (ends : (Phrase.ofLevel loose).goesOn tree token = false) :
    (Phrase.ofLevel tight).goesOn tree token = false := by
  cases token with
  | operator op =>
    rw [not_goesOn_operator, level_ofLevel] at *
    omega
  | assign =>
    rw [not_goesOn_assign, level_ofLevel] at *
    omega
  | leftBracket => exact ends
  | _ => rfl

namespace Setting
variable {setting : Setting} {place start : Nat} {tree part : Expr}

private theorem Ends.tighter {loose tight : Nat} (ends : setting.Ends loose place tree) (below : loose ≤ tight) :
    setting.Ends tight place tree := by
  obtain ⟨next, item, stops⟩ := ends
  exact ⟨next, item, Phrase.not_goesOn_tighter loose tight below tree next.token stops⟩

private theorem Ends.last {level : Nat} (ends : setting.Ends level place tree)
    (edge : tree.endsIndexable = part.endsIndexable)
    (finish : place + tree.tokens.length = start + part.tokens.length) : setting.Ends level start part := by
  obtain ⟨next, item, stops⟩ := ends
  rw [finish] at item
  refine ⟨next, item, ?_⟩
  cases token : next.token with
  | leftBracket =>
    rw [token] at stops
    exact edge.symm.trans stops
  | _ =>
    rw [token] at stops
    exact stops

end Setting

namespace Expr

private theorem fits_operand (tree : Expr) (level : Nat) (looser : Precedence.assignment < level)
    (tighter : level < Precedence.primary) (fits : tree.fits level = true) :
    tree.fits (level + 1) = true ∨ ∃ op left right, tree = .binary op left right ∧ op.precedence = level := by
  obtain ⟨binds, expressible⟩ := (tree.fits_iff level).mp fits
  cases tree with
  | assign target value => exact absurd binds (Nat.not_le_of_lt looser)
  | binary op left right =>
    by_cases same : op.precedence = level
    · exact .inr ⟨op, left, right, rfl, same⟩
    · exact .inl ((fits_iff _ _).mpr ⟨Nat.lt_of_le_of_ne binds (Ne.symm same), expressible⟩)
  | _ => exact .inl ((fits_iff _ _).mpr ⟨tighter, expressible⟩)

private theorem fits_comparison (tree : Expr) (expressible : tree.isExpressible = true) :
    tree.fits Precedence.comparison = true ∨ ∃ target value, tree = .assign target value := by
  cases tree with
  | assign target value => exact .inr ⟨target, value, rfl⟩
  | binary op left right =>
    have binds : Precedence.comparison ≤ op.precedence := by cases op <;> decide
    exact .inl ((fits_iff _ _).mpr ⟨binds, expressible⟩)
  | _ =>
    have binds : Precedence.comparison ≤ Precedence.primary := by decide
    exact .inl ((fits_iff _ _).mpr ⟨binds, expressible⟩)

end Expr

private theorem length_around (place : Nat) (token : Token) (before behind : List Token) :
    place + before.length + 1 + behind.length = place + (before ++ token :: behind).length := by
  rw [List.length_append, List.length_cons]
  omega

private theorem spells_first (items : Stream' LexItem) (place : Nat) (tree : Expr)
    (spells : Spells items place tree.tokens) : ∃ first, items.get place = .ok first := by
  have someToken := tree.tokens_length_pos
  cases tokens : tree.tokens with
  | nil =>
    rw [tokens] at someToken
    contradiction
  | cons token others =>
    rw [tokens] at spells
    obtain ⟨position, item⟩ := spells.1
    exact ⟨_, item⟩

namespace Parser
open Setting

section
variable {α β : Type} {setting : Setting} {now : TokenStream} {place : Nat}

private theorem walks_bind {first : Parser β} {next : β → Parser α} {sites more : List Site}
    {middle : β → TokenStream → Prop} {accepts : α → TokenStream → Prop}
    (walks : setting.Walks sites first now middle)
    (goes : ∀ answer after, middle answer after → setting.Walks more (next answer) after accepts) :
    setting.Walks (sites ++ more) (first >>= next) now accepts := by
  refine Meets.bind walks ?_ ?_
  · rintro answer after ⟨within, kept⟩
    refine (goes answer after kept).mono ?_ ?_
    · rintro last final ⟨withinMore, accepted⟩
      refine ⟨?_, accepted⟩
      rw [List.find?_append, within, withinMore]
      rfl
    · rintro fault final ⟨site, found, rfl⟩
      refine ⟨site, ?_, rfl⟩
      rw [List.find?_append, within, found]
      rfl
  · rintro fault after ⟨site, found, rfl⟩
    refine ⟨site, ?_, rfl⟩
    rw [List.find?_append, found]
    rfl

theorem walks_step {first : Parser β} {next : β → Parser α} {sites : List Site}
    {middle : β → TokenStream → Prop} {accepts : α → TokenStream → Prop}
    (meets : first.Meets now middle (fun _ _ => False))
    (goes : ∀ answer after, middle answer after → setting.Walks sites (next answer) after accepts) :
    setting.Walks sites (first >>= next) now accepts :=
  Meets.bind meets goes (fun _ _ impossible => impossible.elim)

private theorem walks_none {parser : Parser α} {accepts : α → TokenStream → Prop}
    (meets : parser.Meets now accepts (fun _ _ => False)) : setting.Walks [] parser now accepts :=
  meets.mono (fun _ _ accepted => ⟨rfl, accepted⟩) (fun _ _ impossible => impossible.elim)

private theorem walks_nested {inner : Parser α} {sites : List Site} {accepts : α → TokenStream → Prop}
    (walks : setting.below.Walks sites inner now.descend (fun answer after => accepts answer after.ascend)) :
    setting.Walks sites (nested inner) now accepts :=
  meets_nested walks

section
variable {item : Spanned} (reaches : setting.Reaches place now)
  (next : setting.items.get place = .ok item)
include reaches next

private theorem supply_here : now.supply = .cons (.ok item) (setting.items.drop (place + 1)) := by
  rw [reaches.supply, ← Stream'.eta (setting.items.drop place), Stream'.head_drop, next,
    Stream'.tail_drop']

private theorem reaches_behind {after : TokenStream} (same : now.SameAccount after)
    (supply : now.supply = .cons (.ok item) after.supply) : setting.Reaches (place + 1) after := by
  rw [supply_here reaches next] at supply
  exact ⟨(congrArg Stream'.tail supply).symm, same.depth.trans reaches.depth, same.limit.trans reaches.limit⟩

private theorem item_here {found : Spanned} {rest : Stream' LexItem} (supply : now.supply = .cons (.ok found) rest) :
    found = item := by
  rw [supply_here reaches next] at supply
  have heads : (.ok item : LexItem) = .ok found := congrArg Stream'.head supply
  exact (Except.ok.inj heads).symm

private theorem not_breaks {fault : Error} {after : TokenStream} : ¬ now.Breaks fault after := by
  rintro ⟨cause, _, supply, _⟩
  rw [supply_here reaches next] at supply
  cases congrArg Stream'.head supply

private theorem peek_here : peek.Meets now
    (fun found after => found = item ∧ setting.Reaches place after ∧ after.height = now.height)
    (fun _ _ => False) := by
  refine (peek_meets now).mono ?_ (fun _ _ breaks => not_breaks reaches next breaks)
  rintro found after ⟨supply, ahead, same⟩
  have items := supply_of_lookahead after found ahead
  rw [supply] at items
  exact ⟨item_here reaches next items, ⟨supply.trans reaches.supply, same.depth.trans reaches.depth,
    same.limit.trans reaches.limit⟩, same.height⟩

private theorem advance_here : advance.Meets now
    (fun found after => found = item ∧ setting.Reaches (place + 1) after ∧ after.height = now.height)
    (fun _ _ => False) := by
  refine (advance_meets now).mono ?_ (fun _ _ breaks => not_breaks reaches next breaks)
  rintro found after ⟨supply, _, same⟩
  obtain rfl := item_here reaches next supply
  exact ⟨rfl, reaches_behind reaches next same supply, same.height⟩

private theorem eat_here (kind : TokenKind) : (eat kind).Meets now
    (fun found after => after.height = now.height ∧
      if item.token.kind = kind then found = some item ∧ setting.Reaches (place + 1) after
      else found = none ∧ setting.Reaches place after)
    (fun _ _ => False) := by
  refine (eat_meets kind now).mono ?_ (fun _ _ breaks => not_breaks reaches next breaks)
  rintro found after ⟨same, outcome⟩
  refine ⟨same.height, ?_⟩
  cases found with
  | some found =>
    obtain ⟨fits, supply⟩ := outcome
    obtain rfl := item_here reaches next supply
    rw [if_pos fits]
    exact ⟨rfl, reaches_behind reaches next same supply⟩
  | none =>
    obtain ⟨supply, other⟩ := outcome
    have head : after.supply.head = .ok item := by
      rw [supply, supply_here reaches next]
      rfl
    rw [if_neg (other item head)]
    exact ⟨rfl, supply.trans reaches.supply, same.depth.trans reaches.depth, same.limit.trans reaches.limit⟩

private theorem expect_here (kind : TokenKind) (fits : item.token.kind = kind) : (expect kind).Meets now
    (fun _ after => setting.Reaches (place + 1) after ∧ after.height = now.height)
    (fun _ _ => False) := by
  refine (expect_meets kind now).mono ?_ ?_
  · rintro found after ⟨_, supply, same⟩
    obtain rfl := item_here reaches next supply
    exact ⟨reaches_behind reaches next same supply, same.height⟩
  · rintro fault after (breaks | ⟨found, other, _, supply, _⟩)
    · exact not_breaks reaches next breaks
    · obtain rfl := item_here reaches next supply
      exact other fits

end

private theorem settle_walks (tree : Expr) (start : Nat) (position : Position) (anchor : Nat)
    (reaches : setting.Reaches (start + tree.tokens.length) now)
    (known : LexItem.position (setting.items.get anchor) = position) :
    setting.Walks [⟨tree, setting.depth, anchor⟩] (settle tree.height position) now
      (fun _ after => setting.Raises start tree after) := by
  refine (settle_meets tree.height position now).mono ?_ ?_
  · rintro _ after ⟨rfl, room⟩
    rw [reaches.depth, reaches.limit] at room
    refine ⟨?_, ⟨reaches.supply, reaches.depth, reaches.limit⟩, rfl, room⟩
    simpa [Site.exceeds] using room
  · rintro fault after ⟨rfl, rfl, tall⟩
    rw [reaches.depth, reaches.limit] at tall
    refine ⟨_, List.find?_cons_of_pos (decide_eq_true tall), ?_⟩
    rw [refusal, known, reaches.limit]

private theorem finish_walks (answer : α) (tree : Expr) (start : Nat) (position : Position) (anchor : Nat)
    (event : Event) (reaches : setting.Reaches (start + tree.tokens.length) now)
    (known : LexItem.position (setting.items.get anchor) = position) :
    setting.Walks [⟨tree, setting.depth, anchor⟩]
      (settle tree.height position >>= fun _ => record event >>= fun _ => pure answer) now
      (fun found after => found = answer ∧ setting.Raises start tree after) := by
  rw [← List.append_nil [_]]
  refine walks_bind (settle_walks tree start position anchor reaches known) ?_
  intro _ after raises
  apply walks_none
  apply meets_record
  exact meets_pure ⟨rfl, ⟨raises.supply, raises.depth, raises.limit⟩, raises.height, raises.room⟩

def Resumes (setting : Setting) (step : Growing → Parser (Option Growing)) (sites : List Site) (place : Nat)
    (tree : Expr) (accepts : Expr → TokenStream → Prop) : Prop :=
  ∀ rounds after, setting.Raises place tree after → setting.limit < rounds + tree.height →
    setting.Walks sites (grow step rounds ⟨tree, tree.height⟩) after accepts

section
variable {step : Growing → Parser (Option Growing)} {tree taller : Expr} {sites more : List Site}
  {accepts : Expr → TokenStream → Prop}

private theorem resumes_taller (higher : tree.height < taller.height)
    (steps : ∀ after, setting.Raises place tree after →
      setting.Walks sites (step ⟨tree, tree.height⟩) after
        (fun found last => found = some ⟨taller, taller.height⟩ ∧ setting.Raises place taller last))
    (resumes : Resumes setting step more place taller accepts) :
    Resumes setting step (sites ++ more) place tree accepts := by
  intro rounds after raises enough
  cases rounds with
  | zero =>
    -- a tree within the limit has left the loop rounds to go on
    have room := raises.room
    omega
  | succ rounds =>
    unfold grow
    refine walks_bind (steps after raises) ?_
    rintro found last ⟨rfl, raisesTaller⟩
    exact resumes rounds last raisesTaller (by omega)

private theorem resumes_end
    (steps : ∀ after, setting.Raises place tree after →
      (step ⟨tree, tree.height⟩).Meets after (fun found last => found = none ∧ setting.Raises place tree last)
        (fun _ _ => False)) :
    Resumes setting step [] place tree (fun answer last => answer = tree ∧ setting.Raises place tree last) := by
  intro rounds after raises _
  cases rounds with
  | zero => exact walks_none (meets_pure ⟨rfl, raises⟩)
  | succ rounds =>
    unfold grow
    refine walks_step (steps after raises) ?_
    rintro found last ⟨rfl, raisesLast⟩
    exact walks_none (meets_pure ⟨rfl, raisesLast⟩)

private theorem chain_walks (resumes : Resumes setting step sites place tree accepts)
    (raises : setting.Raises place tree now) : setting.Walks sites (chain step tree) now accepts := by
  unfold chain
  apply meets_get
  rw [raises.height, raises.limit]
  exact resumes setting.limit now raises (Nat.lt_add_of_pos_right tree.height_pos)

end

end

private theorem indexStep_ends {setting : Setting} (inner : Parser Expr) (base : Expr) (place : Nat)
    (now : TokenStream) (lvalue : base.isLvalue = true) (raises : setting.Raises place base now)
    (ends : setting.Ends Precedence.primary place base) :
    (indexStep settle inner ⟨base, base.height⟩).Meets now
      (fun found after => found = none ∧ setting.Raises place base after) (fun _ _ => False) := by
  obtain ⟨next, item, stops⟩ := ends
  have other : next.token.kind ≠ .leftBracket := by
    intro kind
    rw [eq_of_kind next.token .leftBracket (by simp [Token.kind]) kind, Phrase.goesOn,
      base.endsIndexable_of_isLvalue lvalue] at stops
    contradiction
  unfold indexStep
  refine (eat_here raises.toReaches item .leftBracket).andThen ?_
  rintro found after ⟨height, outcome⟩
  rw [if_neg other] at outcome
  obtain ⟨rfl, reaches⟩ := outcome
  exact ⟨rfl, reaches, height.trans raises.height, raises.room⟩

section
variable {setting : Setting} {inner : Parser Expr}
  (builds : setting.depth < setting.limit → setting.below.Builds Precedence.assignment inner)
include builds

private theorem nested_walks (tree : Expr) (place : Nat) (now : TokenStream) (reaches : setting.Reaches place now)
    (deeper : setting.depth < setting.limit) (fits : tree.fits Precedence.assignment = true)
    (spells : Spells setting.items place tree.tokens) (ends : setting.Ends Precedence.assignment place tree) :
    setting.Walks (tree.sites (setting.depth + 1) place) (nested inner) now
      (fun answer after => answer = tree ∧ setting.Reaches (place + tree.tokens.length) after ∧
        after.height = tree.height) := by
  have reachesBelow : setting.below.Reaches place now.descend :=
    ⟨reaches.supply, congrArg (· + 1) reaches.depth, reaches.limit⟩
  apply walks_nested
  refine (builds deeper tree place now.descend fits reachesBelow spells ends).mono ?_ (fun _ _ refused => refused)
  rintro answer after ⟨within, rfl, raises⟩
  exact ⟨within, rfl, ⟨raises.supply, congrArg (· - 1) raises.depth, raises.limit⟩, raises.height⟩

private theorem indexStep_walks (base subscript : Expr) (place : Nat) (now : TokenStream)
    (raises : setting.Raises place base now) (fits : subscript.fits Precedence.assignment = true)
    (spells : Spells setting.items (place + base.tokens.length)
      (.leftBracket :: (subscript.tokens ++ [.rightBracket]))) :
    setting.Walks
      (subscript.sites (setting.depth + 1) (place + base.tokens.length + 1) ++
        [⟨.index base subscript, setting.depth, place + base.tokens.length⟩])
      (indexStep settle inner ⟨base, base.height⟩) now
      (fun found last => found = some ⟨.index base subscript, (Expr.index base subscript).height⟩ ∧
        setting.Raises place (.index base subscript) last) := by
  obtain ⟨⟨position, opening⟩, inside⟩ := spells
  obtain ⟨spellsInside, ⟨edge, closing⟩, _⟩ := (spells_append _ _ _ _).mp inside
  have deeper : setting.depth < setting.limit := by
    have room := raises.room
    have positive := base.height_pos
    omega
  unfold indexStep
  refine walks_step (eat_here raises.toReaches opening .leftBracket) ?_
  rintro found after ⟨_, rfl, reaches⟩
  refine walks_bind (nested_walks builds subscript _ after reaches deeper fits spellsInside ⟨_, closing, rfl⟩) ?_
  rintro answer stop ⟨rfl, reachesStop, height⟩
  refine walks_step (expect_here reachesStop closing .rightBracket rfl) ?_
  rintro _ last ⟨reachesLast, heightLast⟩
  apply meets_get
  have length : place + base.tokens.length + 1 + answer.tokens.length + 1 =
      place + (Expr.index base answer).tokens.length := by
    simp only [Expr.tokens, List.length_append, List.length_cons, List.length_nil]
    omega
  rw [length] at reachesLast
  rw [heightLast, height]
  refine finish_walks _ (.index base answer) place position _ _ reachesLast ?_
  rw [opening]
  rfl

private theorem target_walks (tree : Expr) (place : Nat) (now : TokenStream) (reaches : setting.Reaches place now)
    (lvalue : tree.isLvalue = true) (expressible : tree.isExpressible = true)
    (spells : Spells setting.items place tree.tokens) (more : List Site) (accepts : Expr → TokenStream → Prop)
    (resumes : Resumes setting (indexStep settle inner) more place tree accepts) :
    setting.Walks (tree.sites setting.depth place ++ more) (primaryWith settle inner) now accepts := by
  -- down to the name before all brackets, from which the loop then grows the tree
  induction tree generalizing more with
  | var name =>
    obtain ⟨⟨position, item⟩, _⟩ := spells
    unfold primaryWith
    refine walks_step (advance_here reaches item) ?_
    rintro first after ⟨rfl, reachesAfter, _⟩
    refine walks_bind (settle_walks (.var name) place position place reachesAfter ?_) ?_
    · rw [item]
      rfl
    · intro _ last raises
      exact chain_walks resumes raises
  | index base subscript ihBase _ =>
    obtain ⟨⟨lvalueBase, expressibleBase⟩, fits⟩ := (Expr.isExpressible_index _ _).mp expressible
    have parts : (Expr.index base subscript).tokens =
        base.tokens ++ .leftBracket :: (subscript.tokens ++ [.rightBracket]) := by
      simp [Expr.tokens]
    rw [parts, spells_append] at spells
    have higher : base.height < (Expr.index base subscript).height :=
      Nat.lt_succ_of_le (Nat.le_max_left _ _)
    have resumesBase := resumes_taller higher
      (fun after raises => indexStep_walks builds base subscript place after raises fits spells.2) resumes
    have walks := ihBase lvalueBase expressibleBase spells.1 _ resumesBase
    simpa only [Expr.sites, List.append_assoc] using walks
  | _ => contradiction

private theorem primaryWith_builds : setting.Builds Precedence.primary (primaryWith settle inner) := by
  intro tree place now fits reaches spells ends
  obtain ⟨binds, expressible⟩ := (tree.fits_iff _).mp fits
  have chained (lvalue : tree.isLvalue = true) : setting.Walks (tree.sites setting.depth place)
      (primaryWith settle inner) now (fun answer after => answer = tree ∧ setting.Raises place tree after) := by
    rw [← List.append_nil (tree.sites _ _)]
    apply target_walks builds tree place now reaches lvalue expressible spells
    exact resumes_end (fun after raises => indexStep_ends inner tree place after lvalue raises ends)
  cases tree with
  | literal value =>
    obtain ⟨⟨position, item⟩, _⟩ := spells
    unfold primaryWith
    refine walks_step (advance_here reaches item) ?_
    rintro first after ⟨rfl, reachesAfter, _⟩
    rw [← List.append_nil (Expr.sites _ _ _)]
    refine walks_bind (settle_walks (.literal value) place position place reachesAfter ?_) ?_
    · rw [item]
      rfl
    · intro _ last raises
      exact walks_none (meets_pure ⟨rfl, raises⟩)
  | var name => exact chained rfl
  | index base subscript => exact chained rfl
  | assign target value =>
    have looser : Precedence.assignment < Precedence.primary := by decide
    exact absurd binds (Nat.not_le_of_lt looser)
  | binary op left right =>
    have looser : op.precedence < Precedence.primary := by cases op <;> decide
    exact absurd binds (Nat.not_le_of_lt looser)

end

private theorem operatorStep_ends {setting : Setting} (level : Nat) (operand : Parser Expr) (tree : Expr)
    (place : Nat) (now : TokenStream) (raises : setting.Raises place tree now)
    (ends : setting.Ends level place tree) :
    (operatorStep settle level operand ⟨tree, tree.height⟩).Meets now
      (fun found after => found = none ∧ setting.Raises place tree after) (fun _ _ => False) := by
  obtain ⟨next, item, stops⟩ := ends
  unfold operatorStep
  refine (peek_here raises.toReaches item).andThen ?_
  rintro next after ⟨rfl, reaches, height⟩
  have raisesAfter : setting.Raises place tree after := ⟨reaches, height.trans raises.height, raises.room⟩
  cases token : next.token with
  | operator op =>
    rw [token, Phrase.not_goesOn_operator, Phrase.level_ofLevel] at stops
    dsimp only
    rw [if_neg (Nat.ne_of_lt stops)]
    exact ⟨rfl, raisesAfter⟩
  | _ => exact ⟨rfl, raisesAfter⟩

section
variable {setting : Setting} {operand : Parser Expr} {level : Nat} (builds : setting.Builds (level + 1) operand)
include builds

private theorem operatorStep_walks (op : BinaryOperator) (left right : Expr) (place : Nat) (now : TokenStream)
    (binds : op.precedence = level) (raises : setting.Raises place left now)
    (fits : right.fits (level + 1) = true)
    (spells : Spells setting.items (place + left.tokens.length) (.operator op :: right.tokens))
    (ends : setting.Ends (level + 1) (place + left.tokens.length + 1) right) :
    setting.Walks
      (right.sites setting.depth (place + left.tokens.length + 1) ++
        [⟨.binary op left right, setting.depth, place + left.tokens.length⟩])
      (operatorStep settle level operand ⟨left, left.height⟩) now
      (fun found last => found = some ⟨.binary op left right, (Expr.binary op left right).height⟩ ∧
        setting.Raises place (.binary op left right) last) := by
  obtain ⟨⟨position, item⟩, spellsRight⟩ := spells
  unfold operatorStep
  refine walks_step (peek_here raises.toReaches item) ?_
  rintro next after ⟨rfl, reaches, _⟩
  dsimp only
  rw [if_pos binds]
  refine walks_step (advance_here reaches item) ?_
  rintro _ middle ⟨_, reachesRight, _⟩
  refine walks_bind (builds right _ middle fits reachesRight spellsRight ends) ?_
  rintro answer last ⟨rfl, raisesRight⟩
  apply meets_get
  have reachesLast := raisesRight.toReaches
  rw [length_around place (.operator op)] at reachesLast
  rw [raisesRight.height]
  refine finish_walks _ (.binary op left answer) place position _ _ reachesLast ?_
  rw [item]
  rfl

private theorem operand_walks (tree : Expr) (place : Nat) (now : TokenStream) (fits : tree.fits (level + 1) = true)
    (reaches : setting.Reaches place now) (spells : Spells setting.items place tree.tokens)
    (ends : setting.Ends (level + 1) place tree) (more : List Site) (accepts : Expr → TokenStream → Prop)
    (resumes : Resumes setting (operatorStep settle level operand) more place tree accepts) :
    setting.Walks (tree.sites setting.depth place ++ more) (leftAssociative settle level operand) now accepts := by
  unfold leftAssociative
  refine walks_bind (builds tree place now fits reaches spells ends) ?_
  rintro answer after ⟨rfl, raises⟩
  exact chain_walks resumes raises

private theorem joined_walks (tree : Expr) (place : Nat) (now : TokenStream) (looser : Precedence.assignment < level)
    (tighter : level < Precedence.primary) (fits : tree.fits level = true) (reaches : setting.Reaches place now)
    (spells : Spells setting.items place tree.tokens) (ends : setting.Ends (level + 1) place tree)
    (more : List Site) (accepts : Expr → TokenStream → Prop)
    (resumes : Resumes setting (operatorStep settle level operand) more place tree accepts) :
    setting.Walks (tree.sites setting.depth place ++ more) (leftAssociative settle level operand) now accepts := by
  -- down the left sides, to an operand of the next level
  induction tree generalizing more with
  | binary op left right ihLeft _ =>
    by_cases binds : op.precedence = level
    · obtain ⟨⟨bindsLeft, expressibleLeft⟩, bindsRight, expressibleRight⟩ :=
        (Expr.isExpressible_binary _ _ _).mp ((Expr.fits_iff _ _).mp fits).2
      have fitsLeft := (left.fits_iff level).mpr ⟨binds ▸ bindsLeft, expressibleLeft⟩
      have fitsRight := (right.fits_iff (level + 1)).mpr ⟨binds ▸ bindsRight, expressibleRight⟩
      obtain ⟨before, ⟨position, item⟩, behind⟩ := (spells_append _ _ _ _).mp spells
      have endsLeft : setting.Ends (level + 1) place left := by
        refine ⟨_, item, (Phrase.not_goesOn_operator _ _ _).mpr ?_⟩
        exact binds ▸ Nat.lt_succ_self level
      have endsRight : setting.Ends (level + 1) (place + left.tokens.length + 1) right :=
        ends.last rfl (length_around place (.operator op) left.tokens right.tokens).symm
      have higher : left.height < (Expr.binary op left right).height :=
        Nat.lt_succ_of_le (Nat.le_max_left _ _)
      have resumesLeft := resumes_taller higher
        (fun after raises => operatorStep_walks builds op left right place after binds raises fitsRight
          ⟨⟨position, item⟩, behind⟩ endsRight) resumes
      have walks := ihLeft fitsLeft before endsLeft _ resumesLeft
      simpa only [Expr.sites, List.append_assoc] using walks
    · obtain fitsTighter | ⟨_, _, _, same, _⟩ := Expr.fits_operand _ level looser tighter fits
      · exact operand_walks builds _ place now fitsTighter reaches spells ends more accepts resumes
      · cases same
        contradiction
  | _ =>
    obtain fitsTighter | ⟨_, _, _, same, _⟩ := Expr.fits_operand _ level looser tighter fits
    · exact operand_walks builds _ place now fitsTighter reaches spells ends more accepts resumes
    · cases same

private theorem leftAssociative_builds (looser : Precedence.assignment < level)
    (tighter : level < Precedence.primary) :
    setting.Builds level (leftAssociative settle level operand) := by
  intro tree place now fits reaches spells ends
  rw [← List.append_nil (tree.sites _ _)]
  apply joined_walks builds tree place now looser tighter fits reaches spells (ends.tighter (Nat.le_succ level))
  exact resumes_end (fun after raises => operatorStep_ends level operand tree place after raises ends)

end

section
variable {setting : Setting} {inner : Parser Expr}
  (builds : setting.depth < setting.limit → setting.below.Builds Precedence.assignment inner)
include builds

private theorem multiplicativeWith_builds :
    setting.Builds Precedence.multiplicative (multiplicativeWith settle inner) :=
  leftAssociative_builds (primaryWith_builds builds) (by decide) (by decide)

private theorem additiveWith_builds : setting.Builds Precedence.additive (additiveWith settle inner) :=
  leftAssociative_builds (multiplicativeWith_builds builds) (by decide) (by decide)

private theorem comparisonWith_builds : setting.Builds Precedence.comparison (comparisonWith settle inner) :=
  leftAssociative_builds (additiveWith_builds builds) (by decide) (by decide)

private theorem comparison_walks (tree : Expr) (place : Nat) (now : TokenStream)
    (fits : tree.fits Precedence.comparison = true) (reaches : setting.Reaches place now)
    (spells : Spells setting.items place tree.tokens) (ends : setting.Ends Precedence.assignment place tree) :
    setting.Walks (tree.sites setting.depth place) (expressionWith settle inner) now
      (fun answer after => answer = tree ∧ setting.Raises place tree after) := by
  obtain ⟨first, item⟩ := spells_first setting.items place tree spells
  have tighter : setting.Ends Precedence.comparison place tree := ends.tighter (Nat.zero_le _)
  obtain ⟨next, behind, stops⟩ := ends
  have other : next.token.kind ≠ .assign := by
    intro kind
    rw [eq_of_kind next.token .assign (by simp [Token.kind]) kind, Phrase.not_goesOn_assign] at stops
    contradiction
  unfold expressionWith
  refine walks_step (peek_here reaches item) ?_
  rintro _ ready ⟨_, reachesReady, _⟩
  rw [← List.append_nil (tree.sites _ _)]
  refine walks_bind (comparisonWith_builds builds tree place ready fits reachesReady spells tighter) ?_
  rintro answer after ⟨rfl, raises⟩
  refine walks_step (eat_here raises.toReaches behind .assign) ?_
  rintro found last ⟨height, outcome⟩
  rw [if_neg other] at outcome
  obtain ⟨rfl, reachesLast⟩ := outcome
  exact walks_none (meets_pure ⟨rfl, reachesLast, height.trans raises.height, raises.room⟩)

private theorem assign_walks (target value : Expr) (place : Nat) (now : TokenStream)
    (expressible : (Expr.assign target value).isExpressible = true) (reaches : setting.Reaches place now)
    (spells : Spells setting.items place (Expr.assign target value).tokens)
    (ends : setting.Ends Precedence.assignment place (.assign target value)) :
    setting.Walks ((Expr.assign target value).sites setting.depth place) (expressionWith settle inner) now
      (fun answer after => answer = .assign target value ∧ setting.Raises place (.assign target value) after) := by
  obtain ⟨⟨lvalue, expressibleTarget⟩, expressibleValue⟩ := (Expr.isExpressible_assign _ _).mp expressible
  have fitsTarget : target.fits Precedence.comparison = true := by
    rw [Expr.fits_iff, target.precedence_of_isLvalue lvalue]
    exact ⟨by decide, expressibleTarget⟩
  obtain ⟨spellsTarget, ⟨position, equal⟩, spellsValue⟩ := (spells_append _ _ _ _).mp spells
  have endsTarget : setting.Ends Precedence.comparison place target :=
    ⟨_, equal, (Phrase.not_goesOn_assign _ _).mpr (by decide)⟩
  have length := length_around place .assign target.tokens value.tokens
  have endsValue : setting.Ends Precedence.assignment (place + target.tokens.length + 1) value :=
    ends.last rfl length.symm
  obtain ⟨first, item⟩ := spells_first setting.items place target spellsTarget
  unfold expressionWith
  refine walks_step (peek_here reaches item) ?_
  rintro _ ready ⟨_, reachesReady, _⟩
  rw [Expr.sites, List.append_assoc]
  refine walks_bind (comparisonWith_builds builds target place ready fitsTarget reachesReady spellsTarget
    endsTarget) ?_
  rintro answer after ⟨rfl, raises⟩
  refine walks_step (eat_here raises.toReaches equal .assign) ?_
  rintro found middle ⟨height, rfl, reachesMiddle⟩
  dsimp only
  rw [if_pos lvalue]
  apply meets_get
  -- the target is within the limit, so there is room below it for a value
  have deeper : setting.depth < setting.limit := by
    have room := raises.room
    have positive := answer.height_pos
    omega
  refine walks_bind (nested_walks builds value _ middle reachesMiddle deeper expressibleValue spellsValue
    endsValue) ?_
  rintro _ last ⟨rfl, reachesLast, heightLast⟩
  apply meets_get
  rw [length] at reachesLast
  rw [height, raises.height, heightLast]
  refine finish_walks _ (.assign answer _) place position _ _ reachesLast ?_
  rw [equal]
  rfl

private theorem expressionWith_builds : setting.Builds Precedence.assignment (expressionWith settle inner) := by
  intro tree place now fits reaches spells ends
  obtain comparison | ⟨target, value, rfl⟩ := tree.fits_comparison fits
  · exact comparison_walks builds tree place now comparison reaches spells ends
  · exact assign_walks builds target value place now fits reaches spells ends

end

private theorem expressionWithin_builds (levels : Nat) (setting : Setting) (inside : setting.depth ≤ setting.limit)
    (enough : setting.limit < setting.depth + levels) :
    setting.Builds Precedence.assignment (expressionWithin tooDeep levels) := by
  -- each level down takes one of the levels that are left, so their sum stays above the limit
  induction levels generalizing setting with
  | zero => omega
  | succ levels ih =>
    apply expressionWith_builds
    intro deeper
    apply ih
    · exact deeper
    · simp only [below]
      omega

theorem nestedExpression_builds (setting : Setting) (deeper : setting.depth < setting.limit) :
    setting.below.Builds Precedence.assignment nestedExpression := by
  intro tree place now fits reaches spells ends
  have enough : setting.limit < setting.below.depth + now.limit := by
    rw [reaches.limit, below]
    dsimp only
    omega
  exact expressionWithin_builds now.limit setting.below deeper enough tree place now fits reaches spells ends

end Parser

theorem Tier.builds (tier : Tier) (setting : Setting) : setting.Builds tier.precedence tier.parser := by
  have nested := Parser.nestedExpression_builds setting
  cases tier with
  | expression => exact Parser.expressionWith_builds nested
  | comparison => exact Parser.comparisonWith_builds nested
  | additive => exact Parser.additiveWith_builds nested
  | multiplicative => exact Parser.multiplicativeWith_builds nested
  | primary => exact Parser.primaryWith_builds nested

end ExprLang
