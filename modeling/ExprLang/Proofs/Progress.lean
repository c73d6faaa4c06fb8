import ExprLang.Proofs.Outcome
import ExprLang.Proofs.Prefixes

/-! How far a parse has come: the words behind it, the phrase that they derive, or
the error that says why the phrase cannot go on from them. A parser of one phrase
serves in a larger phrase, and its errors are errors of that phrase too. -/
namespace ExprLang

/-- Whether the words end in a comparison that begins at the place, is nothing that can be
assigned to, and stands where the phrase holds an expression. -/
def EndsInNoTarget (phrase : Phrase) (taken : List Spanned) (position : Position) : Prop :=
  ∃ (outer side : List Spanned) (down : Nat) (tree : Expr), taken = outer ++ side ∧
    phrase.Holds (tokensOf outer) .expression down ∧
    Derives (.operand Precedence.comparison) (tokensOf side) tree ∧ tree.isLvalue = false ∧
    side.head?.map Spanned.position = some position

/-- Whether an error fits a phrase that was given up behind the words `taken`, with
the item `next` before it: it names the item, and it is the words up to there, or
the height that they lead to, that rule the phrase out. An `=` is found unexpected only
where an operand should be, and refused only behind what cannot be assigned to. -/
def Blames (phrase : Phrase) (depth limit : Nat) (taken : List Spanned) (next : LexItem) : Error → Prop
  | .lex cause => next = .error cause ∧ phrase.Viable (tokensOf taken)
  | .parse (.unexpectedEndOfInput position) =>
    next = .ok ⟨.endOfInput, position⟩ ∧ phrase.Viable (tokensOf taken) ∧
      phrase.Lacking (tokensOf taken)
  | .parse (.unexpectedToken expected found position) =>
    next = .ok ⟨found, position⟩ ∧ found.isEnd = false ∧ phrase.Viable (tokensOf taken) ∧
      phrase.Lacking (tokensOf taken) ∧ phrase.Refuses (tokensOf taken) found ∧
      (∀ token, token.kind ∈ expected → phrase.Viable (tokensOf taken ++ [token])) ∧
      (found = .assign → .identifier ∈ expected)
  | .parse (.invalidAssignmentTarget position) =>
    (∃ place, next = .ok ⟨.assign, place⟩) ∧ phrase.Viable (tokensOf taken) ∧
      phrase.Refuses (tokensOf taken) .assign ∧ EndsInNoTarget phrase taken position
  | .parse (.nestingTooDeep bound _) =>
    bound = limit ∧ phrase.Viable (tokensOf taken) ∧ phrase.Exceeds depth limit (tokensOf taken)

theorem EndsInNoTarget.lift {outer inner : Phrase} {before taken : List Spanned} {down : Nat}
    {position : Position} (holds : outer.Holds (tokensOf before) inner down)
    (noTarget : EndsInNoTarget inner taken position) :
    EndsInNoTarget outer (before ++ taken) position := by
  obtain ⟨around, side, further, tree, rfl, inside, complete⟩ := noTarget
  refine ⟨before ++ around, side, down + further, tree, (List.append_assoc ..).symm, ?_, complete⟩
  rw [tokensOf, List.map_append]
  exact holds.trans inside

theorem Blames.lift {outer inner : Phrase} {before : List Spanned} {down : Nat}
    (holds : outer.Holds (tokensOf before) inner down) (depth limit : Nat) (taken : List Spanned)
    (next : LexItem) (fault : Error) (blames : Blames inner (depth + down) limit taken next fault) :
    Blames outer depth limit (before ++ taken) next fault := by
  have tokens : tokensOf (before ++ taken) = tokensOf before ++ tokensOf taken := List.map_append ..
  cases fault with
  | lex cause =>
    obtain ⟨names, viable⟩ := blames
    exact ⟨names, tokens ▸ holds.viable _ viable⟩
  | parse fault =>
    cases fault with
    | unexpectedEndOfInput position =>
      obtain ⟨names, viable, lacking⟩ := blames
      exact ⟨names, tokens ▸ holds.viable _ viable, tokens ▸ holds.lacking _ lacking⟩
    | unexpectedToken expected found position =>
      obtain ⟨names, word, viable, lacking, refuses, accepts, operand⟩ := blames
      refine ⟨names, word, tokens ▸ holds.viable _ viable, tokens ▸ holds.lacking _ lacking,
        tokens ▸ holds.refuses _ found refuses, ?_, operand⟩
      intro token member
      rw [tokens, List.append_assoc]
      exact holds.viable _ (accepts token member)
    | invalidAssignmentTarget position =>
      obtain ⟨names, viable, refuses, noTarget⟩ := blames
      exact ⟨names, tokens ▸ holds.viable _ viable, tokens ▸ holds.refuses _ .assign refuses,
        noTarget.lift holds⟩
    | nestingTooDeep bound position =>
      obtain ⟨bounds, viable, exceeds⟩ := blames
      exact ⟨bounds, tokens ▸ holds.viable _ viable, tokens ▸ holds.exceeds depth limit _ exceeds⟩

theorem Expr.height_pos (tree : Expr) : 0 < tree.height := by
  cases tree <;> simp [Expr.height]

namespace TokenStream

structure Reached (start : TokenStream) (words : List Spanned) (now : TokenStream) : Prop where
  takes : start.supply = words.map Except.ok ++ₛ now.supply
  depth : now.depth = start.depth
  limit : now.limit = start.limit

structure Derived (phrase : Phrase) (start : TokenStream) (words : List Spanned) (tree : Expr)
    (now : TokenStream) : Prop extends Reached start words now where
  derives : Derives phrase (tokensOf words) tree
  height : now.height = tree.height
  room : start.depth + tree.height ≤ start.limit

def Ends (phrase : Phrase) (tree : Expr) (now : TokenStream) : Prop :=
  ∀ item, now.supply.head = .ok item → phrase.goesOn tree item.token = false

def Accepts (phrase : Phrase) (start : TokenStream) (tree : Expr) (now : TokenStream) : Prop :=
  (∃ words, start.Derived phrase words tree now) ∧ now.Ends phrase tree

structure Gains (phrase : Phrase) (start : TokenStream) (words : List Spanned) (tree : Expr)
    (now : TokenStream) : Prop where
  spelled : ∃ more, Derives phrase (tokensOf more) tree ∧ start.Reached (words ++ more) now
  height : now.height = tree.height
  room : start.depth + tree.height ≤ start.limit
  ends : now.Ends phrase tree

def Rejects (phrase : Phrase) (start : TokenStream) (fault : Error) (now : TokenStream) : Prop :=
  (∃ words behind, start.supply = words.map Except.ok ++ₛ behind ∧
    Blames phrase start.depth start.limit words behind.head fault) ∧
  now.depth = start.depth

section
variable {start now after : TokenStream} {words : List Spanned}

theorem Reached.here (start : TokenStream) : start.Reached [] start := ⟨rfl, rfl, rfl⟩

theorem Reached.append (reached : start.Reached words now) {more : List Spanned}
    (further : now.Reached more after) : start.Reached (words ++ more) after := by
  refine ⟨?_, further.depth.trans reached.depth, further.limit.trans reached.limit⟩
  rw [reached.takes, further.takes, List.map_append, Stream'.append_append_stream]

theorem Reached.peeked (reached : start.Reached words now) (same : now.SameAccount after)
    (supply : after.supply = now.supply) : start.Reached words after := by
  refine ⟨?_, same.depth.trans reached.depth, same.limit.trans reached.limit⟩
  rw [supply]
  exact reached.takes

theorem Reached.taken (reached : start.Reached words now) {item : Spanned} (same : now.SameAccount after)
    (supply : now.supply = .cons (.ok item) after.supply) : start.Reached (words ++ [item]) after :=
  reached.append ⟨supply, same.depth, same.limit⟩

theorem Reached.behind (reached : start.Reached words now) {token : Token} {position : Position}
    {outer inner : Phrase} {down : Nat} (same : now.SameAccount after)
    (supply : now.supply = .cons (.ok ⟨token, position⟩) after.supply)
    (holds : outer.Holds (tokensOf words ++ [token]) inner down) :
    start.Reached (words ++ [⟨token, position⟩]) after ∧
      outer.Holds (tokensOf (words ++ [⟨token, position⟩])) inner down := by
  rw [tokensOf_snoc]
  exact ⟨reached.taken same supply, holds⟩

theorem Reached.descended (reached : start.Reached words now) (below : start.depth < start.limit) :
    now.descend.depth = start.depth + 1 ∧ now.descend.depth ≤ now.descend.limit := by
  have deeper : now.descend.depth = start.depth + 1 := congrArg (· + 1) reached.depth
  refine ⟨deeper, ?_⟩
  rw [deeper]
  exact Nat.succ_le_of_lt (reached.limit ▸ below)

theorem Reached.ascended (reached : start.Reached words now) {more : List Spanned}
    (further : now.descend.Reached more after) : start.Reached (words ++ more) after.ascend := by
  refine reached.append ⟨further.takes, ?_, further.limit⟩
  rw [ascend, further.depth]
  rfl

theorem Derived.peeked {phrase : Phrase} {tree : Expr} (derived : start.Derived phrase words tree now)
    (same : now.SameAccount after) (supply : after.supply = now.supply) :
    start.Derived phrase words tree after :=
  ⟨derived.toReached.peeked same supply, derived.derives, same.height.trans derived.height, derived.room⟩

theorem Derived.recorded {phrase : Phrase} {tree : Expr} (derived : start.Derived phrase words tree now)
    (event : Event) : start.Derived phrase words tree (now.record event) :=
  derived.peeked ⟨rfl, rfl, rfl⟩ rfl

theorem Derived.depth_lt {phrase : Phrase} {tree : Expr} (derived : start.Derived phrase words tree now) :
    start.depth < start.limit := by
  have room := derived.room
  have positive := tree.height_pos
  omega

theorem Gains.derived {phrase : Phrase} {tree : Expr} (gains : start.Gains phrase [] tree now) :
    ∃ words, start.Derived phrase words tree now := by
  obtain ⟨more, derives, reached⟩ := gains.spelled
  exact ⟨more, reached, derives, gains.height, gains.room⟩

theorem Ends.peeked {phrase : Phrase} {tree : Expr} (ends : now.Ends phrase tree)
    (supply : after.supply = now.supply) : after.Ends phrase tree := by
  intro item next
  rw [supply] at next
  exact ends item next

theorem Ends.around {phrase : Phrase} {last tree : Expr} (ends : now.Ends phrase last)
    (edge : tree.endsIndexable = last.endsIndexable) : now.Ends phrase tree := by
  intro item next
  have ended := ends item next
  cases token : item.token with
  | leftBracket =>
    rw [token] at ended
    exact edge.trans ended
  | _ =>
    rw [token] at ended
    exact ended

theorem Reached.rejects_of_breaks (reached : start.Reached words now) (phrase : Phrase)
    (viable : phrase.Viable (tokensOf words)) (fault : Error) (breaks : now.Breaks fault after) :
    start.Rejects phrase fault after := by
  obtain ⟨cause, rfl, supply, same⟩ := breaks
  refine ⟨⟨words, now.supply, reached.takes, ?_, viable⟩, same.depth.trans reached.depth⟩
  rw [supply]
  rfl

private theorem Reached.rejects_of_held (reached : start.Reached words now) (outer inner : Phrase) (down : Nat)
    (holds : outer.Holds (tokensOf words) inner down) (deeper stop : TokenStream) (fault : Error)
    (supply : deeper.supply = now.supply) (depth : deeper.depth = now.depth + down)
    (limit : deeper.limit = now.limit) (restored : after.depth = start.depth)
    (rejects : deeper.Rejects inner fault stop) : start.Rejects outer fault after := by
  obtain ⟨⟨taken, behind, split, blames⟩, _⟩ := rejects
  refine ⟨⟨words ++ taken, behind, ?_, ?_⟩, restored⟩
  · rw [reached.takes, ← supply, split, List.map_append, Stream'.append_append_stream]
  · rw [depth, limit, reached.depth, reached.limit] at blames
    exact blames.lift holds _ _ _ _ _

end

end TokenStream

namespace Parser
open TokenStream

theorem blames_unexpected (phrase : Phrase) (depth limit : Nat) (taken : List Spanned) (item : Spanned)
    (expected : List TokenKind) (viable : phrase.Viable (tokensOf taken))
    (lacking : phrase.Lacking (tokensOf taken)) (refuses : phrase.Refuses (tokensOf taken) item.token)
    (accepts : ∀ token, token.kind ∈ expected → phrase.Viable (tokensOf taken ++ [token]))
    (operand : item.token = .assign → .identifier ∈ expected) :
    Blames phrase depth limit taken (.ok item) (unexpected item expected) := by
  obtain ⟨token, position⟩ := item
  unfold unexpected
  split
  · rename_i ends
    cases token with
    | endOfInput => exact ⟨rfl, viable, lacking⟩
    | _ => contradiction
  · rename_i word
    exact ⟨rfl, Bool.eq_false_iff.mpr word, viable, lacking, refuses, accepts, operand⟩

def Reads (phrase : Phrase) (parser : Parser Expr) (stream : TokenStream) : Prop :=
  parser.Meets stream (stream.Accepts phrase) (stream.Rejects phrase)

def ReadsBelow (inner : Parser Expr) (stream : TokenStream) : Prop :=
  ∀ now, now.depth = stream.depth + 1 → now.limit = stream.limit → now.depth ≤ now.limit →
    Reads .expression inner now

theorem ReadsBelow.congr {inner : Parser Expr} {stream : TokenStream} (reads : ReadsBelow inner stream)
    (middle : TokenStream) (depth : middle.depth = stream.depth) (limit : middle.limit = stream.limit) :
    ReadsBelow inner middle := by
  intro now deeper narrower within
  exact reads now (deeper.trans (congrArg (· + 1) depth)) (narrower.trans limit) within

section
variable {start now : TokenStream} {words : List Spanned} (reached : start.Reached words now)
include reached

theorem held_meets (outer inner : Phrase) (parser : Parser Expr)
    (holds : outer.Holds (tokensOf words) inner 0) (reads : Reads inner parser now) :
    parser.Meets now (start.Gains inner words) (start.Rejects outer) := by
  refine Meets.mono reads ?_ ?_
  · intro tree stop accepted
    obtain ⟨⟨more, derived⟩, ends⟩ := accepted
    have room := derived.room
    rw [reached.depth, reached.limit] at room
    exact ⟨⟨more, derived.derives, reached.append derived.toReached⟩, derived.height, room, ends⟩
  · intro fault stop rejects
    exact reached.rejects_of_held outer inner 0 holds now stop fault rfl rfl rfl
      (rejects.2.trans reached.depth) rejects

theorem nested_meets (outer : Phrase) (inner : Parser Expr) (reads : ReadsBelow inner start)
    (holds : outer.Holds (tokensOf words) .expression 1) (below : start.depth < start.limit) :
    (nested inner).Meets now (start.Gains .expression words) (start.Rejects outer) := by
  obtain ⟨deeper, within⟩ := reached.descended below
  apply meets_nested
  refine Meets.mono (reads now.descend deeper reached.limit within) ?_ ?_
  · intro tree stop accepted
    obtain ⟨⟨more, derived⟩, ends⟩ := accepted
    have room := derived.room
    rw [deeper, show now.descend.limit = start.limit from reached.limit] at room
    exact ⟨⟨more, derived.derives, reached.ascended derived.toReached⟩, derived.height, by omega, ends⟩
  · intro fault stop rejects
    have restored : stop.ascend.depth = start.depth := by
      rw [ascend, rejects.2, deeper]
      rfl
    exact reached.rejects_of_held outer .expression 1 holds now.descend stop fault rfl rfl rfl restored
      rejects

/-- A tree is finished, or is too tall for any phrase that it could be. -/
theorem settle_tree_meets (phrase outer : Phrase) (tree : Expr) (position : Position)
    (derives : Derives phrase (tokensOf words) tree) (widens : Derives outer (tokensOf words) tree) :
    (settle tree.height position).Meets now
      (fun _ after => start.Derived phrase words tree after ∧ after.supply = now.supply)
      (start.Rejects outer) := by
  refine (settle_meets tree.height position now).mono ?_ ?_
  · intro _ after settled
    obtain ⟨rfl, fits⟩ := settled
    rw [reached.depth, reached.limit] at fits
    exact ⟨⟨⟨reached.takes, reached.depth, reached.limit⟩, derives, rfl, fits⟩, rfl⟩
  · intro fault after refused
    obtain ⟨rfl, rfl, tall⟩ := refused
    rw [reached.depth, reached.limit] at tall
    refine ⟨⟨words, after.supply, reached.takes, reached.limit, outer.viable_of_derives _ tree widens, ?_⟩,
      reached.depth⟩
    exact outer.exceeds_of_derives _ _ _ tree widens tall

theorem finish_tree_meets {α : Type} (phrase outer : Phrase) (tree : Expr) (position : Position)
    (event : Event) (answer : α) (accepts : α → TokenStream → Prop)
    (derives : Derives phrase (tokensOf words) tree) (widens : Derives outer (tokensOf words) tree)
    (accepted : ∀ after, start.Derived phrase words tree after → after.supply = now.supply →
      accepts answer after) :
    (settle tree.height position >>= fun _ => record event >>= fun _ => pure answer).Meets now accepts
      (start.Rejects outer) := by
  refine (settle_tree_meets reached phrase outer tree position derives widens).andThen ?_
  intro _ after settled
  apply meets_record
  apply meets_pure
  exact accepted _ (settled.1.recorded event) settled.2

end

end Parser

end ExprLang
