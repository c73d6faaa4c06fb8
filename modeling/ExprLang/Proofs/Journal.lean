import ExprLang.Proofs.Consumption
import Mathlib.Data.List.Forall2

/-! What the log of a parse says as a whole: the nodes it reports in their order, and how
many tokens it names before each of them. -/
namespace ExprLang

namespace Event

def token? : Event → Option Spanned
  | .lexed item => some item
  | _ => none

def isToken (event : Event) : Bool :=
  event.token?.isSome

def isReduction : Event → Bool
  | .reducedBinary _ _ | .reducedIndex _ | .reducedAssignment _ _ => true
  | _ => false

def isFinal : Event → Bool
  | .rejected _ | .parsed _ => true
  | _ => false

end Event

def Error.closing : Error → List Event
  | .lex cause => [.rejected cause]
  | .parse _ => []

/-- The entries of a log that report nodes, each with the number of tokens named before it. -/
def reportsAfter {α : Type} (isToken isReport : α → Bool) (lexed : Nat) : List α → List (α × Nat)
  | [] => []
  | entry :: entries =>
    if isReport entry then (entry, lexed) :: reportsAfter isToken isReport lexed entries
    else reportsAfter isToken isReport (if isToken entry then lexed + 1 else lexed) entries

def reductionsAfter (lexed : Nat) (events : List Event) : List (Event × Nat) :=
  reportsAfter Event.isToken Event.isReduction lexed events

structure Node where
  tree : Expr
  start : Nat

/-- The nodes of a tree that are no leaves, each behind those inside it. -/
def Expr.innerNodes (start : Nat) : Expr → List Node
  | .literal _ | .var _ => []
  | .assign target value =>
    target.innerNodes start ++ value.innerNodes (start + target.tokens.length + 1) ++
      [⟨.assign target value, start⟩]
  | .binary op left right =>
    left.innerNodes start ++ right.innerNodes (start + left.tokens.length + 1) ++
      [⟨.binary op left right, start⟩]
  | .index base subscript =>
    base.innerNodes start ++ subscript.innerNodes (start + base.tokens.length + 1) ++
      [⟨.index base subscript, start⟩]

theorem Expr.tokens_length_pos (tree : Expr) : 0 < tree.tokens.length := by
  cases tree <;> simp [tokens]

namespace Node

def finish (node : Node) : Nat := node.start + node.tree.tokens.length

def NamedBy (words : List Spanned) (node : Node) (event : Event) : Prop :=
  match node.tree with
  | .literal _ | .var _ => False
  | .assign target _ => ∃ first, words[node.start]? = some first ∧
      event = .reducedAssignment target first.position
  | .binary op left _ => ∃ position,
      words[node.start + left.tokens.length]? = some ⟨.operator op, position⟩ ∧
      event = .reducedBinary op position
  | .index base _ => ∃ position,
      words[node.start + base.tokens.length]? = some ⟨.leftBracket, position⟩ ∧
      event = .reducedIndex position

/-- Whether the node is reported by an entry that names it, behind its last token and with
at most one more token in between. -/
structure ReportedBy {α : Type} (names : Node → α → Prop) (node : Node) (report : α × Nat) : Prop where
  named : names node report.1
  behind : node.finish ≤ report.2
  soon : report.2 ≤ node.finish + 1

theorem NamedBy.isReduction {words : List Spanned} {node : Node} {event : Event}
    (named : node.NamedBy words event) : event.isReduction = true := by
  obtain ⟨tree, start⟩ := node
  cases tree with
  | literal value => exact named.elim
  | var name => exact named.elim
  | assign target value => obtain ⟨_, _, rfl⟩ := named; rfl
  | binary op left right => obtain ⟨_, _, rfl⟩ := named; rfl
  | index base subscript => obtain ⟨_, _, rfl⟩ := named; rfl

end Node

section
variable (lexed : Nat) (events more : List Event)

private theorem reductionsAfter_append : reductionsAfter lexed (events ++ more) =
    reductionsAfter lexed events ++
      reductionsAfter (lexed + (events.filterMap Event.token?).length) more := by
  unfold reductionsAfter
  induction events generalizing lexed with
  | nil => rfl
  | cons event events ih =>
    rw [List.cons_append, reportsAfter, reportsAfter, ih, ih]
    cases event <;>
      simp [Event.isReduction, Event.isToken, Event.token?, List.filterMap_cons, Nat.add_assoc, Nat.add_comm 1]

private theorem reductionsAfter_lexed (words : List Spanned) :
    reductionsAfter lexed (words.map Event.lexed) = [] := by
  induction words generalizing lexed with
  | nil => rfl
  | cons word words ih => exact ih _

theorem tokens_of_items : events.filterMap Event.token? =
    (events.filterMap Event.item?).filterMap Except.toOption := by
  rw [List.filterMap_filterMap]
  apply List.filterMap_congr
  intro event _
  cases event <;> rfl

private theorem items_of_steps (steps : ∀ event ∈ events, event.isFinal = false) :
    events.filterMap Event.item? = (events.filterMap Event.token?).map Except.ok := by
  rw [List.map_filterMap]
  apply List.filterMap_congr
  intro event member
  have step := steps event member
  cases event with
  | rejected cause => contradiction
  | _ => rfl

end

namespace TokenStream

def reductions (stream : TokenStream) : List (Event × Nat) := reductionsAfter 0 stream.log.toList

/-- Whether a parse is under way: it has taken that many tokens of the text, and nothing
that ends a parse has been logged. -/
structure Underway (source : String) (taken : Nat) (now : TokenStream) : Prop where
  has : now.HasTaken source taken
  inside : taken ≤ (wordsOf source).length
  steps : ∀ event ∈ now.log.toList, event.isFinal = false

def Reports (source : String) (earlier : List (Event × Nat)) (nodes : List Node) (now : TokenStream) : Prop :=
  ∃ reports, now.reductions = earlier ++ reports ∧
    List.Forall₂ (Node.ReportedBy (Node.NamedBy (wordsOf source))) nodes reports

structure Built (source : String) (earlier : List (Event × Nat)) (start : Nat) (tree : Expr)
    (now : TokenStream) : Prop where
  underway : now.Underway source (start + tree.tokens.length)
  reports : now.Reports source earlier (tree.innerNodes start)

structure Stops (source : String) (fault : Error) (now : TokenStream) : Prop where
  items : now.items <+: (Lexer.ofString source).takeRest.1
  log : ∃ steps, now.log.toList = steps ++ fault.closing ∧ ∀ event ∈ steps, event.isFinal = false

private theorem reductions_record (stream : TokenStream) (event : Event) (isReduction : event.isReduction = true) :
    (stream.record event).reductions =
      stream.reductions ++ [(event, (stream.log.toList.filterMap Event.token?).length)] := by
  unfold reductions record
  rw [Array.toList_push, reductionsAfter_append, Nat.zero_add]
  simp [reductionsAfter, reportsAfter, isReduction]

theorem OnlyReads.reductions_eq {before after : TokenStream} (reads : before.OnlyReads after) :
    after.reductions = before.reductions := by
  obtain ⟨words, log⟩ := reads
  rw [reductions, log, reductionsAfter_append, reductionsAfter_lexed, List.append_nil]
  rfl

theorem OnlyReads.steps {before after : TokenStream} (reads : before.OnlyReads after)
    (steps : ∀ event ∈ before.log.toList, event.isFinal = false) :
    ∀ event ∈ after.log.toList, event.isFinal = false := by
  obtain ⟨words, log⟩ := reads
  intro event member
  rw [log, List.mem_append] at member
  rcases member with earlier | read
  · exact steps event earlier
  · obtain ⟨word, _, rfl⟩ := List.mem_map.mp read
    rfl

section
variable {source : String} {taken : Nat} {now : TokenStream} (underway : now.Underway source taken)
include underway

private theorem Underway.tokens_length : (now.log.toList.filterMap Event.token?).length = taken + now.ahead := by
  obtain ⟨last, items, _⟩ := wordsOf_spec source
  have named := congrArg List.length underway.has.items
  rw [TokenStream.items, items_of_steps _ underway.steps, items, List.length_map, List.length_take,
    List.length_append, List.length_map, List.length_singleton] at named
  have inside := underway.inside
  have few := now.ahead_le
  omega

theorem Underway.accounted (depth height limit : Nat) :
    ({ now with depth, height, limit } : TokenStream).Underway source taken :=
  ⟨⟨underway.has.lexer, underway.has.next, underway.has.items⟩, underway.inside, underway.steps⟩

theorem Underway.peeked {after : TokenStream} (has : after.HasTaken source taken)
    (reads : now.OnlyReads after) : after.Underway source taken :=
  ⟨has, underway.inside, reads.steps underway.steps⟩

theorem Underway.given {item : Spanned} {after : TokenStream} (gives : now.Gives source taken item after)
    (isWord : item.token.isEnd = false) :
    after.Underway source (taken + 1) ∧ (wordsOf source)[taken]? = some item := by
  have inside := lt_of_itemAt gives.item isWord
  exact ⟨⟨gives.taken, inside, gives.reads.steps underway.steps⟩, word_of_itemAt gives.item inside⟩

theorem Underway.recorded {event : Event} (isReduction : event.isReduction = true) :
    (now.record event).Underway source taken := by
  have noItem : event.item? = none ∧ event.isFinal = false := by
    cases event <;> simp_all [Event.isReduction, Event.item?, Event.isFinal]
  refine ⟨⟨underway.has.lexer, underway.has.next, ?_⟩, underway.inside, ?_⟩
  · rw [items_record, noItem.1]
    exact (List.append_nil _).trans underway.has.items
  · intro logged member
    rw [record, Array.toList_push, List.mem_append, List.mem_singleton] at member
    obtain earlier | rfl := member
    · exact underway.steps logged earlier
    · exact noItem.2

theorem Underway.stops (fault : Error) (silent : fault.closing = []) : now.Stops source fault := by
  refine ⟨underway.has.items_prefix, now.log.toList, ?_, underway.steps⟩
  rw [silent, List.append_nil]

theorem Underway.stops_of_gives {item : Spanned} {after : TokenStream} (fault : Error)
    (silent : fault.closing = []) (gives : now.Gives source taken item after) :
    after.Stops source fault := by
  refine ⟨gives.taken.items_prefix, after.log.toList, ?_, gives.reads.steps underway.steps⟩
  rw [silent, List.append_nil]

theorem Underway.stops_of_stumbles {fault : Error} {after : TokenStream}
    (stumbles : ∃ cause, fault = .lex cause ∧ now.Stumbles source taken cause after) :
    after.Stops source fault := by
  obtain ⟨cause, rfl, stumbled⟩ := stumbles
  exact ⟨stumbled.taken.items_prefix, now.log.toList, stumbled.log, underway.steps⟩

end

section
variable {source : String} {earlier : List (Event × Nat)} {nodes : List Node} {now after : TokenStream}

theorem Reports.none (source : String) (now : TokenStream) : now.Reports source now.reductions [] :=
  ⟨[], (List.append_nil _).symm, .nil⟩

theorem Reports.append (first : now.Reports source earlier nodes) {more : List Node}
    (second : after.Reports source now.reductions more) : after.Reports source earlier (nodes ++ more) := by
  obtain ⟨reports, reductions, named⟩ := first
  obtain ⟨others, reductionsMore, namedMore⟩ := second
  refine ⟨reports ++ others, ?_, List.rel_append named namedMore⟩
  rw [reductionsMore, reductions, List.append_assoc]

theorem Reports.read (reports : now.Reports source earlier nodes) (reads : now.OnlyReads after) :
    after.Reports source earlier nodes := by
  unfold Reports
  rw [reads.reductions_eq]
  exact reports

theorem Underway.reports_record (node : Node) (underway : now.Underway source node.finish) (event : Event)
    (named : node.NamedBy (wordsOf source) event) :
    (now.record event).Reports source now.reductions [node] := by
  -- the log names the tokens that were taken, and the one that is looked ahead at
  refine ⟨_, reductions_record now event named.isReduction, .cons ⟨named, ?_, ?_⟩ .nil⟩
  · rw [underway.tokens_length]
    exact Nat.le_add_right _ _
  · rw [underway.tokens_length]
    exact Nat.add_le_add_left now.ahead_le _

end

end TokenStream

end ExprLang
