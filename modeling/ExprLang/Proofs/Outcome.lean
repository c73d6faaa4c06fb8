import ExprLang.Parser.Levels
import ExprLang.Proofs.Supply

/-! Where a run of a parser may end: conditions on the answer and on the error, each
with the stream that is left. The primitives meet conditions on the supply of items,
and loops meet what each round keeps. -/
namespace ExprLang

def TokenStream.supply (stream : TokenStream) : Stream' LexItem :=
  match stream.lookahead with
  | some item => .cons (.ok item) stream.lexer.supply
  | none => stream.lexer.supply

structure TokenStream.SameAccount (before after : TokenStream) : Prop where
  depth : after.depth = before.depth
  height : after.height = before.height
  limit : after.limit = before.limit

def TokenStream.Breaks (stream : TokenStream) (fault : Error) (after : TokenStream) : Prop :=
  ∃ cause, fault = .lex cause ∧ stream.supply = .cons (.error cause) after.supply ∧
    stream.SameAccount after

namespace Parser

/-- Whether a run ends in an answer that is accepted or in an error that is allowed. -/
def Meets {α : Type} (parser : Parser α) (stream : TokenStream)
    (accepts : α → TokenStream → Prop) (allows : Error → TokenStream → Prop) : Prop :=
  match parser stream with
  | .ok answer after => accepts answer after
  | .error fault after => allows fault after

section
variable {α β : Type} {accepts : α → TokenStream → Prop} {allows : Error → TokenStream → Prop}

theorem Meets.mono {parser : Parser α} {stream : TokenStream} (meets : parser.Meets stream accepts allows)
    {accepts' : α → TokenStream → Prop} {allows' : Error → TokenStream → Prop}
    (answers : ∀ answer after, accepts answer after → accepts' answer after)
    (errors : ∀ fault after, allows fault after → allows' fault after) :
    parser.Meets stream accepts' allows' := by
  unfold Meets at meets ⊢
  cases ran : parser stream with
  | ok answer after => rw [ran] at meets; exact answers answer after meets
  | error fault after => rw [ran] at meets; exact errors fault after meets

theorem Meets.and {parser : Parser α} {stream : TokenStream} {accepts' : α → TokenStream → Prop}
    {allows' : Error → TokenStream → Prop} (meets : parser.Meets stream accepts allows)
    (meets' : parser.Meets stream accepts' allows') :
    parser.Meets stream (fun answer after => accepts answer after ∧ accepts' answer after)
      (fun fault after => allows fault after ∧ allows' fault after) := by
  unfold Meets at meets meets' ⊢
  cases ran : parser stream with
  | ok answer after => rw [ran] at meets meets'; exact ⟨meets, meets'⟩
  | error fault after => rw [ran] at meets meets'; exact ⟨meets, meets'⟩

theorem Meets.bind {first : Parser β} {next : β → Parser α} {stream : TokenStream}
    {middle : β → TokenStream → Prop} {faults : Error → TokenStream → Prop}
    (meets : first.Meets stream middle faults)
    (goes : ∀ answer after, middle answer after → (next answer).Meets after accepts allows)
    (fails : ∀ fault after, faults fault after → allows fault after) :
    (first >>= next).Meets stream accepts allows := by
  have mapped := meets.mono goes fails
  unfold Meets at mapped ⊢
  change match EStateM.bind first next stream with
    | .ok answer after => accepts answer after
    | .error fault after => allows fault after
  unfold EStateM.bind
  cases ran : first stream with
  | ok answer after => rw [ran] at mapped; exact mapped
  | error fault after => rw [ran] at mapped; exact mapped

theorem Meets.andThen {first : Parser β} {next : β → Parser α} {stream : TokenStream}
    {middle : β → TokenStream → Prop} (meets : first.Meets stream middle allows)
    (goes : ∀ answer after, middle answer after → (next answer).Meets after accepts allows) :
    (first >>= next).Meets stream accepts allows :=
  meets.bind goes (fun _ _ allowed => allowed)

theorem meets_pure {answer : α} {stream : TokenStream} (accepted : accepts answer stream) :
    (pure answer : Parser α).Meets stream accepts allows := accepted

theorem meets_throw {fault : Error} {stream : TokenStream} (allowed : allows fault stream) :
    (throw fault : Parser α).Meets stream accepts allows := allowed

theorem meets_get {next : TokenStream → Parser α} {stream : TokenStream}
    (meets : (next stream).Meets stream accepts allows) : (get >>= next).Meets stream accepts allows :=
  meets

theorem meets_record {event : Event} {next : Unit → Parser α} {stream : TokenStream}
    (meets : (next ()).Meets (stream.record event) accepts allows) :
    (record event >>= next).Meets stream accepts allows :=
  meets

theorem meets_nested {inner : Parser α} {stream : TokenStream}
    (meets : inner.Meets stream.descend (fun answer after => accepts answer after.ascend)
      (fun fault after => allows fault after.ascend)) :
    (nested inner).Meets stream accepts allows := by
  unfold Meets nested at *
  cases ran : inner stream.descend with
  | ok answer after => rw [ran] at meets; exact meets
  | error fault after => rw [ran] at meets; exact meets

end

theorem advance_meets (stream : TokenStream) :
    advance.Meets stream
      (fun item after => stream.supply = .cons (.ok item) after.supply ∧ after.lookahead = none ∧
        stream.SameAccount after)
      stream.Breaks := by
  unfold Meets advance
  cases ahead : stream.lookahead with
  | some item => exact ⟨by simp [TokenStream.supply, ahead], rfl, rfl, rfl, rfl⟩
  | none =>
    dsimp only
    unfold pull
    cases read : stream.lexer.next with
    | mk found lexer =>
      cases found with
      | none =>
        have items := stream.lexer.supply_none lexer read
        exact ⟨by simpa [TokenStream.supply, ahead] using items, ahead, rfl, rfl, rfl⟩
      | some item =>
        have items := stream.lexer.supply_some lexer item read
        cases item with
        | ok item =>
          exact ⟨by simpa [TokenStream.supply, TokenStream.record, ahead] using items, ahead, rfl, rfl, rfl⟩
        | error cause =>
          exact ⟨cause, rfl, by simpa [TokenStream.supply, TokenStream.record, ahead] using items, rfl, rfl, rfl⟩

theorem peek_meets (stream : TokenStream) :
    peek.Meets stream
      (fun item after => after.supply = stream.supply ∧ after.lookahead = some item ∧
        stream.SameAccount after)
      stream.Breaks := by
  unfold peek
  refine (advance_meets stream).andThen ?_
  intro item after taken
  obtain ⟨items, ahead, same⟩ := taken
  refine ⟨?_, rfl, same.depth, same.height, same.limit⟩
  rw [items]
  simp [TokenStream.supply, ahead]

theorem supply_of_lookahead (stream : TokenStream) (item : Spanned)
    (ahead : stream.lookahead = some item) :
    stream.supply = .cons (.ok item) stream.lexer.supply := by
  rw [TokenStream.supply, ahead]

theorem advance_ahead_meets (stream : TokenStream) (item : Spanned) (ahead : stream.lookahead = some item)
    (allows : Error → TokenStream → Prop) :
    advance.Meets stream
      (fun found after => found = item ∧ stream.supply = .cons (.ok item) after.supply ∧
        stream.SameAccount after)
      allows := by
  have items := supply_of_lookahead stream item ahead
  unfold Meets advance
  rw [ahead]
  exact ⟨rfl, items, rfl, rfl, rfl⟩

theorem eat_meets (kind : TokenKind) (stream : TokenStream) :
    (eat kind).Meets stream
      (fun found after => stream.SameAccount after ∧ match found with
        | some item => item.token.kind = kind ∧ stream.supply = .cons (.ok item) after.supply
        | none => after.supply = stream.supply ∧
          ∀ item, after.supply.head = .ok item → item.token.kind ≠ kind)
      stream.Breaks := by
  unfold eat
  refine (peek_meets stream).andThen ?_
  intro item after peeked
  obtain ⟨items, ahead, same⟩ := peeked
  split
  · rename_i fits
    refine (advance_ahead_meets after item ahead _).andThen ?_
    intro found last taken
    obtain ⟨rfl, supply, sameTaken⟩ := taken
    refine ⟨⟨?_, ?_, ?_⟩, fits, items.symm.trans supply⟩
    · exact sameTaken.depth.trans same.depth
    · exact sameTaken.height.trans same.height
    · exact sameTaken.limit.trans same.limit
  · rename_i other
    refine ⟨same, items, ?_⟩
    intro found next
    rw [supply_of_lookahead after item ahead] at next
    cases next
    exact other

theorem expect_meets (kind : TokenKind) (stream : TokenStream) :
    (expect kind).Meets stream
      (fun item after => item.token.kind = kind ∧ stream.supply = .cons (.ok item) after.supply ∧
        stream.SameAccount after)
      (fun fault after => stream.Breaks fault after ∨ ∃ item, item.token.kind ≠ kind ∧
        fault = unexpected item [kind] ∧ stream.supply = .cons (.ok item) after.supply ∧
        stream.SameAccount after) := by
  unfold expect
  refine (advance_meets stream).bind ?_ (fun _ _ breaks => .inl breaks)
  intro item after taken
  obtain ⟨items, _, same⟩ := taken
  split
  · rename_i fits
    exact ⟨fits, items, same⟩
  · rename_i other
    exact .inr ⟨item, other, rfl, items, same⟩

theorem settle_meets (height : Nat) (position : Position) (stream : TokenStream) :
    (settle height position).Meets stream
      (fun _ after => after = { stream with height } ∧ stream.depth + height ≤ stream.limit)
      (fun fault after => fault = .parse (.nestingTooDeep stream.limit position) ∧ after = stream ∧
        stream.limit < stream.depth + height) := by
  unfold Meets settle
  by_cases tooTall : stream.limit < stream.depth + height
  · rw [if_pos tooTall]
    exact ⟨rfl, rfl, tooTall⟩
  · rw [if_neg tooTall]
    exact ⟨rfl, Nat.le_of_not_lt tooTall⟩

/-- A tree grows for as long as its steps add to it, and the height to which it may
grow leaves enough rounds for that. -/
theorem grow_meets (step : Growing → Parser (Option Growing)) (bound : Nat)
    (kept : Growing → TokenStream → Prop) (accepts : Expr → TokenStream → Prop)
    (allows : Error → TokenStream → Prop)
    (bounded : ∀ node stream, kept node stream → node.height ≤ bound)
    (steps : ∀ node stream, kept node stream → (step node).Meets stream
      (fun found after => match found with
        | some taller => kept taller after ∧ node.height < taller.height
        | none => accepts node.tree after) allows)
    (rounds : Nat) (node : Growing) (stream : TokenStream) (start : kept node stream)
    (enough : bound < rounds + node.height) :
    (grow step rounds node).Meets stream accepts allows := by
  -- rounds and height together stay above the bound, so the rounds never run out
  induction rounds generalizing node stream with
  | zero =>
    have below := bounded node stream start
    omega
  | succ rounds ih =>
    unfold grow
    refine (steps node stream start).andThen ?_
    intro found after outcome
    cases found with
    | none => exact outcome
    | some taller =>
      obtain ⟨next, higher⟩ := outcome
      exact ih taller after next (by omega)

theorem grow_keeps (step : Growing → Parser (Option Growing)) (kept : Expr → TokenStream → Prop)
    (allows : Error → TokenStream → Prop)
    (steps : ∀ node now, kept node.tree now →
      (step node).Meets now (fun found after => kept (found.getD node).tree after) allows)
    (rounds : Nat) (node : Growing) (now : TokenStream) (start : kept node.tree now) :
    (grow step rounds node).Meets now kept allows := by
  -- a tree that runs out of rounds is kept too, so nothing needs to bound them
  induction rounds generalizing node now with
  | zero => exact start
  | succ rounds ih =>
    unfold grow
    refine (steps node now start).andThen ?_
    intro found after keeps
    cases found with
    | none => exact keeps
    | some taller => exact ih taller after keeps

theorem chain_meets (step : Growing → Parser (Option Growing))
    (kept : Growing → TokenStream → Prop) (accepts : Expr → TokenStream → Prop)
    (allows : Error → TokenStream → Prop) (first : Expr) (stream : TokenStream)
    (bounded : ∀ node now, kept node now → node.height ≤ stream.limit)
    (steps : ∀ node now, kept node now → (step node).Meets now
      (fun found after => match found with
        | some taller => kept taller after ∧ node.height < taller.height
        | none => accepts node.tree after) allows)
    (start : kept ⟨first, stream.height⟩ stream) (positive : 0 < stream.height) :
    (chain step first).Meets stream accepts allows := by
  unfold chain
  apply meets_get
  exact grow_meets step stream.limit kept accepts allows bounded steps stream.limit _ stream start
    (Nat.lt_add_of_pos_right positive)

end Parser

end ExprLang
