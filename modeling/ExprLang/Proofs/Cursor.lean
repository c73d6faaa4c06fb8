import ExprLang.Proofs.Consumption

/-! A token stream is a cursor over the items of its text. It answers each call from the item
that it stands at, in whatever order the calls come and whatever has failed before, and its
lexer is never more than one item ahead of it. -/
namespace ExprLang

inductive TokenCall where
  | peek
  | advance
  | eat (kind : TokenKind)
  | expect (kind : TokenKind)

abbrev CallResult := Except Error (Option Spanned)

namespace TokenCall

def parser : TokenCall → Parser (Option Spanned)
  | .peek => do return some (← Parser.peek)
  | .advance => do return some (← Parser.advance)
  | .eat kind => Parser.eat kind
  | .expect kind => do return some (← Parser.expect kind)

/-- What the call comes to at an item. -/
def resultAt : LexItem → TokenCall → CallResult
  | .error cause, _ => .error (.lex cause)
  | .ok item, .peek => .ok (some item)
  | .ok item, .advance => .ok (some item)
  | .ok item, .eat kind => .ok (if item.token.kind = kind then some item else none)
  | .ok item, .expect kind =>
    if item.token.kind = kind then .ok (some item)
    else if item.token = .endOfInput then .error (.parse (.unexpectedEndOfInput item.position))
    else .error (.parse (.unexpectedToken [kind] item.token item.position))

/-- Whether the call takes the item, so that the next call comes to the one behind it. -/
def takes : LexItem → TokenCall → Bool
  | .error _, _ => true
  | .ok _, .peek => false
  | .ok _, .advance => true
  | .ok item, .eat kind => item.token.kind = kind
  | .ok _, .expect _ => true

end TokenCall

/-- A place among items without end. -/
structure Cursor where
  items : Nat → LexItem
  taken : Nat

def Cursor.call (cursor : Cursor) (call : TokenCall) : CallResult × Cursor :=
  let item := cursor.items cursor.taken
  (call.resultAt item, { cursor with taken := if call.takes item then cursor.taken + 1 else cursor.taken })

def TokenStream.call (stream : TokenStream) (call : TokenCall) : CallResult × TokenStream :=
  match call.parser stream with
  | .ok found after => (.ok found, after)
  | .error fault after => (.error fault, after)

/-- The results of calls one after the other, each on what the one before has left. -/
def callAll {State : Type} (step : State → TokenCall → CallResult × State) (state : State) :
    List TokenCall → List CallResult × State
  | [] => ([], state)
  | call :: calls =>
    let (result, next) := step state call
    let (results, last) := callAll step next calls
    (result :: results, last)

def Agrees (source : String) (taken : Nat) (call : TokenCall) (result : CallResult) (after : TokenStream) : Prop :=
  result = call.resultAt (itemAt source taken) ∧
    after.HasTaken source (if call.takes (itemAt source taken) then taken + 1 else taken)

section
variable {source : String} {taken : Nat} {now after : TokenStream}

private theorem agrees_of_item (call : TokenCall) (item : Spanned) (result : CallResult)
    (next : itemAt source taken = .ok item) (same : call.resultAt (.ok item) = result)
    (has : after.HasTaken source (if call.takes (.ok item) then taken + 1 else taken)) :
    Agrees source taken call result after := by
  rw [← next] at same has
  exact ⟨same.symm, has⟩

private theorem agrees_of_stumbles (call : TokenCall) (cause : LexError)
    (stumbles : now.Stumbles source taken cause after) :
    Agrees source taken call (.error (.lex cause)) after := by
  refine ⟨?_, ?_⟩
  · rw [stumbles.item]
    cases call <;> rfl
  · rw [stumbles.item]
    cases call <;> exact stumbles.taken

private theorem unexpected_eq (item : Spanned) (kind : TokenKind) :
    Parser.unexpected item [kind] =
      if item.token = .endOfInput then .parse (.unexpectedEndOfInput item.position)
      else .parse (.unexpectedToken [kind] item.token item.position) := by
  obtain ⟨token, position⟩ := item
  cases token <;> rfl

private theorem call_meets (has : now.HasTaken source taken) (call : TokenCall) :
    call.parser.Meets now (fun found after => Agrees source taken call (.ok found) after)
      (fun fault after => Agrees source taken call (.error fault) after) := by
  have fails (fault : Error) (after : TokenStream)
      (stumbles : ∃ cause, fault = .lex cause ∧ now.Stumbles source taken cause after) :
      Agrees source taken call (.error fault) after := by
    obtain ⟨cause, rfl, stumbles⟩ := stumbles
    exact agrees_of_stumbles call cause stumbles
  cases call with
  | peek =>
    refine (Parser.peek_takes has).bind ?_ fails
    intro item after peeked
    obtain ⟨next, hasAfter, _, _⟩ := peeked
    exact agrees_of_item .peek item _ next rfl hasAfter
  | advance =>
    refine (Parser.advance_takes has).bind ?_ fails
    intro item after given
    exact agrees_of_item .advance item _ given.1.item rfl given.1.taken
  | eat kind =>
    refine (Parser.eat_takes has kind).mono ?_ fails
    intro found after outcome
    cases found with
    | some item =>
      obtain ⟨fits, gives⟩ := outcome
      apply agrees_of_item (.eat kind) item _ gives.item
      · simp only [TokenCall.resultAt, if_pos fits]
      · simp only [TokenCall.takes, fits, decide_true, if_true]
        exact gives.taken
    | none =>
      obtain ⟨⟨item, next, other⟩, hasAfter, _⟩ := outcome
      apply agrees_of_item (.eat kind) item _ next
      · simp only [TokenCall.resultAt, if_neg other]
      · simp only [TokenCall.takes, other, decide_false, Bool.false_eq_true, if_false]
        exact hasAfter
  | expect kind =>
    refine (Parser.expect_takes has kind).bind ?_ ?_
    · intro item after expected
      obtain ⟨fits, gives⟩ := expected
      apply agrees_of_item (.expect kind) item _ gives.item
      · simp only [TokenCall.resultAt, if_pos fits]
      · exact gives.taken
    · intro fault after failed
      rcases failed with stumbles | ⟨item, other, rfl, gives⟩
      · exact fails fault after stumbles
      · apply agrees_of_item (.expect kind) item _ gives.item
        · rw [unexpected_eq]
          simp only [TokenCall.resultAt, if_neg other]
          split <;> rfl
        · exact gives.taken

/-- A stream answers one call as a cursor does that has taken as many items. -/
theorem call_agrees (has : now.HasTaken source taken) (call : TokenCall) :
    Agrees source taken call (now.call call).1 (now.call call).2 := by
  have meets := call_meets has call
  unfold Parser.Meets at meets
  unfold TokenStream.call
  cases ran : call.parser now with
  | ok found after => rw [ran] at meets; exact meets
  | error fault after => rw [ran] at meets; exact meets

theorem callAll_agrees (has : now.HasTaken source taken) (calls : List TokenCall) :
    (callAll TokenStream.call now calls).1 = (callAll Cursor.call ⟨itemAt source, taken⟩ calls).1 ∧
      (callAll TokenStream.call now calls).2.HasTaken source
        (callAll Cursor.call ⟨itemAt source, taken⟩ calls).2.taken := by
  induction calls generalizing now taken with
  | nil => exact ⟨rfl, has⟩
  | cons call calls ih =>
    obtain ⟨same, hasAfter⟩ := call_agrees has call
    obtain ⟨results, hasLast⟩ := ih hasAfter
    exact ⟨congrArg₂ List.cons same results, hasLast⟩

end

theorem Lexer.Passes.position_end {lexer after : Lexer} {place : Position}
    (passes : lexer.Passes (.ok ⟨.endOfInput, place⟩) after) : after.position = place := by
  cases passes with
  | word source blanks spelling behind cursor token blank heads => exact heads.spelled.1.elim
  | finish source blanks cursor blank => rfl

private theorem itemAt_eq (source : String) (items : List LexItem)
    (answers : ∀ calls, (Lexer.ofString source).answer calls = items[calls]?) :
    itemAt source = fun index => items[index]?.getD (.ok ⟨.endOfInput, endOf source⟩) := by
  funext index
  rw [itemAt, answers]

/-- The results of calls on a stream are those of a cursor over the items of its lexer: the
tokens of the text, its end or an error, and from then on the end of input at one place. The
lexer has been called for what was taken, or for one item more. -/
theorem stream_is_cursor (source : String) (options : Options) :
    ∃ (words : List Spanned) (last : LexItem) (place : Position),
      (∀ calls, (Lexer.ofString source).answer calls = (words.map Except.ok ++ [last])[calls]?) ∧
      (∀ word ∈ words, word.token ≠ .endOfInput) ∧
      (last = .ok ⟨.endOfInput, place⟩ ∨ (∃ cause, last = .error cause) ∧
        place = ((Lexer.ofString source).afterCalls (words.length + 1)).position) ∧
      ∀ calls : List TokenCall,
        let items := fun index => (words.map Except.ok ++ [last])[index]?.getD (.ok ⟨.endOfInput, place⟩)
        let cursor := callAll Cursor.call ⟨items, 0⟩ calls
        let stream := callAll TokenStream.call (.ofString source options) calls
        stream.1 = cursor.1 ∧ ∃ pulled, cursor.2.taken ≤ pulled ∧ pulled ≤ cursor.2.taken + 1 ∧
          stream.2.lexer = (Lexer.ofString source).afterCalls pulled ∧
          stream.2.items = (words.map Except.ok ++ [last]).take pulled := by
  obtain ⟨last, items, _, isLast, _⟩ := wordsOf_spec source
  have answers := Lexer.answer_of_items _ _ items
  refine ⟨wordsOf source, last, endOf source, answers, wordsOf_ne_end source, ?_, ?_⟩
  · rcases last.eq_of_isLast isLast with ⟨place, rfl⟩ | fails
    · have ends : (Lexer.ofString source).answer (wordsOf source).length = some (.ok ⟨.endOfInput, place⟩) := by
        rw [answers]
        simp
      left
      rw [endOf, (Lexer.next_answer _ _ _ ends).position_end]
    · exact .inr ⟨fails, rfl⟩
  · intro calls
    dsimp only
    rw [← itemAt_eq source _ answers]
    obtain ⟨same, has⟩ := callAll_agrees (TokenStream.hasTaken_ofString source options) calls
    refine ⟨same, _, Nat.le_add_right _ _, ?_, has.lexer, ?_⟩
    · apply Nat.add_le_add_left
      exact TokenStream.ahead_le _
    · rw [has.items, items]

/-- A token that does not fit is lost to `expect` but not to `eat`, and an error comes once. -/
example : (callAll TokenStream.call (.ofString "a $" {})
    [.eat .number, .expect .assign, .peek, .eat .number, .advance]).1 =
      [.ok none, .error (.parse (.unexpectedToken [.assign] (.identifier "a") ⟨0, 1, 1⟩)),
        .error (.lex (.unexpectedCharacter '$' ⟨2, 1, 3⟩)), .ok none,
        .ok (some ⟨.endOfInput, ⟨3, 1, 4⟩⟩)] := by
  decide +kernel

end ExprLang
