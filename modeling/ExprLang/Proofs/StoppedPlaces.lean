import ExprLang.Proofs.SourcePlaces
import ExprLang.Proofs.StreamCalls

/-! Where a lexer says that it stands. The offset is always one between two characters of the
text, and the line and the column are those of this offset as long as no error has come. Behind
an error the rest of the text is counted on the line of the error, which is where it belongs only
if that is the last line. -/
namespace ExprLang
open String (utf8Len)

namespace Position

/-- Whether the place is between two characters of the text, or at one of its ends. -/
def Between (place : Position) (source : String) : Prop :=
  ∃ before behind, source.toList = before ++ behind ∧ place.offset = utf8Len before

/-- Whether the place is the end of the text as it is reckoned from the line of an error. -/
def EndsFrom (fault : LexError) (place : Position) (source : String) : Prop :=
  ∃ before behind, source.toList = before ++ behind ∧ fault.position = start.after before ∧
    place = fault.position.along behind

private theorem Locates.between {place : Position} {source : String} (locates : place.Locates source) :
    place.Between source := by
  obtain ⟨before, behind, split, offset, _⟩ := locates
  exact ⟨before, behind, split, offset⟩

private theorem offset_line_along (place : Position) (text : List Char) :
    (place.along text).offset = place.offset + utf8Len text ∧ (place.along text).line = place.line := by
  induction text generalizing place with
  | nil => exact ⟨rfl, rfl⟩
  | cons c text ih =>
    obtain ⟨offset, line⟩ := ih ⟨place.offset + c.utf8Size, place.line, place.column + 1⟩
    refine ⟨offset.trans ?_, line⟩
    rw [String.utf8Len_cons, Nat.add_assoc, Nat.add_comm c.utf8Size]

private theorem along_eq_after (place : Position) (text : List Char) (oneLine : ∀ c ∈ text, c ≠ '\n') :
    place.along text = place.after text := by
  induction text generalizing place with
  | nil => rfl
  | cons c text ih =>
    obtain ⟨other, others⟩ := List.forall_mem_cons.mp oneLine
    have step : place.advance c = ⟨place.offset + c.utf8Size, place.line, place.column + 1⟩ := if_neg other
    rw [along, List.foldl_cons, ← along, after, List.foldl_cons, ← after, ih _ others, step]

section
variable {source : String} {fault : LexError} {place : Position} (ends : place.EndsFrom fault source)
include ends

private theorem EndsFrom.between : place.Between source := by
  obtain ⟨before, behind, split, atFault, rfl⟩ := ends
  refine ⟨source.toList, [], (List.append_nil _).symm, ?_⟩
  rw [(offset_line_along _ _).1, atFault, offset_after, split, String.utf8Len_append, start, Nat.zero_add]

private theorem EndsFrom.locates_iff :
    place.Locates source ↔ fault.position.line = 1 + source.toList.count '\n' := by
  obtain ⟨before, behind, split, atFault, rfl⟩ := ends
  have lineOfFault : fault.position.line = 1 + before.count '\n' := by
    rw [atFault]
    exact (line_start_after before).1
  have newlines : source.toList.count '\n' = before.count '\n' + behind.count '\n' := by
    rw [split, List.count_append]
  constructor
  · rintro ⟨read, rest, splitEnd, offset, line, _⟩
    -- the offset is that of the end, so nothing is left to read
    rw [(offset_line_along _ _).1, atFault, offset_after, start, Nat.zero_add, ← String.utf8Len_append,
      ← split, splitEnd, String.utf8Len_append] at offset
    have nothing : rest = [] := String.utf8Len_eq_zero.mp (by omega)
    rw [(offset_line_along _ _).2] at line
    rw [line, splitEnd, nothing, List.append_nil]
  · intro last
    have oneLine : ∀ c ∈ behind, c ≠ '\n' := by
      have none : behind.count '\n' = 0 := by omega
      intro c member newline
      exact List.count_eq_zero.mp none (newline ▸ member)
    rw [along_eq_after _ _ oneLine, atFault, ← after_append, ← split]
    exact locates_after source source.toList [] (List.append_nil _).symm

end

end Position

namespace Lexer

private theorem Passes.stops {lexer after : Lexer} {fault : LexError} (passes : lexer.Passes (.error fault) after) :
    after.finished = true ∧ fault.position = after.cursor := by
  cases passes with
  | refusal own blanks text cursor fault blank place refuses => exact ⟨rfl, place⟩

variable (source : String)

theorem position_behind_error (earlier asked : Nat) (order : earlier < asked) (fault : LexError)
    (answered : (ofString source).answer earlier = some (.error fault)) :
    ((ofString source).afterCalls asked).position.EndsFrom fault source := by
  have passes := next_answer _ earlier _ answered
  obtain ⟨read, split, cursor⟩ := standsIn_afterCalls source _ (standsIn_ofString source) (earlier + 1)
  obtain ⟨finished, place⟩ := passes.stops
  rw [finished_afterCalls _ (earlier + 1) asked order finished]
  refine ⟨read, _, split, place.trans cursor, ?_⟩
  rw [position, if_pos finished, place]

private theorem position_without_error (asked : Nat)
    (noError : ∀ earlier < asked, ∀ fault, (ofString source).answer earlier ≠ some (.error fault)) :
    ((ofString source).afterCalls asked).position.Locates source := by
  apply (standsIn_afterCalls source _ (standsIn_ofString source) asked).position_locates
  induction asked with
  | zero => nofun
  | succ asked ih =>
    cases answered : (ofString source).answer asked with
    | none =>
      rw [answer_none _ asked answered]
      exact ih (fun earlier below => noError earlier (Nat.lt_succ_of_lt below))
    | some item =>
      cases item with
      | ok word => exact (next_answer _ asked _ answered).whole
      | error fault => exact absurd answered (noError asked (Nat.lt_succ_self asked) fault)

theorem position_afterCalls (asked : Nat) :
    ((ofString source).afterCalls asked).position.Between source ∧
      (((ofString source).afterCalls asked).position.Locates source ↔
        ∀ earlier < asked, ∀ fault, (ofString source).answer earlier = some (.error fault) →
          fault.position.line = 1 + source.toList.count '\n') := by
  -- no item comes behind an error, so there is at most one
  by_cases stopped : ∃ earlier, earlier < asked ∧ ∃ fault, (ofString source).answer earlier = some (.error fault)
  · obtain ⟨earlier, order, fault, answered⟩ := stopped
    have ends := position_behind_error source earlier asked order fault answered
    refine ⟨ends.between, ?_⟩
    constructor
    · intro locates other orderOther cause answeredOther
      exact (position_behind_error source other asked orderOther cause answeredOther).locates_iff.mp locates
    · intro last
      exact ends.locates_iff.mpr (last earlier order fault answered)
  · have noError : ∀ earlier < asked, ∀ fault, (ofString source).answer earlier ≠ some (.error fault) := by
      intro earlier order fault answered
      exact stopped ⟨earlier, order, fault, answered⟩
    have locates := position_without_error source asked noError
    refine ⟨locates.between, fun _ earlier order fault answered => ?_, fun _ => locates⟩
    exact absurd answered (noError earlier order fault)

end Lexer

section
variable {source : String}

private theorem tokenize_of_answer_error (calls : Nat) (fault : LexError)
    (answered : (Lexer.ofString source).answer calls = some (.error fault)) :
    tokenize source = .error fault := by
  obtain ⟨last, items, _, _, spec⟩ := wordsOf_spec source
  rw [Lexer.answer_of_items _ _ items] at answered
  have member := List.mem_of_getElem? answered
  rw [List.mem_append, List.mem_map, List.mem_singleton] at member
  obtain ⟨word, _, isWord⟩ | rfl := member
  · contradiction
  · exact spec

theorem position_of_end (index : Nat) (item : Spanned) (next : itemAt source index = .ok item)
    (isEnd : item.token = .endOfInput) : item.position = endOf source := by
  obtain ⟨token, place⟩ := item
  obtain rfl : token = .endOfInput := isEnd
  have behind := le_of_itemAt_end next rfl
  cases answered : (Lexer.ofString source).answer index with
  | none =>
    rw [itemAt, answered] at next
    exact (congrArg Spanned.position (Except.ok.inj next)).symm
  | some found =>
    rw [itemAt, answered] at next
    obtain rfl : found = .ok ⟨.endOfInput, place⟩ := next
    have passes := Lexer.next_answer _ index _ answered
    obtain ⟨last, items, _⟩ := wordsOf_spec source
    rw [Lexer.answer_of_items _ _ items] at answered
    have inside := (List.getElem?_eq_some_iff.mp answered).1
    rw [List.length_append, List.length_map, List.length_singleton] at inside
    rw [endOf, show (wordsOf source).length = index by omega, passes.position_end]

private theorem endOf_locates_iff : (endOf source).Between source ∧ ((endOf source).Locates source ↔
    ∀ fault, tokenize source = .error fault → fault.position.line = 1 + source.toList.count '\n') := by
  obtain ⟨between, locates⟩ := Lexer.position_afterCalls source ((wordsOf source).length + 1)
  refine ⟨between, locates.trans ?_⟩
  constructor
  · intro last fault tokenized
    exact last _ (Nat.lt_succ_self _) fault (Lexer.answer_error source fault tokenized)
  · intro last earlier _ fault answered
    exact last fault (tokenize_of_answer_error earlier fault answered)

end

private theorem TokenCall.gives_next (call : TokenCall) (stream : TokenStream) (item : Spanned)
    (given : (stream.call call).1 = .ok (some item)) : stream.supply.head = .ok item := by
  have meets : call.parser.Meets stream
      (fun found _ => ∀ item, found = some item → stream.supply.head = .ok item) (fun _ _ => True) := by
    cases call with
    | peek =>
      refine (Parser.peek_meets stream).bind ?_ (fun _ _ _ => trivial)
      rintro found after ⟨supply, ahead, _⟩ _ ⟨⟩
      rw [← supply, Parser.supply_of_lookahead after found ahead]
      rfl
    | advance =>
      refine (Parser.advance_meets stream).bind ?_ (fun _ _ _ => trivial)
      rintro found after ⟨supply, _⟩ _ ⟨⟩
      exact congrArg Stream'.head supply
    | eat kind =>
      refine (Parser.eat_meets kind stream).mono ?_ (fun _ _ _ => trivial)
      rintro found after ⟨_, outcome⟩ item rfl
      exact congrArg Stream'.head outcome.2
    | expect kind =>
      refine (Parser.expect_meets kind stream).bind ?_ (fun _ _ _ => trivial)
      rintro found after ⟨_, supply, _⟩ _ ⟨⟩
      exact congrArg Stream'.head supply
  unfold Parser.Meets at meets
  unfold TokenStream.call at given
  cases ran : call.parser stream with
  | ok found after =>
    rw [ran] at meets given
    exact meets item (Except.ok.inj given)
  | error fault after =>
    rw [ran] at given
    contradiction

/-- A lexer always stands between two characters of its text. Its line and its column are those of
that place unless it has come to an error above the last line; then they are not. The same holds
of the end of input that a stream gives out. -/
theorem position_locates_unless_stopped (source : String) :
    (∀ calls : List LexerCall,
      let place := ((Lexer.ofString source).performAll calls).position
      place.Between source ∧ (place.Locates source ↔
        ∀ earlier < LexerCall.sinceRestart calls, ∀ fault,
          (Lexer.ofString source).answer earlier = some (.error fault) →
            fault.position.line = 1 + source.toList.count '\n')) ∧
    ∀ (lexed : List LexerCall) (options : Options) (calls : List StreamCall) (call : TokenCall) (place : Position),
      let lexer := (Lexer.ofString source).performAll lexed
      let stream := (TokenStream.ofLexer lexer options).performAll calls
      (stream.call call).1 = .ok (some ⟨.endOfInput, place⟩) →
        place.Between source ∧ (place.Locates source ↔
          ∀ fault, tokenize source = .error fault → fault.position.line = 1 + source.toList.count '\n') := by
  constructor
  · intro calls place
    have performed : (Lexer.ofString source).performAll calls =
        (Lexer.ofString source).afterCalls (LexerCall.sinceRestart calls) :=
      Lexer.performAll_afterCalls source calls 0
    rw [show place = _ from congrArg Lexer.position performed]
    exact Lexer.position_afterCalls source _
  · intro lexed options calls call place lexer stream given
    obtain ⟨taken, items⟩ := TokenStream.performAll_standsIn source lexed options calls
    have next := call.gives_next stream _ given
    rw [show stream.supply.head = _ from items 0] at next
    rw [show place = endOf source from position_of_end _ _ next rfl]
    exact endOf_locates_iff

/-- An error on the last line, come to by the lexer itself and in the middle of a phrase. -/
theorem position_locates_on_last_line :
    ((Lexer.ofString "a\n$").performAll [.next, .next]).position.Locates "a\n$" ∧
      Position.Locates ⟨3, 2, 2⟩ "a\n$" := by
  have refused : tokenize "a\n$" = .error (.unexpectedCharacter '$' ⟨2, 2, 1⟩) := by decide +kernel
  have last (fault : LexError) (tokenized : tokenize "a\n$" = .error fault) :
      fault.position.line = 1 + "a\n$".toList.count '\n' := by
    rw [refused] at tokenized
    cases tokenized
    decide
  obtain ⟨lexers, streams⟩ := position_locates_unless_stopped "a\n$"
  constructor
  · refine (lexers [.next, .next]).2.mpr ?_
    intro earlier _ fault answered
    exact last fault (tokenize_of_answer_error earlier fault answered)
  · have given := streams [] {} [.read .expression] .advance ⟨3, 2, 2⟩ (by decide +kernel)
    exact given.2.mpr last

/-- An error on the first of two lines. The end of the text is then reckoned to that line. -/
theorem position_not_located_above_newline :
    ((Lexer.ofString "$\n").performAll [.next]).position = ⟨2, 1, 3⟩ ∧
      ¬ ((Lexer.ofString "$\n").performAll [.next]).position.Locates "$\n" := by
  constructor
  · decide +kernel
  · intro locates
    have refused : (Lexer.ofString "$\n").answer 0 = some (.error (.unexpectedCharacter '$' ⟨0, 1, 1⟩)) := by
      decide +kernel
    have line := (Lexer.position_afterCalls "$\n" 1).2.mp locates 0 (Nat.zero_lt_one) _ refused
    contradiction

end ExprLang
