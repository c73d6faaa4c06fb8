import ExprLang.Proofs.LexerPlaces

/-! What a lexer gives out, however often it is started again: the tokens of its text, one
last item, and from then on nothing. -/
namespace ExprLang
open String (utf8Len)

inductive LexerCall where
  | next
  | restart

namespace LexerCall

def count (asked : Nat) : LexerCall → Nat
  | .next => asked + 1
  | .restart => 0

/-- How many items have been asked for since the last restart, or else since the start. -/
def sinceRestart (calls : List LexerCall) : Nat :=
  calls.foldl count 0

end LexerCall

private theorem length_le_utf8Len (text : List Char) : text.length ≤ utf8Len text := by
  induction text with
  | nil => exact Nat.le_refl 0
  | cons c text ih =>
    have size := c.utf8Size_pos
    rw [List.length_cons, String.utf8Len_cons]
    omega

namespace Lexer

def perform (lexer : Lexer) : LexerCall → Lexer
  | .next => lexer.next.2
  | .restart => lexer.restart

def performAll (lexer : Lexer) (calls : List LexerCall) : Lexer :=
  calls.foldl perform lexer

private theorem Passes.source {lexer after : Lexer} {item : LexItem} (passes : lexer.Passes item after) :
    after.source = lexer.source := by
  cases passes <;> rfl

private theorem source_afterCalls (lexer : Lexer) (calls : Nat) : (lexer.afterCalls calls).source = lexer.source := by
  induction calls with
  | zero => rfl
  | succ calls ih =>
    cases answered : lexer.answer calls with
    | none => rw [answer_none lexer calls answered, ih]
    | some item => exact (next_answer lexer calls item answered).source.trans ih

private theorem perform_afterCalls (source : String) (asked : Nat) (call : LexerCall) :
    ((ofString source).afterCalls asked).perform call = (ofString source).afterCalls (call.count asked) := by
  cases call with
  | next => exact (afterCalls_succ _ asked).symm
  | restart => exact congrArg ofString (source_afterCalls (ofString source) asked)

theorem performAll_afterCalls (source : String) (calls : List LexerCall) (asked : Nat) :
    ((ofString source).afterCalls asked).performAll calls =
      (ofString source).afterCalls (calls.foldl LexerCall.count asked) := by
  induction calls generalizing asked with
  | nil => rfl
  | cons call calls ih =>
    rw [performAll, List.foldl_cons, perform_afterCalls]
    exact ih (call.count asked)

private theorem length_take_le (count : Nat) (lexer : Lexer) : (lexer.take count).1.length ≤ count := by
  induction count generalizing lexer with
  | zero => exact Nat.le_refl 0
  | succ count ih =>
    cases read : lexer.next with
    | mk found after =>
      cases found with
      | none =>
        rw [take_none lexer after read]
        exact Nat.zero_le _
      | some item =>
        rw [take_some lexer after item read]
        exact Nat.succ_le_succ (ih after)

end Lexer

private theorem length_wordsOf_le (source : String) : (wordsOf source).length ≤ source.utf8ByteSize := by
  obtain ⟨last, items, _⟩ := wordsOf_spec source
  have few : (Lexer.ofString source).takeRest.1.length ≤ source.toList.length + 1 :=
    Lexer.length_take_le _ _
  have bytes := length_le_utf8Len source.toList
  rw [String.utf8Len_toList] at bytes
  rw [items, List.length_append, List.length_map, List.length_singleton] at few
  omega

theorem LexItem.eq_of_isLast (item : LexItem) (isLast : item.isLast = true) :
    (∃ place, item = .ok ⟨.endOfInput, place⟩) ∨ ∃ fault, item = .error fault := by
  cases item with
  | error fault => exact .inr ⟨fault, rfl⟩
  | ok item =>
    obtain ⟨token, place⟩ := item
    cases token with
    | endOfInput => exact .inl ⟨place, rfl⟩
    | _ => contradiction

theorem Lexer.answer_of_items (lexer : Lexer) (items : List LexItem) (all : lexer.takeRest.1 = items)
    (calls : Nat) : lexer.answer calls = items[calls]? := by
  rw [← takeRest_getElem, all]

theorem wordsOf_ne_end (source : String) : ∀ word ∈ wordsOf source, word.token ≠ .endOfInput := by
  intro word member isEnd
  obtain ⟨_, _, allWords, _⟩ := wordsOf_spec source
  have isWord := allWords word member
  rw [isEnd] at isWord
  contradiction

/-- A lexer answers by the number of items it has been asked for since it was last started,
whatever came before. It has no more items than its text has bytes and one, of which the
last and no other is the end of input or an error. -/
theorem lexer_restartable (source : String) :
    (∀ calls : List LexerCall,
      ((Lexer.ofString source).performAll calls).next.1 =
        (Lexer.ofString source).answer (LexerCall.sinceRestart calls) ∧
      ((Lexer.ofString source).performAll (calls ++ [.restart])).position = .start) ∧
    ∃ (words : List Spanned) (last : LexItem),
      (∀ calls, (Lexer.ofString source).answer calls = (words.map Except.ok ++ [last])[calls]?) ∧
      (∀ word ∈ words, word.token ≠ .endOfInput) ∧
      ((∃ place, last = .ok ⟨.endOfInput, place⟩) ∨ ∃ fault, last = .error fault) ∧
      words.length + 1 ≤ source.utf8ByteSize + 1 := by
  constructor
  · intro calls
    have performed := Lexer.performAll_afterCalls source calls 0
    constructor
    · exact congrArg (fun lexer => lexer.next.1) performed
    · have restarted := Lexer.performAll_afterCalls source (calls ++ [.restart]) 0
      rw [List.foldl_append] at restarted
      exact congrArg Lexer.position restarted
  · obtain ⟨last, items, _, isLast, _⟩ := wordsOf_spec source
    refine ⟨wordsOf source, last, Lexer.answer_of_items _ _ items, wordsOf_ne_end source,
      last.eq_of_isLast isLast, ?_⟩
    exact Nat.succ_le_succ (length_wordsOf_le source)

theorem lexer_restartable_after_error :
    ((Lexer.ofString "a\n$").performAll [.next, .next, .next, .next, .restart, .next]).next.1 =
      some (.error (.unexpectedCharacter '$' ⟨2, 2, 1⟩)) ∧
    ((Lexer.ofString "a\n$").performAll ([.next, .next, .next] ++ [.restart])).position = .start := by
  have fault : (Lexer.ofString "a\n$").answer 1 = some (.error (.unexpectedCharacter '$' ⟨2, 2, 1⟩)) := by
    decide +kernel
  have answers := (lexer_restartable "a\n$").1
  exact ⟨(answers _).1.trans fault, (answers _).2⟩

end ExprLang
