import ExprLang.Proofs.Outcome
import ExprLang.Proofs.Restarting

/-! How far a token stream has come in its text: the number of items that have been taken
from it. This alone says which item comes next, how often the lexer has been called, and
which items the log names. -/
namespace ExprLang

def endOf (source : String) : Position :=
  ((Lexer.ofString source).afterCalls ((wordsOf source).length + 1)).position

/-- The items of a text by number, and behind them the end of input for ever. -/
def itemAt (source : String) (index : Nat) : LexItem :=
  ((Lexer.ofString source).answer index).getD (.ok ⟨.endOfInput, endOf source⟩)

def Event.item? : Event → Option LexItem
  | .lexed item => some (.ok item)
  | .rejected fault => some (.error fault)
  | _ => none

theorem afterCalls_of_answer_none (source : String) (calls : Nat)
    (answered : (Lexer.ofString source).answer calls = none) :
    (Lexer.ofString source).afterCalls calls =
      (Lexer.ofString source).afterCalls ((wordsOf source).length + 1) := by
  obtain ⟨last, items, _⟩ := wordsOf_spec source
  have answers := Lexer.answer_of_items _ _ items
  have late : (wordsOf source).length + 1 ≤ calls := by
    rw [answers, List.getElem?_eq_none_iff, List.length_append, List.length_map] at answered
    exact answered
  have silent : (Lexer.ofString source).answer ((wordsOf source).length + 1) = none := by
    rw [answers, List.getElem?_eq_none_iff, List.length_append, List.length_map]
    exact Nat.le_refl _
  exact Lexer.finished_afterCalls _ _ calls late (Lexer.next_none _ _ (Prod.ext silent rfl)).1

section
variable {source : String} {index : Nat} {item : Spanned}

private theorem itemAt_word (word : Spanned) (found : (wordsOf source)[index]? = some word) :
    itemAt source index = .ok word := by
  obtain ⟨last, items, _⟩ := wordsOf_spec source
  rw [itemAt, Lexer.answer_of_items _ _ items, List.getElem?_append_left, List.getElem?_map, found]
  · rfl
  · rw [List.length_map]
    exact (List.getElem?_eq_some_iff.mp found).1

theorem word_of_itemAt (next : itemAt source index = .ok item) (inside : index < (wordsOf source).length) :
    (wordsOf source)[index]? = some item := by
  have found := List.getElem?_eq_getElem inside
  rw [itemAt_word _ found] at next
  rw [found, Except.ok.inj next]

theorem lt_of_itemAt (next : itemAt source index = .ok item) (isWord : item.token.isEnd = false) :
    index < (wordsOf source).length := by
  obtain ⟨last, items, _, isLast, _⟩ := wordsOf_spec source
  by_contra outside
  have isEnd : (itemAt source index).isLast = true := by
    rw [itemAt, Lexer.answer_of_items _ _ items, List.getElem?_append_right (by simpa using outside)]
    cases (index - ((wordsOf source).map Except.ok).length) with
    | zero => exact isLast
    | succ => rfl
  rw [next, LexItem.isLast, isWord] at isEnd
  contradiction

theorem le_of_itemAt_end (next : itemAt source index = .ok item) (isEnd : item.token.isEnd = true) :
    (wordsOf source).length ≤ index := by
  obtain ⟨_, _, allWords, _⟩ := wordsOf_spec source
  by_contra outside
  have found := word_of_itemAt next (Nat.lt_of_not_le outside)
  have isWord := allWords item (List.mem_of_getElem? found)
  rw [isEnd] at isWord
  contradiction

end

private theorem takeRest_take_succ (lexer : Lexer) (count : Nat) :
    lexer.takeRest.1.take (count + 1) = lexer.takeRest.1.take count ++ (lexer.answer count).toList := by
  rw [List.take_add_one, Lexer.takeRest_getElem]

namespace TokenStream

def ahead (stream : TokenStream) : Nat := stream.lookahead.toList.length

def items (stream : TokenStream) : List LexItem := stream.log.toList.filterMap Event.item?

/-- Whether `taken` items of the text have been taken from the stream. Its lexer has been
called for these and for the one looked ahead at, and for no others. -/
structure HasTaken (source : String) (taken : Nat) (now : TokenStream) : Prop where
  lexer : now.lexer = (Lexer.ofString source).afterCalls (taken + now.ahead)
  next : ∀ item ∈ now.lookahead, itemAt source taken = .ok item
  items : now.items = (Lexer.ofString source).takeRest.1.take (taken + now.ahead)

def OnlyReads (before after : TokenStream) : Prop :=
  ∃ words : List Spanned, after.log.toList = before.log.toList ++ words.map Event.lexed

structure Gives (source : String) (taken : Nat) (before : TokenStream) (item : Spanned)
    (after : TokenStream) : Prop where
  item : itemAt source taken = .ok item
  taken : after.HasTaken source (taken + 1)
  reads : before.OnlyReads after

structure Stumbles (source : String) (taken : Nat) (before : TokenStream) (cause : LexError)
    (after : TokenStream) : Prop where
  item : itemAt source taken = .error cause
  taken : after.HasTaken source (taken + 1)
  log : after.log.toList = before.log.toList ++ [.rejected cause]

theorem hasTaken_ofString (source : String) (options : Options) :
    (ofString source options).HasTaken source 0 :=
  ⟨rfl, nofun, rfl⟩

theorem ahead_le (stream : TokenStream) : stream.ahead ≤ 1 := Option.length_toList_le

theorem HasTaken.items_prefix {source : String} {taken : Nat} {now : TokenStream}
    (has : now.HasTaken source taken) : now.items <+: (Lexer.ofString source).takeRest.1 := by
  rw [has.items]
  exact List.take_prefix _ _

theorem OnlyReads.refl (stream : TokenStream) : stream.OnlyReads stream :=
  ⟨[], (List.append_nil _).symm⟩

theorem OnlyReads.trans {before middle after : TokenStream} (first : before.OnlyReads middle)
    (second : middle.OnlyReads after) : before.OnlyReads after := by
  obtain ⟨words, log⟩ := first
  obtain ⟨more, logAfter⟩ := second
  exact ⟨words ++ more, by rw [logAfter, log, List.map_append, List.append_assoc]⟩

theorem items_record (stream : TokenStream) (event : Event) :
    (stream.record event).items = stream.items ++ event.item?.toList := by
  cases item : event.item? <;> simp [items, record, item]

section
variable {source : String} {taken : Nat} {now : TokenStream} (has : now.HasTaken source taken)
  (empty : now.lookahead = none)
include has empty

private theorem HasTaken.unread : now.lexer = (Lexer.ofString source).afterCalls taken ∧
    now.items = (Lexer.ofString source).takeRest.1.take taken := by
  have none : taken + now.ahead = taken := by rw [ahead, empty]; rfl
  exact ⟨none ▸ has.lexer, none ▸ has.items⟩

private theorem HasTaken.pulled (after : TokenStream) (found : Option LexItem)
    (read : now.lexer.next = (found, after.lexer)) (stays : after.lookahead = none)
    (names : after.items = now.items ++ found.toList) : after.HasTaken source (taken + 1) := by
  obtain ⟨lexer, items⟩ := has.unread empty
  have none : taken + 1 + after.ahead = taken + 1 := by rw [ahead, stays]; rfl
  have answered : (Lexer.ofString source).answer taken = found := by rw [Lexer.answer, ← lexer, read]
  refine ⟨?_, ?_, ?_⟩
  · rw [none, Lexer.afterCalls_succ, ← lexer, read]
  · intro item ahead
    rw [stays] at ahead
    exact absurd ahead (Option.not_mem_none item)
  · rw [none, takeRest_take_succ, ← items, answered, names]

end

end TokenStream

namespace Parser
open TokenStream

section
variable {source : String} {taken : Nat} {now : TokenStream} (has : now.HasTaken source taken)
include has

private theorem pull_takes (empty : now.lookahead = none) :
    pull.Meets now (fun item after => now.Gives source taken item after ∧ after.lookahead = none)
      (fun fault after => ∃ cause, fault = .lex cause ∧ now.Stumbles source taken cause after) := by
  obtain ⟨lexer, _⟩ := has.unread empty
  unfold Meets pull
  cases read : now.lexer.next with
  | mk found after =>
    have answered : (Lexer.ofString source).answer taken = found := by rw [Lexer.answer, ← lexer, read]
    cases found with
    | none =>
      obtain ⟨_, same⟩ := Lexer.next_none _ _ read
      have place : endOf source = after.position := by
        rw [endOf, ← afterCalls_of_answer_none source taken answered, ← lexer, same]
      refine ⟨⟨?_, ?_, .refl now⟩, empty⟩
      · rw [itemAt, answered, place]
        rfl
      · exact has.pulled empty _ none read empty (List.append_nil _).symm
    | some item =>
      cases item with
      | ok item =>
        refine ⟨⟨?_, ?_, [item], Array.toList_push⟩, empty⟩
        · rw [itemAt, answered]
          rfl
        · exact has.pulled empty _ _ read empty (items_record _ _)
      | error cause =>
        refine ⟨cause, rfl, ?_, ?_, Array.toList_push⟩
        · rw [itemAt, answered]
          rfl
        · exact has.pulled empty _ _ read empty (items_record _ _)

theorem advance_ahead_takes (item : Spanned) (ahead : now.lookahead = some item)
    (allows : Error → TokenStream → Prop) :
    advance.Meets now
      (fun found after => found = item ∧ now.Gives source taken item after ∧ after.lookahead = none) allows := by
  have one : taken + now.ahead = taken + 1 := by rw [TokenStream.ahead, ahead]; rfl
  unfold Meets advance
  rw [ahead]
  refine ⟨rfl, ⟨has.next item ahead, ⟨?_, nofun, ?_⟩, .refl now⟩, rfl⟩
  · exact one ▸ has.lexer
  · exact one ▸ has.items

theorem advance_takes :
    advance.Meets now (fun item after => now.Gives source taken item after ∧ after.lookahead = none)
      (fun fault after => ∃ cause, fault = .lex cause ∧ now.Stumbles source taken cause after) := by
  cases ahead : now.lookahead with
  | some item =>
    refine (advance_ahead_takes has item ahead _).mono ?_ (fun _ _ allowed => allowed)
    intro found after gives
    obtain ⟨rfl, given⟩ := gives
    exact given
  | none =>
    have pulls := pull_takes has ahead
    unfold Meets advance
    rw [ahead]
    exact pulls

theorem peek_takes :
    peek.Meets now
      (fun item after => itemAt source taken = .ok item ∧ after.HasTaken source taken ∧
        after.lookahead = some item ∧ now.OnlyReads after)
      (fun fault after => ∃ cause, fault = .lex cause ∧ now.Stumbles source taken cause after) := by
  unfold peek
  refine (advance_takes has).andThen ?_
  intro item after given
  obtain ⟨gives, empty⟩ := given
  obtain ⟨lexer, items⟩ := gives.taken.unread empty
  exact ⟨gives.item, ⟨lexer, fun _ same => Option.some.inj same ▸ gives.item, items⟩, rfl, gives.reads⟩

theorem eat_takes (kind : TokenKind) :
    (eat kind).Meets now
      (fun found after => match found with
        | some item => item.token.kind = kind ∧ now.Gives source taken item after
        | none => (∃ item, itemAt source taken = .ok item ∧ item.token.kind ≠ kind) ∧
          after.HasTaken source taken ∧ now.OnlyReads after)
      (fun fault after => ∃ cause, fault = .lex cause ∧ now.Stumbles source taken cause after) := by
  unfold eat
  refine (peek_takes has).andThen ?_
  intro item after peeked
  obtain ⟨next, hasAfter, ahead, reads⟩ := peeked
  split
  · rename_i fits
    refine (advance_ahead_takes hasAfter item ahead _).andThen ?_
    intro found last given
    obtain ⟨rfl, gives, _⟩ := given
    exact ⟨fits, next, gives.taken, reads.trans gives.reads⟩
  · rename_i other
    exact ⟨⟨item, next, other⟩, hasAfter, reads⟩

theorem expect_takes (kind : TokenKind) :
    (expect kind).Meets now
      (fun item after => item.token.kind = kind ∧ now.Gives source taken item after)
      (fun fault after => (∃ cause, fault = .lex cause ∧ now.Stumbles source taken cause after) ∨
        ∃ item, item.token.kind ≠ kind ∧ fault = unexpected item [kind] ∧ now.Gives source taken item after) := by
  unfold expect
  refine (advance_takes has).bind ?_ (fun _ _ stumbles => .inl stumbles)
  intro item after given
  split
  · rename_i fits
    exact ⟨fits, given.1⟩
  · rename_i other
    exact .inr ⟨item, other, rfl, given.1⟩

end

end Parser

end ExprLang
