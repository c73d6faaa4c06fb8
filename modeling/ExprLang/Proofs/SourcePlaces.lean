import ExprLang.Proofs.SameSteps

/-! All places that a lexer or a parse names are places of the text, and the tokens come
in the order of theirs. -/
namespace ExprLang

/-- Whether a token comes before a place and ends no later than there. -/
structure Spanned.Before (source : String) (word : Spanned) (place : Position) : Prop where
  ends : word.EndsBy source place.offset
  offset : word.position.offset < place.offset
  order : word.position < place

private theorem Spanned.EndsBy.before {source : String} {word : Spanned} {place : Position}
    (ends : word.EndsBy source place.offset) : word.Before source place :=
  ⟨ends, ends.lt, Position.lt_of_offset_lt _ _ ends.lt⟩

namespace Lexer
variable (source : String)

private theorem answer_locates (calls : Nat) (item : LexItem)
    (answered : (ofString source).answer calls = some item) : item.position.Locates source := by
  have stands := standsIn_afterCalls source _ (standsIn_ofString source) calls
  exact ((next_answer _ calls item answered).standsIn stands).2

private theorem answer_before (early late : Nat) (order : early < late) (word : Spanned) (item : LexItem)
    (first : (ofString source).answer early = some (.ok word))
    (second : (ofString source).answer late = some item) : word.Before source item.position :=
  (endsBy_of_answers source _ (standsIn_ofString source) early late order word item first second).before

private theorem answer_token (tokens : List Spanned) (tokenized : tokenize source = .ok tokens) (calls : Nat)
    (inside : calls < tokens.length) : (ofString source).answer calls = some (.ok tokens[calls]) := by
  obtain ⟨last, items, _, _, spec⟩ := wordsOf_spec source
  rw [tokenized] at spec
  cases last with
  | error fault => contradiction
  | ok item =>
    obtain rfl := Except.ok.inj spec
    rw [← takeRest_getElem, items, ← List.map_singleton, ← List.map_append, List.getElem?_map,
      List.getElem?_eq_getElem inside]
    rfl

theorem answer_error (fault : LexError) (tokenized : tokenize source = .error fault) :
    (ofString source).answer (wordsOf source).length = some (.error fault) := by
  obtain ⟨last, items, _, _, spec⟩ := wordsOf_spec source
  rw [tokenized] at spec
  cases last with
  | ok item => contradiction
  | error cause =>
    obtain rfl := Except.error.inj spec
    rw [← takeRest_getElem, items, List.getElem?_append_right (by simp)]
    simp

end Lexer

/-- Each place that is reported is one of the text, and tokens come in order of their
places. -/
theorem reported_places (source : String) (options : Options) :
    (∀ calls item, (Lexer.ofString source).answer calls = some item → item.position.Locates source) ∧
    (∀ early late word item, early < late → (Lexer.ofString source).answer early = some (.ok word) →
      (Lexer.ofString source).answer late = some item → word.Before source item.position) ∧
    (∀ tokens, tokenize source = .ok tokens → (∀ token ∈ tokens, token.position.Locates source) ∧
      tokens.Pairwise fun first second => first.Before source second.position) ∧
    (∀ fault, tokenize source = .error fault → fault.position.Locates source) ∧
    ∀ fault, parseWith source options = .error fault → fault.position.Locates source := by
  refine ⟨Lexer.answer_locates source, ?_, ?_, ?_, ?_⟩
  · intro early late word item order first second
    exact Lexer.answer_before source early late order word item first second
  · intro tokens tokenized
    have answers := Lexer.answer_token source tokens tokenized
    constructor
    · intro token member
      obtain ⟨calls, inside, rfl⟩ := List.getElem_of_mem member
      exact Lexer.answer_locates source calls _ (answers calls inside)
    · rw [List.pairwise_iff_getElem]
      intro early late insideEarly insideLate order
      exact Lexer.answer_before source early late order _ _ (answers early insideEarly) (answers late insideLate)
  · intro fault tokenized
    exact Lexer.answer_locates source _ _ (Lexer.answer_error source fault tokenized)
  · intro fault parsed
    exact (parseWith_stands source "" options options nofun (Nat.le_refl _) fault parsed).1

/-- Letters of two and three bytes on two lines, a name where the text should end, and a
character that is no token. -/
theorem reported_places_two_lines :
    (∃ tokens, tokenize "é =\n ᚠ ᚠ" = .ok tokens ∧ (∀ token ∈ tokens, token.position.Locates "é =\n ᚠ ᚠ") ∧
      tokens.Pairwise fun first second => first.Before "é =\n ᚠ ᚠ" second.position) ∧
    Spanned.Before "é =\n ᚠ ᚠ" ⟨.assign, ⟨3, 1, 3⟩⟩ ⟨13, 2, 5⟩ ∧
    Position.Locates ⟨10, 2, 4⟩ "é =\n ᚠ ᚠ" ∧ Position.Locates ⟨6, 3, 1⟩ "ᚠ\n\r\n$" := by
  have read : tokenize "é =\n ᚠ ᚠ" = .ok [⟨.identifier "é", ⟨0, 1, 1⟩⟩, ⟨.assign, ⟨3, 1, 3⟩⟩,
      ⟨.identifier "ᚠ", ⟨6, 2, 2⟩⟩, ⟨.identifier "ᚠ", ⟨10, 2, 4⟩⟩, ⟨.endOfInput, ⟨13, 2, 5⟩⟩] := by
    decide +kernel
  have leftover : parseWith "é =\n ᚠ ᚠ" ⟨128⟩ =
      .error (.parse (.unexpectedToken [.endOfInput] (.identifier "ᚠ") ⟨10, 2, 4⟩)) := by
    decide +kernel
  have refused : tokenize "ᚠ\n\r\n$" = .error (.unexpectedCharacter '$' ⟨6, 3, 1⟩) := by
    decide +kernel
  obtain ⟨_, ordered, tokens, _, parsed⟩ := reported_places "é =\n ᚠ ᚠ" ⟨128⟩
  have answers := Lexer.answer_token _ _ read
  refine ⟨⟨_, read, tokens _ read⟩, ?_, parsed _ leftover, ?_⟩
  · exact ordered 1 4 _ _ (by decide) (answers 1 (by decide)) (answers 4 (by decide))
  · exact (reported_places "ᚠ\n\r\n$" ⟨128⟩).2.2.2.1 _ refused

end ExprLang
