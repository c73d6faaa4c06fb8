import ExprLang.Proofs.Places
import ExprLang.Proofs.Scanning

/-! Reading a text as tokens loses nothing of it: the text is blanks and words by turns,
the words those of the tokens, up to its end or up to what is refused. -/
namespace ExprLang
open String (utf8Len)

/-- Blanks and words by turns, between two places of a text given by their bytes: what
stands between them are the words, and what stands behind is the rest. -/
inductive Layout : Nat → List Char → List Spanned → Nat → List Char → Prop where
  | gap (start : Nat) (blanks rest : List Char)
      (blank : ∀ c ∈ blanks, c ∈ blankChars) :
      Layout start (blanks ++ rest) [] (start + utf8Len blanks) rest
  | word (start finish : Nat) (blanks spelling behind rest : List Char) (item : Spanned)
      (words : List Spanned) (blank : ∀ c ∈ blanks, c ∈ blankChars)
      (place : item.position.offset = start + utf8Len blanks)
      (heads : item.token.Heads spelling behind)
      (later : Layout (item.position.offset + utf8Len spelling) behind words finish rest) :
      Layout start (blanks ++ (spelling ++ behind)) (item :: words) finish rest

private theorem Layout.split (start finish : Nat) (text rest : List Char) (words : List Spanned)
    (layout : Layout start text words finish rest) :
    ∃ before, text = before ++ rest ∧ finish = start + utf8Len before := by
  induction layout with
  | gap start blanks rest blank => exact ⟨blanks, rfl, rfl⟩
  | word start finish blanks spelling behind rest item words blank place heads later ih =>
    obtain ⟨before, rfl, rfl⟩ := ih
    refine ⟨blanks ++ (spelling ++ before), by simp, ?_⟩
    simp only [place, String.utf8Len_append]
    omega

/-- Where the words stop: at the end of the text, or at what the error refuses. -/
def LexItem.StopsAt (rest : List Char) (offset : Nat) : LexItem → Prop
  | .ok item => item.token = .endOfInput ∧ item.position.offset = offset ∧ rest = []
  | .error fault => fault.position.offset = offset ∧ fault.Refuses rest

private theorem Lexer.Passes.layout_last {lexer after : Lexer} {last : LexItem}
    (passes : lexer.Passes last after) (isLast : last.isLast = true) :
    ∃ offset rest, Layout lexer.cursor.offset lexer.rest [] offset rest ∧ last.StopsAt rest offset := by
  cases passes with
  | word source blanks spelling behind cursor token blank heads =>
    rw [LexItem.isLast, heads.isEnd] at isLast
    contradiction
  | finish source blanks cursor blank =>
    have layout := Layout.gap cursor.offset blanks [] blank
    rw [List.append_nil] at layout
    exact ⟨_, _, layout, rfl, Position.offset_after cursor blanks, rfl⟩
  | refusal source blanks text cursor fault blank place refuses =>
    refine ⟨_, _, .gap cursor.offset blanks text blank, ?_, refuses⟩
    rw [place, Position.offset_after]

private theorem Lexer.Passes.layout_word {lexer after : Lexer} {item : Spanned}
    (passes : lexer.Passes (.ok item) after) (isWord : item.token.isEnd = false)
    (words : List Spanned) (offset : Nat) (rest : List Char)
    (later : Layout after.cursor.offset after.rest words offset rest) :
    Layout lexer.cursor.offset lexer.rest (item :: words) offset rest := by
  cases passes with
  | finish => contradiction
  | word source blanks spelling behind cursor token blank heads =>
    rw [Position.offset_after] at later
    exact .word _ _ blanks spelling behind rest _ words blank (Position.offset_after cursor blanks) heads later

private theorem Lexer.layout_takeRest (lexer : Lexer) (words : List Spanned) (last : LexItem)
    (items : lexer.takeRest.1 = words.map Except.ok ++ [last])
    (allWords : ∀ word ∈ words, word.token.isEnd = false) (isLast : last.isLast = true) :
    ∃ offset rest, Layout lexer.cursor.offset lexer.rest words offset rest ∧ last.StopsAt rest offset := by
  induction words generalizing lexer with
  | nil =>
    obtain ⟨after, read, _⟩ := takeRest_cons lexer last [] items
    exact (next_passes lexer after last read).layout_last isLast
  | cons word words ih =>
    obtain ⟨after, read, later⟩ := takeRest_cons lexer (.ok word) _ items
    obtain ⟨offset, rest, layout, stops⟩ := ih after later fun other member =>
      allWords other (List.mem_cons_of_mem _ member)
    have isWord := allWords word (List.mem_cons_self ..)
    exact ⟨offset, rest, (next_passes lexer after _ read).layout_word isWord words offset rest layout, stops⟩

/-- The tokens of a text lay it out from its first byte to its last, and those before an
error up to what the error refuses. -/
theorem tokenize_lossless (source : String) :
    (∀ tokens, tokenize source = .ok tokens → ∃ words position,
      tokens = words ++ [⟨.endOfInput, position⟩] ∧ position.offset = source.utf8ByteSize ∧
        (∀ word ∈ words, word.token ≠ .endOfInput) ∧
        Layout 0 source.toList words position.offset []) ∧
    ∀ fault, tokenize source = .error fault → ∃ rest,
      Layout 0 source.toList (wordsOf source) fault.position.offset rest ∧ fault.Refuses rest := by
  obtain ⟨last, items, allWords, isLast, tokenized⟩ := wordsOf_spec source
  obtain ⟨offset, rest, layout, stops⟩ :=
    Lexer.layout_takeRest (.ofString source) (wordsOf source) last items allWords isLast
  change Layout 0 source.toList (wordsOf source) offset rest at layout
  cases last with
  | ok item =>
    obtain ⟨token, position⟩ := item
    obtain ⟨rfl, rfl, rfl⟩ := stops
    rw [tokenized]
    refine ⟨?_, nofun⟩
    intro tokens same
    obtain ⟨before, split, size⟩ := layout.split
    rw [List.append_nil] at split
    refine ⟨wordsOf source, position, (Except.ok.inj same).symm, ?_, ?_, layout⟩
    · rw [size, ← String.utf8Len_toList, split, Nat.zero_add]
    · intro word member isEnd
      have isWord := allWords word member
      rw [isEnd] at isWord
      contradiction
  | error fault =>
    obtain ⟨rfl, refuses⟩ := stops
    rw [tokenized]
    refine ⟨nofun, ?_⟩
    intro other same
    cases same
    exact ⟨rest, layout, refuses⟩

theorem tokenize_lossless_runs :
    (∃ words position, tokenize "ᚠ<==007b" = .ok (words ++ [⟨.endOfInput, position⟩]) ∧
      position.offset = 10 ∧ Layout 0 "ᚠ<==007b".toList words position.offset []) ∧
    ∃ rest, Layout 0 "a!=\n 9223372036854775808]".toList (wordsOf "a!=\n 9223372036854775808]") 5 rest ∧
      LexError.Refuses rest (.numericOverflow "9223372036854775808" ⟨5, 2, 2⟩) := by
  have read : tokenize "ᚠ<==007b" = .ok [⟨.identifier "ᚠ", ⟨0, 1, 1⟩⟩, ⟨.operator .lessEqual, ⟨3, 1, 2⟩⟩,
      ⟨.assign, ⟨5, 1, 4⟩⟩, ⟨.number 7, ⟨6, 1, 5⟩⟩, ⟨.identifier "b", ⟨9, 1, 8⟩⟩,
      ⟨.endOfInput, ⟨10, 1, 9⟩⟩] := by
    decide +kernel
  have refused : tokenize "a!=\n 9223372036854775808]" =
      .error (.numericOverflow "9223372036854775808" ⟨5, 2, 2⟩) := by
    decide +kernel
  constructor
  · obtain ⟨words, position, same, size, _, layout⟩ := (tokenize_lossless "ᚠ<==007b").1 _ read
    exact ⟨words, position, same ▸ read, size, layout⟩
  · exact (tokenize_lossless "a!=\n 9223372036854775808]").2 _ refused

end ExprLang
