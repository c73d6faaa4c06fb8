import ExprLang.Expr.Expressible
import ExprLang.Proofs.Spelling

/-! How texts split into tokens. A text put together from written tokens, with blanks
where two of them would run together, splits into these tokens; and the tokens of any
text can be written. -/
namespace ExprLang

/-- The characters that may stand between words. -/
def blankChars : List Char := [' ', '\t', '\x0c', '\r', '\n']

theorem isBlank_iff (c : Char) : isBlank c = true ↔ c ∈ blankChars := by
  simp [isBlank, blankChars, or_assoc]

private theorem not_isBlank_of_isNameStart (c : Char) (isStart : isNameStart c = true) : isBlank c = false := by
  rw [Bool.eq_false_iff, ne_eq, isBlank_iff]
  exact not_mem_of_none isNameStart blankChars c (by decide) isStart

theorem not_isBlank_of_isDigit (c : Char) (digit : c.isDigit = true) : isBlank c = false := by
  rw [Bool.eq_false_iff, ne_eq, isBlank_iff]
  exact not_mem_of_none Char.isDigit blankChars c (by decide) digit

private theorem Token.not_blank (token : Token) (writable : token.Writable) :
    ∃ first others, token.spelling = first :: others ∧ isBlank first = false := by
  cases token with
  | endOfInput => exact writable.elim
  | identifier name =>
    obtain ⟨first, others, spelled, isStart, _⟩ := writable
    exact ⟨first, others, spelled, not_isBlank_of_isNameStart first isStart⟩
  | number value =>
    obtain ⟨first, others, spelled, digits⟩ := Token.number_digits value writable
    exact ⟨first, others, spelled, not_isBlank_of_isDigit first (digits first (List.mem_cons_self ..))⟩
  | assign => exact ⟨_, _, rfl, by decide⟩
  | leftBracket => exact ⟨_, _, rfl, by decide⟩
  | rightBracket => exact ⟨_, _, rfl, by decide⟩
  | operator op => cases op <;> exact ⟨_, _, rfl, by decide⟩

namespace Lexer

private theorem next_blank (source : String) (c : Char) (text : List Char) (cursor : Position)
    (blank : isBlank c = true) :
    next ⟨source, c :: text, cursor, false⟩ = next ⟨source, text, cursor.advance c, false⟩ := by
  simp only [next, List.takeWhile_cons_of_pos blank, List.dropWhile_cons_of_pos blank,
    Position.after, List.foldl_cons, Bool.false_eq_true, if_false]

private theorem next_written (source : String) (token : Token) (rest : List Char) (cursor : Position)
    (writable : token.Writable) (ends : ∀ c ∈ rest.head?, token.endsBefore c = true) :
    next ⟨source, token.spelling ++ rest, cursor, false⟩ =
      (some (.ok ⟨token, cursor⟩), ⟨source, rest, cursor.after token.spelling, false⟩) := by
  obtain ⟨first, others, spelled, notBlank⟩ := token.not_blank writable
  have noBlanks : (token.spelling ++ rest).takeWhile isBlank = [] := by
    rw [spelled, List.cons_append, List.takeWhile_cons_of_neg (by simp [notBlank])]
  have allText : (token.spelling ++ rest).dropWhile isBlank = token.spelling ++ rest := by
    rw [spelled, List.cons_append, List.dropWhile_cons_of_neg (by simp [notBlank])]
  have isWord : token.isEnd = false := by
    cases token with
    | endOfInput => exact writable.elim
    | _ => rfl
  simp only [next, noBlanks, allText, Lexeme.scan_written _ token rest writable ends, isWord]
  rfl

theorem next_name (name : String) (isName : IsName name.toList) :
    (ofString name).next =
      (some (.ok ⟨.identifier name, .start⟩), ⟨name, [], Position.start.after name.toList, false⟩) := by
  have read := next_written name (.identifier name) [] .start isName nofun
  rwa [Token.spelling, List.append_nil] at read

private theorem next_writable (lexer after : Lexer) (word : Spanned)
    (read : lexer.next = (some (.ok word), after)) (isWord : word.token.isEnd = false) :
    word.token.Writable := by
  unfold next at read
  split at read
  · cases read
  · dsimp only at read
    split at read
    · rename_i lexeme scanned
      cases read
      exact Lexeme.writable_of_scan _ _ lexeme scanned isWord
    · cases read

theorem isName_of_next (lexer : Lexer) (name : String) (place : Position)
    (named : lexer.next.1 = some (.ok ⟨.identifier name, place⟩)) : IsName name.toList :=
  next_writable lexer lexer.next.2 ⟨.identifier name, place⟩ (Prod.ext named rfl) rfl

theorem take_writable (count : Nat) (lexer : Lexer) :
    ∀ word, .ok word ∈ (lexer.take count).1 → word.token.isEnd = false → word.token.Writable := by
  induction count generalizing lexer with
  | zero => nofun
  | succ count ih =>
    intro word member isWord
    cases read : lexer.next with
    | mk found after =>
      cases found with
      | none =>
        rw [take_none lexer after read] at member
        contradiction
      | some item =>
        rw [take_some lexer after item read] at member
        rcases List.mem_cons.mp member with rfl | member
        · exact next_writable lexer after word read isWord
        · exact ih after word member isWord

end Lexer

theorem wordsOf_writable (source : String) : ∀ word ∈ wordsOf source, word.token.Writable := by
  intro word member
  obtain ⟨item, inside, isWord⟩ := List.mem_filterMap.mp member
  obtain ⟨last, _, allWords, _⟩ := wordsOf_spec source
  cases item with
  | error fault => contradiction
  | ok other =>
    obtain ⟨_, same⟩ := Option.ite_none_left_eq_some.mp isWord
    cases same
    exact Lexer.take_writable _ _ word inside (allWords word member)

/-- A text reads as one identifier just where it is a name. -/
theorem isIdentifier_iff (text : String) : isIdentifier text = true ↔ IsName text.toList := by
  constructor
  · intro identifier
    unfold isIdentifier at identifier
    dsimp only at identifier
    split at identifier
    · rename_i name place _ read _
      have same : name = text := beq_iff_eq.mp identifier
      rw [← same]
      exact Lexer.isName_of_next _ name place read
    · contradiction
  · intro isName
    rw [isIdentifier, Lexer.next_name text isName]
    simp [Lexer.next, Lexeme.scan, Lexeme.symbol?]

def Splits (text : List Char) (tokens : List Token) (rest : List Char) : Prop :=
  ∀ (source : String) (cursor : Position), ∃ (words : List Spanned) (place : Position),
    tokensOf words = tokens ∧
      (Lexer.mk source text cursor false).takeRest.1 =
        words.map Except.ok ++ (Lexer.mk source rest place false).takeRest.1

namespace Splits

theorem nothing (text : List Char) : Splits text [] text := by
  intro source cursor
  exact ⟨[], cursor, rfl, rfl⟩

theorem append (text middle rest : List Char) (first second : List Token)
    (before : Splits text first middle) (behind : Splits middle second rest) :
    Splits text (first ++ second) rest := by
  intro source cursor
  obtain ⟨words, place, spelled, taken⟩ := before source cursor
  obtain ⟨others, last, spelledBehind, takenBehind⟩ := behind source place
  refine ⟨words ++ others, last, ?_, ?_⟩
  · rw [tokensOf, List.map_append, ← spelled, ← spelledBehind]
  · rw [taken, takenBehind, List.map_append, List.append_assoc]

theorem blank (c : Char) (text : List Char) (isBlank : isBlank c = true) : Splits (c :: text) [] text := by
  intro source cursor
  refine ⟨[], cursor.advance c, rfl, ?_⟩
  exact Lexer.takeRest_eq_of_next _ _ (Lexer.next_blank source c text cursor isBlank)

theorem written (token : Token) (rest : List Char) (writable : token.Writable)
    (ends : ∀ c ∈ rest.head?, token.endsBefore c = true) :
    Splits (token.spelling ++ rest) [token] rest := by
  intro source cursor
  refine ⟨[⟨token, cursor⟩], cursor.after token.spelling, rfl, ?_⟩
  rw [Lexer.takeRest_some _ _ _ (Lexer.next_written source token rest cursor writable ends)]
  rfl

theorem tokenize (source : String) (tokens : List Token) (splits : Splits source.toList tokens []) :
    ∃ position, ExprLang.tokenize source = .ok (wordsOf source ++ [⟨.endOfInput, position⟩]) ∧
      tokensOf (wordsOf source) = tokens := by
  obtain ⟨words, place, spelled, taken⟩ := splits source .start
  have tokenized : ExprLang.tokenize source = .ok (words ++ [⟨.endOfInput, place⟩]) := by
    rw [ExprLang.tokenize, Lexer.ofString, taken]
    exact mapM_append words (.ok ⟨.endOfInput, place⟩)
  have same := words_of_tokenize source words place tokenized
  rw [← same] at tokenized spelled
  exact ⟨place, tokenized, spelled⟩

end Splits

end ExprLang
