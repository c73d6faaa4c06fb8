import ExprLang.Proofs.Splitting

/-! The words of the language and the rules for them. A word stands at the head of a
text if it is the longest one there; it is as soon as it ends before what follows. -/
namespace ExprLang

def IsNumeral (text : List Char) : Prop := text ≠ [] ∧ ∀ c ∈ text, c.isDigit = true

/-- The rules: which texts are words of which kind. -/
def TokenKind.Matches (text : List Char) : TokenKind → Prop
  | .endOfInput => False
  | .identifier => IsName text
  | .number => IsNumeral text
  | .assign => text = ['=']
  | .operator op => text = op.symbol.toList
  | .leftBracket => text = ['[']
  | .rightBracket => text = [']']

/-- Whether the text is a word of the token's kind, and what the token carries is its
name or the value of its digits. -/
def Token.SpelledBy (text : List Char) (token : Token) : Prop :=
  token.kind.Matches text ∧ match token with
    | .identifier name => name.toList = text
    | .number value => value.toInt = Nat.ofDigitChars 10 text 0
    | _ => True

/-- Whether the token stands at the head of a text, spelled by as much of it as any rule
matches. -/
structure Token.Heads (token : Token) (spelling behind : List Char) : Prop where
  spelled : token.SpelledBy spelling
  ends : ∀ c ∈ behind.head?, token.endsBefore c = true
  longest : ∀ (kind : TokenKind) (longer : List Char), longer <+: spelling ++ behind →
    kind.Matches longer → longer.length ≤ spelling.length

/-- What stands at the head of a text that begins with no token: a character with which
no word begins, or the digits of a number above 2^63 - 1. -/
def LexError.Refuses (text : List Char) : LexError → Prop
  | .unexpectedCharacter c _ =>
    text.head? = some c ∧ c ∉ blankChars ∧
      ∀ (kind : TokenKind) (word : List Char), word <+: text → ¬ kind.Matches word
  | .numericOverflow literal _ =>
    IsNumeral literal.toList ∧ 9223372036854775807 < Nat.ofDigitChars 10 literal.toList 0 ∧
      ∃ behind, text = literal.toList ++ behind ∧ ∀ c ∈ behind.head?, c.isDigit = false

@[simp] theorem Token.endsBefore_identifier (name : String) (c : Char) :
    (Token.identifier name).endsBefore c = !isNamePart c := rfl

@[simp] theorem Token.endsBefore_number (value : Int64) (c : Char) :
    (Token.number value).endsBefore c = !c.isDigit := rfl

/-! The symbols, which are the words that are neither names nor numbers. -/

def symbolTokens : List Token :=
  [.assign, .leftBracket, .rightBracket] ++ BinaryOperator.all.map .operator

theorem operator_mem_symbolTokens (op : BinaryOperator) : .operator op ∈ symbolTokens := by
  cases op <;> decide

theorem matches_symbol_iff (token : Token) (symbol : token ∈ symbolTokens) (text : List Char) :
    token.kind.Matches text ↔ text = token.spelling := by
  cases token with
  | identifier name => simp [symbolTokens] at symbol
  | number value => simp [symbolTokens] at symbol
  | endOfInput => exact absurd symbol (by decide)
  | _ => rfl

theorem spelling_of_longer_symbol : ∀ token ∈ symbolTokens, ∀ other ∈ symbolTokens,
    token.spelling <+: other.spelling → token.spelling ≠ other.spelling →
      other.spelling = token.spelling ++ ['='] ∧ token.endsBefore '=' = false := by
  decide

inductive WordSort where
  | name
  | numeral
  | symbol
  deriving DecidableEq

def WordSort.ofLead (c : Char) : WordSort :=
  if isNameStart c then .name else if c.isDigit then .numeral else .symbol

def TokenKind.wordSort : TokenKind → WordSort
  | .identifier => .name
  | .number => .numeral
  | _ => .symbol

theorem sort_of_matches (kind : TokenKind) (text : List Char) (fits : kind.Matches text) :
    ∃ c others, text = c :: others ∧ WordSort.ofLead c = kind.wordSort := by
  cases kind with
  | endOfInput => exact fits.elim
  | identifier =>
    obtain ⟨first, others, rfl, isStart, _⟩ := fits
    exact ⟨first, others, rfl, by simp [WordSort.ofLead, isStart, TokenKind.wordSort]⟩
  | number =>
    obtain ⟨nonempty, digits⟩ := fits
    obtain ⟨first, others, rfl⟩ := List.exists_cons_of_ne_nil nonempty
    have digit := digits first (List.mem_cons_self ..)
    refine ⟨first, others, rfl, ?_⟩
    simp [WordSort.ofLead, isNameStart_of_isDigit first digit, digit, TokenKind.wordSort]
  | operator op =>
    obtain rfl : text = op.symbol.toList := fits
    cases op <;> exact ⟨_, _, rfl, by decide⟩
  | _ =>
    cases fits
    exact ⟨_, _, rfl, by decide⟩

theorem symbol_of_wordSort (kind : TokenKind) (text : List Char) (fits : kind.Matches text)
    (sort : kind.wordSort = .symbol) : ∃ token ∈ symbolTokens, text = token.spelling := by
  have spelled (token : Token) (symbol : token ∈ symbolTokens) (same : token.kind = kind) :
      ∃ token ∈ symbolTokens, text = token.spelling :=
    ⟨token, symbol, (matches_symbol_iff token symbol text).mp (same ▸ fits)⟩
  cases kind with
  | endOfInput => exact fits.elim
  | identifier => contradiction
  | number => contradiction
  | assign => exact spelled .assign (by decide) rfl
  | operator op => exact spelled (.operator op) (operator_mem_symbolTokens op) rfl
  | leftBracket => exact spelled .leftBracket (by decide) rfl
  | rightBracket => exact spelled .rightBracket (by decide) rfl

private theorem exists_of_longer (spelling behind longer : List Char) (stands : longer <+: spelling ++ behind)
    (exceeds : spelling.length < longer.length) :
    ∃ c more, longer = spelling ++ c :: more ∧ behind.head? = some c := by
  obtain ⟨rest, same⟩ := stands
  obtain ⟨more, rfl, rfl⟩ | ⟨more, rfl, _⟩ := List.append_eq_append_iff.mp same.symm
  · cases more with
    | nil => simp at exceeds
    | cons c more => exact ⟨c, more, rfl, rfl⟩
  · rw [List.length_append] at exceeds
    omega

private theorem endsBefore_of_symbol (token : Token) (symbol : token ∈ symbolTokens) (c : Char)
    (more : List Char) (other : TokenKind) (fits : other.Matches (token.spelling ++ c :: more))
    (sort : other.wordSort = .symbol) : token.endsBefore c = false := by
  obtain ⟨longer, isSymbol, spelled⟩ := symbol_of_wordSort other _ fits sort
  obtain ⟨extends_, stops⟩ := spelling_of_longer_symbol token symbol longer isSymbol
    ⟨c :: more, spelled⟩ (by simp [← spelled])
  rw [extends_] at spelled
  simp only [List.append_cancel_left_eq, List.cons.injEq] at spelled
  rw [spelled.1]
  exact stops

/-- A word that ends before what follows it is the longest at its place. -/
theorem heads_of_endsBefore (token : Token) (spelling behind : List Char)
    (spelled : token.SpelledBy spelling) (ends : ∀ c ∈ behind.head?, token.endsBefore c = true) :
    token.Heads spelling behind := by
  refine ⟨spelled, ends, ?_⟩
  intro kind longer stands fits
  by_contra exceeds
  obtain ⟨c, more, rfl, next⟩ := exists_of_longer spelling behind longer stands (Nat.lt_of_not_le exceeds)
  have stops := ends c next
  obtain ⟨kindFits, _⟩ := spelled
  -- both words begin with one character, so they are of one sort
  have sorts : kind.wordSort = token.kind.wordSort := by
    obtain ⟨first, others, rfl, sort⟩ := sort_of_matches _ _ kindFits
    obtain ⟨_, _, same, sortLonger⟩ := sort_of_matches _ _ fits
    cases same
    exact sortLonger.symm.trans sort
  have notSymbol (symbol : token ∈ symbolTokens) (sort : token.kind.wordSort = .symbol) : False := by
    obtain rfl := (matches_symbol_iff token symbol spelling).mp kindFits
    rw [endsBefore_of_symbol token symbol c more kind fits (sorts.trans sort)] at stops
    contradiction
  cases token with
  | endOfInput => exact kindFits
  | identifier name =>
    have isName : IsName (spelling ++ c :: more) := by
      cases kind <;> first | contradiction | exact fits
    obtain ⟨first, others, rfl, _, _⟩ := kindFits
    obtain ⟨_, _, same, _, parts⟩ := isName
    cases same
    have part := parts c (by simp)
    simp [part] at stops
  | number value =>
    have isNumeral : IsNumeral (spelling ++ c :: more) := by
      cases kind <;> first | contradiction | exact fits
    have digit := isNumeral.2 c (by simp)
    simp [digit] at stops
  | operator op => exact notSymbol (operator_mem_symbolTokens op) rfl
  | _ => exact notSymbol (by decide) rfl

/-! Blanks, which are in no word and end every word. -/

theorem Token.endsBefore_blank (token : Token) (c : Char) (blank : isBlank c = true) :
    token.endsBefore c = true := by
  have listed := (isBlank_iff c).mp blank
  simp only [blankChars, List.mem_cons, List.not_mem_nil, or_false] at listed
  rcases listed with rfl | rfl | rfl | rfl | rfl <;> cases token with
  | operator op => cases op <;> decide
  | _ => rfl

private theorem symbol_not_blank : ∀ token ∈ symbolTokens, token.spelling.any isBlank = false := by
  decide

theorem not_blank_of_matches (kind : TokenKind) (word : List Char) (fits : kind.Matches word) :
    ∀ c ∈ word, isBlank c = false := by
  have ofSymbol (sort : kind.wordSort = .symbol) : ∀ c ∈ word, isBlank c = false := by
    obtain ⟨token, symbol, rfl⟩ := symbol_of_wordSort kind word fits sort
    intro c member
    exact Bool.eq_false_iff.mpr (List.any_eq_false.mp (symbol_not_blank token symbol) c member)
  cases kind with
  | endOfInput => exact fits.elim
  | identifier =>
    intro c member
    by_contra blank
    have stops := (Token.identifier "").endsBefore_blank c (Bool.not_eq_false _ ▸ blank)
    obtain ⟨first, others, rfl, isStart, parts⟩ := fits
    have part : isNamePart c = true := by
      obtain rfl | inside := List.mem_cons.mp member
      · exact isNamePart_of_isNameStart c isStart
      · exact parts c inside
    simp [part] at stops
  | number =>
    intro c member
    by_contra blank
    have stops := (Token.number 0).endsBefore_blank c (Bool.not_eq_false _ ▸ blank)
    simp [fits.2 c member] at stops
  | _ => exact ofSymbol rfl

theorem Token.Heads.append {token : Token} {spelling behind : List Char}
    (heads : token.Heads spelling behind) (tail : List Char) (separated : ∀ c ∈ tail.head?, isBlank c = true) :
    token.Heads spelling (behind ++ tail) := by
  apply heads_of_endsBefore _ _ _ heads.spelled
  intro c next
  cases behind with
  | nil => exact token.endsBefore_blank c (separated c next)
  | cons d behind => exact heads.ends c next

theorem LexError.Refuses.append {text : List Char} {fault : LexError} (refuses : fault.Refuses text)
    (tail : List Char) (separated : ∀ c ∈ tail.head?, isBlank c = true) : fault.Refuses (text ++ tail) := by
  cases fault with
  | unexpectedCharacter c position =>
    obtain ⟨first, notBlank, noWord⟩ := refuses
    obtain ⟨behind, rfl⟩ := List.head?_eq_some_iff.mp first
    refine ⟨rfl, notBlank, ?_⟩
    intro kind word stands fits
    rcases List.prefix_or_prefix_of_prefix stands (List.prefix_append _ tail) with inside | ⟨more, rfl⟩
    · exact noWord kind word inside fits
    · cases more with
      | nil => exact noWord kind _ (by simp) fits
      | cons d more =>
        obtain ⟨rest, rfl⟩ := (List.prefix_append_right_inj _).mp stands
        have inside := not_blank_of_matches kind _ fits d (by simp)
        rw [separated d rfl] at inside
        contradiction
  | numericOverflow literal position =>
    obtain ⟨isNumeral, large, behind, rfl, ends⟩ := refuses
    refine ⟨isNumeral, large, behind ++ tail, List.append_assoc _ _ _, ?_⟩
    intro c next
    cases behind with
    | cons d behind => exact ends c next
    | nil =>
      have stops := (Token.number 0).endsBefore_blank c (separated c next)
      exact (Bool.not_eq_true' _).mp stops

end ExprLang
