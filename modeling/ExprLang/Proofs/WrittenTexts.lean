import ExprLang.Proofs.Scanning

/-! Texts that are written from tokens. Where blanks stand between those that would run
together, a text is read back as the tokens it was written from, however it is laid out. -/
namespace ExprLang

/-- Whether a word of the first token and a word of the second, with nothing between them,
would be read otherwise. -/
def Token.runsInto : Token → Token → Bool
  | .identifier _, .identifier _ | .identifier _, .number _ | .number _, .number _ => true
  | .assign, next | .operator .greater, next | .operator .less, next =>
    next == .assign || next == .operator .equal
  | _, _ => false

/-- A token as it is written into a text: some blanks, then a word that spells it. -/
structure Written where
  blanks : List Char
  token : Token
  word : List Char
  blank : ∀ c ∈ blanks, c ∈ blankChars
  spelled : token.SpelledBy word

def Written.text (item : Written) : List Char :=
  item.blanks ++ item.word

theorem Token.spelledBy_padded (value : Int64) (writable : 0 ≤ value) (zeros : Nat) :
    (Token.number value).SpelledBy (List.replicate zeros '0' ++ (Token.number value).spelling) := by
  obtain ⟨first, others, spelled, digits⟩ := Token.number_digits value writable
  refine ⟨⟨?_, ?_⟩, ?_⟩
  · simp [spelled]
  · intro c member
    rcases List.mem_append.mp member with zero | digit
    · rw [List.eq_of_mem_replicate zero]
      rfl
    · exact digits c (spelled ▸ digit)
  · have nonneg : 0 ≤ value.toInt := Int64.le_iff_toInt_le.mp writable
    have same : Nat.ofDigitChars 10 (List.replicate zeros '0' ++ (Token.number value).spelling) 0 =
        value.toInt.toNat := by
      rw [Nat.ofDigitChars_append, Nat.ofDigitChars_replicate_zero, Nat.mul_zero,
        Token.number_spelling value writable, Nat.ofDigitChars_ten_toDigits]
    exact (same ▸ Int.toNat_of_nonneg nonneg).symm

/-! What a word of the next token may begin with. -/

private theorem symbol_not_part : ∀ token ∈ symbolTokens, token.spelling.any isNamePart = false := by
  decide

private theorem not_part_of_symbol (kind : TokenKind) (c : Char) (others : List Char)
    (fits : kind.Matches (c :: others)) (sort : kind.wordSort = .symbol) : isNamePart c = false := by
  obtain ⟨token, symbol, spelled⟩ := symbol_of_wordSort kind _ fits sort
  have none := symbol_not_part token symbol
  rw [← spelled, List.any_cons, Bool.or_eq_false_iff] at none
  exact none.1

private theorem not_digit_of_ofLead (c : Char) (sort : WordSort.ofLead c ≠ .numeral) : c.isDigit = false := by
  by_contra digit
  rw [Bool.not_eq_false] at digit
  exact sort (by simp [WordSort.ofLead, isNameStart_of_isDigit c digit, digit])

private theorem not_equals_of_matches (next : Token) (c : Char) (others : List Char)
    (fits : next.kind.Matches (c :: others)) (apart : (next == .assign || next == .operator .equal) = false) :
    (c != '=') = true := by
  rw [bne_iff_ne]
  rintro rfl
  cases next with
  | endOfInput => exact fits
  | identifier name =>
    obtain ⟨first, _, same, isStart, _⟩ := fits
    cases same
    exact absurd isStart (by decide)
  | number value => exact absurd (fits.2 '=' (List.mem_cons_self ..)) (by decide)
  | assign => contradiction
  | operator op => cases op <;> first | contradiction | cases fits
  | _ => cases fits

theorem Token.endsBefore_word (token next : Token) (word : List Char) (spelled : next.SpelledBy word)
    (apart : token.runsInto next = false) : ∀ c ∈ word.head?, token.endsBefore c = true := by
  obtain ⟨c, others, rfl, sort⟩ := sort_of_matches _ _ spelled.1
  rintro _ ⟨⟩
  cases token with
  | identifier name =>
    have symbol : next.kind.wordSort = .symbol := by
      cases next <;> first | contradiction | rfl
    simp [not_part_of_symbol _ c others spelled.1 symbol]
  | number value =>
    have other : next.kind.wordSort ≠ .numeral := by
      cases next <;> first | contradiction | exact nofun
    simp [not_digit_of_ofLead c (sort ▸ other)]
  | assign => exact not_equals_of_matches next c others spelled.1 apart
  | operator op =>
    cases op with
    | greater => exact not_equals_of_matches next c others spelled.1 apart
    | less => exact not_equals_of_matches next c others spelled.1 apart
    | _ => rfl
  | _ => rfl

private theorem Written.endsBefore (next : Written) (token : Token) (behind : List Char)
    (apart : token.runsInto next.token = true → next.blanks ≠ []) :
    ∀ c ∈ (next.text ++ behind).head?, token.endsBefore c = true := by
  intro c head
  rw [text, List.append_assoc] at head
  cases spaced : next.blanks with
  | nil =>
    obtain ⟨d, others, spelled, _⟩ := sort_of_matches _ _ next.spelled.1
    have close : token.runsInto next.token = false := Bool.eq_false_iff.mpr fun runs => apart runs spaced
    apply token.endsBefore_word next.token next.word next.spelled close
    rw [spaced, spelled] at head
    rw [spelled]
    exact head
  | cons d more =>
    rw [spaced] at head
    cases head
    have blank := next.blank c (by simp [spaced])
    exact token.endsBefore_blank c ((isBlank_iff c).mpr blank)

namespace Splits

private theorem blanks (text : List Char) (blank : ∀ c ∈ text, c ∈ blankChars) :
    Splits text [] [] := by
  induction text with
  | nil => exact nothing []
  | cons c text ih =>
    have here := Splits.blank c text ((isBlank_iff c).mpr (blank c (List.mem_cons_self ..)))
    exact here.append _ _ _ _ _ (ih fun d member => blank d (List.mem_cons_of_mem c member))

private theorem item (item : Written) (behind : List Char)
    (ends : ∀ c ∈ behind.head?, item.token.endsBefore c = true) :
    Splits (item.text ++ behind) [item.token] behind := by
  intro source cursor
  have heads := heads_of_endsBefore item.token item.word behind item.spelled ends
  have read := Lexer.next_of_passes _ _ _
    (.word source item.blanks item.word behind cursor item.token item.blank heads)
  refine ⟨[⟨item.token, cursor.after item.blanks⟩], (cursor.after item.blanks).after item.word, rfl, ?_⟩
  rw [Written.text, List.append_assoc, Lexer.takeRest_some _ _ _ read]
  rfl

private theorem items (items : List Written) (last : List Char)
    (blank : ∀ c ∈ last, c ∈ blankChars)
    (apart : items.IsChain fun item next => item.token.runsInto next.token = true → next.blanks ≠ []) :
    Splits (items.flatMap Written.text ++ last) (items.map Written.token) [] := by
  induction items with
  | nil => exact blanks last blank
  | cons first items ih =>
    rw [List.flatMap_cons, List.append_assoc]
    cases items with
    | nil =>
      refine append _ _ _ [first.token] _ (item first _ ?_) (ih .nil)
      intro c head
      have ends := blank c (List.mem_of_mem_head? head)
      exact first.token.endsBefore_blank c ((isBlank_iff c).mpr ends)
    | cons next items =>
      obtain ⟨close, further⟩ := List.isChain_cons_cons.mp apart
      refine append _ _ _ [first.token] _ (item first _ ?_) (ih further)
      rw [List.flatMap_cons, List.append_assoc]
      exact next.endsBefore first.token _ close

end Splits

/-- A text is read back as the tokens it was written from. -/
theorem tokenize_written (items : List Written) (last : List Char)
    (blank : ∀ c ∈ last, c ∈ blankChars)
    (apart : items.IsChain fun item next => item.token.runsInto next.token = true → next.blanks ≠ []) :
    (tokenize (String.ofList (items.flatMap Written.text ++ last))).map tokensOf =
      .ok (items.map Written.token ++ [.endOfInput]) := by
  have splits := Splits.items items last blank apart
  obtain ⟨place, tokenized, spelled⟩ := Splits.tokenize (String.ofList (items.flatMap Written.text ++ last))
    _ (by rwa [String.toList_ofList])
  rw [tokenized, Except.map, tokensOf_snoc, spelled]

theorem tokenize_written_close :
    (tokenize "\t007x=== \r\n== ").map tokensOf =
      .ok [.number 7, .identifier "x", .operator .equal, .assign, .operator .equal, .endOfInput] :=
  tokenize_written
    [⟨['\t'], .number 7, ['0', '0', '7'], by simp [blankChars], ⟨nofun, List.all_eq_true.mp rfl⟩, rfl⟩,
      ⟨[], .identifier "x", ['x'], nofun, ⟨'x', [], rfl, by decide, nofun⟩, rfl⟩,
      ⟨[], .operator .equal, ['=', '='], nofun, rfl, trivial⟩,
      ⟨[], .assign, ['='], nofun, rfl, trivial⟩,
      ⟨[' ', '\r', '\n'], .operator .equal, ['=', '='], by simp [blankChars], rfl, trivial⟩]
    [' '] (by simp [blankChars])
    (.cons_cons nofun (.cons_cons nofun (.cons_cons nofun (.cons_cons (fun _ => nofun) (.singleton _)))))

/-! Texts of a single word, and numbers among them. -/

private theorem Token.Heads.whole {token : Token} {word : List Char} (spelled : token.SpelledBy word) :
    token.Heads word [] :=
  heads_of_endsBefore token word [] spelled nofun

theorem tokenize_word (text : String) (token : Token) (spelled : token.SpelledBy text.toList) :
    tokenize text = .ok [⟨token, .start⟩, ⟨.endOfInput, Position.start.after text.toList⟩] := by
  have word := Lexer.Passes.word text [] text.toList [] .start token nofun (.whole spelled)
  rw [List.nil_append, List.append_nil] at word
  -- behind the word no text is left, from which the end of input is computed
  rw [tokenize, Lexer.ofString, Lexer.takeRest_some _ _ _ (Lexer.next_of_passes _ _ _ word)]
  rfl

private theorem tokenize_refused (text : String) (fault : LexError) (place : fault.position = .start)
    (refuses : fault.Refuses text.toList) : tokenize text = .error fault := by
  have refusal := Lexer.Passes.refusal text [] text.toList .start fault nofun place refuses
  rw [List.nil_append] at refusal
  rw [tokenize, Lexer.ofString, Lexer.takeRest_some _ _ _ (Lexer.next_of_passes _ _ _ refusal)]
  rfl

/-- Digits are read as their value up to the largest number and refused above it, however
many zeros lead them; and a number is read back from how it is printed. -/
theorem tokenize_digits :
    (∀ digits : String, IsNumeral digits.toList →
      Nat.ofDigitChars 10 digits.toList 0 ≤ 9223372036854775807 →
        ∃ value : Int64, value.toInt = Nat.ofDigitChars 10 digits.toList 0 ∧
          tokenize digits =
            .ok [⟨.number value, .start⟩, ⟨.endOfInput, Position.start.after digits.toList⟩]) ∧
    (∀ digits : String, IsNumeral digits.toList →
      9223372036854775807 < Nat.ofDigitChars 10 digits.toList 0 →
        tokenize digits = .error (.numericOverflow digits .start)) ∧
    ∀ value : Int64, 0 ≤ value →
      tokenize (Expr.literal value).render =
        .ok [⟨.number value, .start⟩,
          ⟨.endOfInput, Position.start.after (Expr.literal value).render.toList⟩] := by
  refine ⟨?_, ?_, ?_⟩
  · intro digits isNumeral small
    have same := Int64.toInt_ofNat_of_lt (n := Nat.ofDigitChars 10 digits.toList 0) (by omega)
    exact ⟨_, same, tokenize_word digits _ ⟨isNumeral, same⟩⟩
  · intro digits isNumeral large
    exact tokenize_refused digits _ rfl
      ⟨isNumeral, large, [], (List.append_nil _).symm, nofun⟩
  · intro value nonneg
    exact tokenize_word _ _ (Token.spelledBy_padded value nonneg 0)

theorem tokenize_digits_bound :
    (∃ value : Int64, value.toInt = 9223372036854775807 ∧
      tokenize "0009223372036854775807" = .ok [⟨.number value, .start⟩, ⟨.endOfInput, ⟨22, 1, 23⟩⟩]) ∧
    tokenize "9223372036854775808" = .error (.numericOverflow "9223372036854775808" .start) ∧
    tokenize (Expr.literal 0).render = .ok [⟨.number 0, .start⟩, ⟨.endOfInput, ⟨1, 1, 2⟩⟩] :=
  ⟨tokenize_digits.1 "0009223372036854775807" ⟨nofun, List.all_eq_true.mp rfl⟩ (by decide),
    tokenize_digits.2.1 "9223372036854775808" ⟨nofun, List.all_eq_true.mp rfl⟩ (by decide),
    tokenize_digits.2.2 0 (by decide)⟩

end ExprLang
