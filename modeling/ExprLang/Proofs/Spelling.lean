import ExprLang.Proofs.Supply

/-! How tokens are written, and that a written token is read back. Where the character
behind it could not belong to it, the longest token at that place is the one written,
and every token that is read was written this way. -/
namespace ExprLang

/-- The characters that make a name. -/
def IsName (text : List Char) : Prop :=
  ∃ first others, text = first :: others ∧ isNameStart first = true ∧
    ∀ c ∈ others, isNamePart c = true

namespace Token

/-- The characters that write a token, without leading zeros. -/
def spelling : Token → List Char
  | .endOfInput => []
  | .identifier name => name.toList
  | .number value => (toString value.toInt).toList
  | .assign => ['=']
  | .operator op => op.symbol.toList
  | .leftBracket => ['[']
  | .rightBracket => [']']

/-- Whether the language has a word for the token. -/
def Writable : Token → Prop
  | .endOfInput => False
  | .identifier name => IsName name.toList
  | .number value => 0 ≤ value
  | _ => True

/-- Whether the token ends where the character follows. -/
def endsBefore (c : Char) : Token → Bool
  | .identifier _ => !isNamePart c
  | .number _ => !c.isDigit
  | .assign | .operator .greater | .operator .less => c != '='
  | _ => true

end Token

private theorem isLetter_of_lt (c : Char) (low : c.toNat < 0x41) : Text.isLetter c = false := by
  rw [Text.isLetter, Text.letters, Text.CodeRanges.covers, if_pos low]

theorem isNameStart_of_isDigit (c : Char) (digit : c.isDigit = true) : isNameStart c = false := by
  have other : c ≠ '_' := by
    intro same
    rw [same] at digit
    contradiction
  have low : c.toNat ≤ 0x39 := (Char.isDigit_iff_toNat.mp digit).2
  rw [isNameStart, isLetter_of_lt c (by omega)]
  simp [other]

theorem isNamePart_of_isNameStart (c : Char) (first : isNameStart c = true) : isNamePart c = true := by
  rw [isNamePart, first, Bool.true_or]

def symbolStarts : List Char := ['=', '!', '>', '<', '+', '-', '*', '[', ']']

theorem Lexeme.symbol_none (c : Char) (text : List Char) (plain : c ∉ symbolStarts) :
    Lexeme.symbol? (c :: text) = none := by
  unfold Lexeme.symbol?
  split <;> first
    | rfl
    | (rename_i same; cases same; exact absurd (by decide) plain)

theorem not_mem_of_none (part : Char → Bool) (chars : List Char) (c : Char)
    (none : chars.any part = false) (isPart : part c = true) : c ∉ chars :=
  fun member => List.any_eq_false.mp none c member isPart

private theorem not_symbol_of_isNameStart (c : Char) (first : isNameStart c = true) : c ∉ symbolStarts :=
  not_mem_of_none isNameStart symbolStarts c (by decide) first

theorem not_symbol_of_isDigit (c : Char) (digit : c.isDigit = true) : c ∉ symbolStarts :=
  not_mem_of_none Char.isDigit symbolStarts c (by decide) digit

theorem takeWhile_run (part : Char → Bool) (run rest : List Char) (inside : ∀ c ∈ run, part c = true)
    (ends : ∀ c ∈ rest.head?, part c = false) : (run ++ rest).takeWhile part = run := by
  rw [List.takeWhile_append_of_pos inside]
  cases rest with
  | nil => rw [List.takeWhile_nil, List.append_nil]
  | cons c rest => rw [List.takeWhile_cons_of_neg (by simp [ends c rfl]), List.append_nil]

theorem dropWhile_run (part : Char → Bool) (run rest : List Char) (inside : ∀ c ∈ run, part c = true)
    (ends : ∀ c ∈ rest.head?, part c = false) : (run ++ rest).dropWhile part = rest := by
  rw [List.dropWhile_append_of_pos inside]
  cases rest with
  | nil => rfl
  | cons c rest => rw [List.dropWhile_cons_of_neg (by simp [ends c rfl])]

theorem decimal_eq (bound : Nat) (digits : List Char) :
    decimal? bound digits =
      if Nat.ofDigitChars 10 digits 0 ≤ bound then some (Nat.ofDigitChars 10 digits 0) else none := by
  have onto (value : Nat) (small : value ≤ bound) : digits.foldlM (fun value digit =>
      let longer := 10 * value + (digit.toNat - '0'.toNat)
      if longer ≤ bound then some longer else none) value =
      if Nat.ofDigitChars 10 digits value ≤ bound then some (Nat.ofDigitChars 10 digits value) else none := by
    induction digits generalizing value with
    | nil => simp [Nat.ofDigitChars_nil, small]
    | cons digit digits ih =>
      rw [List.foldlM_cons, Nat.ofDigitChars_cons]
      generalize 10 * value + (digit.toNat - '0'.toNat) = longer
      by_cases fits : longer ≤ bound
      · simp only [if_pos fits]
        exact ih longer fits
      · -- further digits only make the value larger
        have grows : longer ≤ Nat.ofDigitChars 10 digits longer := by
          rw [Nat.ofDigitChars_eq_ofDigitChars_zero]
          have := Nat.le_mul_of_pos_left longer (Nat.pow_pos (n := digits.length) (by decide : 0 < 10))
          omega
        rw [if_neg fits, if_neg (by omega)]
        rfl
  exact onto 0 (Nat.zero_le bound)

theorem value_of_decimal (bound : Nat) (digits : List Char) (value : Nat)
    (fits : decimal? bound digits = some value) :
    value = Nat.ofDigitChars 10 digits 0 ∧ value ≤ bound := by
  rw [decimal_eq] at fits
  obtain ⟨small, same⟩ := Option.ite_none_right_eq_some.mp fits
  cases same
  exact ⟨rfl, small⟩

theorem Token.number_spelling (value : Int64) (writable : 0 ≤ value) :
    (Token.number value).spelling = Nat.toDigits 10 value.toInt.toNat := by
  have nonneg : 0 ≤ value.toInt := Int64.le_iff_toInt_le.mp writable
  rw [Token.spelling, Int.toString_eq_repr, Int.repr_eq_if, if_pos nonneg, Nat.toList_repr]

theorem Token.number_digits (value : Int64) (writable : 0 ≤ value) :
    ∃ first others, (Token.number value).spelling = first :: others ∧
      ∀ c ∈ first :: others, c.isDigit = true := by
  have spelled := Token.number_spelling value writable
  cases digits : Nat.toDigits 10 value.toInt.toNat with
  | nil => exact absurd digits Nat.toDigits_ne_nil
  | cons first others =>
    refine ⟨first, others, spelled.trans digits, ?_⟩
    intro c member
    rw [← digits] at member
    exact Nat.isDigit_of_mem_toDigits (by decide) (by decide) member

namespace Lexeme

theorem scan_name (start : Position) (name : String) (rest : List Char) (isName : IsName name.toList)
    (ends : ∀ c ∈ rest.head?, isNamePart c = false) :
    scan start (name.toList ++ rest) = .ok ⟨.identifier name, name.toList, rest⟩ := by
  obtain ⟨first, others, spelled, isStart, parts⟩ := isName
  have inside : ∀ c ∈ name.toList, isNamePart c = true := by
    intro c member
    rw [spelled] at member
    obtain rfl | member := List.mem_cons.mp member
    · exact isNamePart_of_isNameStart c isStart
    · exact parts c member
  have run : Lexeme.name (name.toList ++ rest) = ⟨.identifier name, name.toList, rest⟩ := by
    rw [Lexeme.name, takeWhile_run _ _ _ inside ends, dropWhile_run _ _ _ inside ends,
      String.ofList_toList]
  rw [spelled, List.cons_append] at run ⊢
  simp only [scan, symbol_none first _ (not_symbol_of_isNameStart first isStart), if_pos isStart, run]

private theorem scan_number (start : Position) (value : Int64) (rest : List Char) (writable : 0 ≤ value)
    (ends : ∀ c ∈ rest.head?, c.isDigit = false) :
    scan start ((Token.number value).spelling ++ rest) =
      .ok ⟨.number value, (Token.number value).spelling, rest⟩ := by
  obtain ⟨first, others, spelled, digits⟩ := Token.number_digits value writable
  have small : value.toInt.toNat ≤ Int64.maxValue.toInt.toNat := Int.toNat_le_toNat value.toInt_le
  have same : Int64.ofNat value.toInt.toNat = value := Int64.ofNat_toNatClampNeg value writable
  have run : Lexeme.number start ((Token.number value).spelling ++ rest) =
      .ok ⟨.number value, (Token.number value).spelling, rest⟩ := by
    simp only [Lexeme.number, takeWhile_run _ _ rest (spelled ▸ digits) ends,
      dropWhile_run _ _ rest (spelled ▸ digits) ends]
    rw [Token.number_spelling value writable, decimal_eq, Nat.ofDigitChars_ten_toDigits, if_pos small]
    simp only [same]
  have digit : first.isDigit = true := digits first (List.mem_cons_self ..)
  rw [spelled, List.cons_append] at run ⊢
  simp only [scan, symbol_none first _ (not_symbol_of_isDigit first digit),
    isNameStart_of_isDigit first digit, Bool.false_eq_true, if_false, if_pos digit, run]

private theorem scan_symbol (start : Position) (text : List Char) (lexeme : Lexeme)
    (found : symbol? text = some lexeme) : scan start text = .ok lexeme := by
  simp only [scan, found]

theorem symbol_alone (rest : List Char) (ends : ∀ c ∈ rest.head?, (c != '=') = true) :
    symbol? ('=' :: rest) = some ⟨.assign, ['='], rest⟩ ∧
    symbol? ('>' :: rest) = some ⟨.operator .greater, ['>'], rest⟩ ∧
    symbol? ('<' :: rest) = some ⟨.operator .less, ['<'], rest⟩ := by
  cases rest with
  | nil => exact ⟨rfl, rfl, rfl⟩
  | cons c rest =>
    have other : c ≠ '=' := bne_iff_ne.mp (ends c rfl)
    simp [symbol?, other]

theorem scan_written (start : Position) (token : Token) (rest : List Char) (writable : token.Writable)
    (ends : ∀ c ∈ rest.head?, token.endsBefore c = true) :
    scan start (token.spelling ++ rest) = .ok ⟨token, token.spelling, rest⟩ := by
  cases token with
  | endOfInput => exact writable.elim
  | identifier name =>
    exact scan_name start name rest writable fun c next => (Bool.not_eq_true' _).mp (ends c next)
  | number value =>
    exact scan_number start value rest writable fun c next => (Bool.not_eq_true' _).mp (ends c next)
  | leftBracket => rfl
  | rightBracket => rfl
  | assign => exact scan_symbol start _ _ (symbol_alone rest ends).1
  | operator op =>
    cases op with
    | greater => exact scan_symbol start _ _ (symbol_alone rest ends).2.1
    | less => exact scan_symbol start _ _ (symbol_alone rest ends).2.2
    | _ => rfl

private theorem writable_of_symbol (text : List Char) (lexeme : Lexeme) (found : symbol? text = some lexeme) :
    lexeme.token.Writable := by
  unfold symbol? at found
  split at found <;> first
    | contradiction
    | (cases found; exact trivial)

theorem writable_of_name (first : Char) (others : List Char) (isStart : isNameStart first = true) :
    (name (first :: others)).token.Writable := by
  refine ⟨first, others.takeWhile isNamePart, ?_, isStart, List.all_eq_true.mp List.all_takeWhile⟩
  rw [String.toList_ofList, List.takeWhile_cons_of_pos (isNamePart_of_isNameStart first isStart)]

private theorem writable_of_decimal (digits : List Char) (value : Nat)
    (fits : decimal? Int64.maxValue.toInt.toNat digits = some value) :
    (Token.number (Int64.ofNat value)).Writable := by
  have small := (value_of_decimal _ digits value fits).2
  have bound : Int64.maxValue.toInt.toNat < 2 ^ 63 := by decide
  exact Int64.zero_le_ofNat_of_lt (Nat.lt_of_le_of_lt small bound)

theorem writable_of_scan (start : Position) (text : List Char) (lexeme : Lexeme)
    (scanned : scan start text = .ok lexeme) (word : lexeme.token.isEnd = false) :
    lexeme.token.Writable := by
  cases scan_taken start text lexeme scanned with
  | symbol _ _ found => exact writable_of_symbol _ lexeme found
  | finish => contradiction
  | name c behind isStart => exact writable_of_name c behind isStart
  | number c behind value _ fits => exact writable_of_decimal _ value fits

end Lexeme

end ExprLang
