import ExprLang.Proofs.Words

/-! What a lexer takes and what it refuses: it takes the longest word at its place, and
refuses what begins with no word or with too large a number. -/
namespace ExprLang

namespace Lexeme

private theorem ends_run (part : Char → Bool) (text : List Char) :
    ∀ c ∈ (text.dropWhile part).head?, part c = false := by
  intro c next
  have stops := List.head?_dropWhile_not part text
  rw [next] at stops
  exact stops

private theorem heads_of_name (first : Char) (others : List Char) (isStart : isNameStart first = true) :
    (name (first :: others)).token.Heads (name (first :: others)).spelling (name (first :: others)).rest := by
  have isName : IsName ((first :: others).takeWhile isNamePart) := by
    have writable := writable_of_name first others isStart
    rwa [name, Token.Writable, String.toList_ofList] at writable
  apply heads_of_endsBefore
  · exact ⟨isName, String.toList_ofList⟩
  · intro c next
    simp [name, ends_run isNamePart _ c next]

private theorem largest_number : Int64.maxValue.toInt.toNat = 9223372036854775807 := by decide

theorem scan_numeral (start : Position) (digits rest : List Char) (isNumeral : IsNumeral digits)
    (ends : ∀ c ∈ rest.head?, c.isDigit = false) :
    scan start (digits ++ rest) =
      if Nat.ofDigitChars 10 digits 0 ≤ 9223372036854775807 then
        .ok ⟨.number (Int64.ofNat (Nat.ofDigitChars 10 digits 0)), digits, rest⟩
      else .error (.numericOverflow (String.ofList digits) start) := by
  obtain ⟨nonempty, allDigits⟩ := isNumeral
  obtain ⟨first, others, rfl⟩ := List.exists_cons_of_ne_nil nonempty
  have digit := allDigits first (List.mem_cons_self ..)
  have read : scan start (first :: others ++ rest) = number start (first :: others ++ rest) := by
    simp only [List.cons_append, scan, symbol_none first _ (not_symbol_of_isDigit first digit),
      isNameStart_of_isDigit first digit, Bool.false_eq_true, if_false, if_pos digit]
  simp only [read, number, takeWhile_run _ _ rest allDigits ends, dropWhile_run _ _ rest allDigits ends,
    decimal_eq, largest_number]
  by_cases small : Nat.ofDigitChars 10 (first :: others) 0 ≤ 9223372036854775807
  · simp only [if_pos small]
  · simp only [if_neg small]

private theorem isNumeral_run (c : Char) (text : List Char) (digit : c.isDigit = true) :
    IsNumeral ((c :: text).takeWhile Char.isDigit) :=
  ⟨takeWhile_ne_nil Char.isDigit c text digit, List.all_eq_true.mp List.all_takeWhile⟩

private theorem split_digits (c : Char) (text : List Char) (digit : c.isDigit = true) :
    ∃ digits rest, c :: text = digits ++ rest ∧ IsNumeral digits ∧ ∀ d ∈ rest.head?, d.isDigit = false :=
  ⟨_, _, List.takeWhile_append_dropWhile.symm, isNumeral_run c text digit, ends_run Char.isDigit (c :: text)⟩

private theorem heads_of_number (c : Char) (text : List Char) (value : Nat) (digit : c.isDigit = true)
    (fits : decimal? Int64.maxValue.toInt.toNat ((c :: text).takeWhile Char.isDigit) = some value) :
    (Token.number (Int64.ofNat value)).Heads ((c :: text).takeWhile Char.isDigit)
      ((c :: text).dropWhile Char.isDigit) := by
  obtain ⟨rfl, small⟩ := value_of_decimal _ _ value fits
  rw [largest_number] at small
  apply heads_of_endsBefore
  · exact ⟨isNumeral_run c text digit, Int64.toInt_ofNat_of_lt (by omega)⟩
  · intro d next
    simp [ends_run Char.isDigit _ d next]

private theorem refuses_of_number (start : Position) (c : Char) (text : List Char) (fault : LexError)
    (digit : c.isDigit = true) (scanned : scan start (c :: text) = .error fault) :
    fault.position = start ∧ fault.Refuses (c :: text) := by
  obtain ⟨digits, rest, split, isNumeral, ends⟩ := split_digits c text digit
  rw [split, scan_numeral start digits rest isNumeral ends] at scanned
  split at scanned
  · contradiction
  · rename_i large
    cases scanned
    rw [LexError.Refuses, String.toList_ofList]
    exact ⟨rfl, isNumeral, Nat.lt_of_not_le large, rest, split, ends⟩

private theorem not_equals_of_alone (rest : List Char) (alone : ∀ behind, rest = '=' :: behind → False) :
    ∀ c ∈ rest.head?, (c != '=') = true := by
  intro c next
  obtain ⟨behind, rfl⟩ := List.head?_eq_some_iff.mp next
  by_contra equals
  simp only [bne_iff_ne, ne_eq, Decidable.not_not] at equals
  exact alone behind (by rw [equals])

private theorem symbol_ends (text : List Char) (lexeme : Lexeme) (found : symbol? text = some lexeme) :
    lexeme.token ∈ symbolTokens ∧ lexeme.spelling = lexeme.token.spelling ∧
      ∀ c ∈ lexeme.rest.head?, lexeme.token.endsBefore c = true := by
  unfold symbol? at found
  split at found <;> first
    | contradiction
    | (cases found; exact ⟨by simp [symbolTokens, BinaryOperator.all], rfl, fun _ _ => rfl⟩)
    | (rename_i alone; cases found
       exact ⟨by simp [symbolTokens, BinaryOperator.all], rfl, not_equals_of_alone _ alone⟩)

private theorem heads_of_symbol (text : List Char) (lexeme : Lexeme) (found : symbol? text = some lexeme) :
    lexeme.token.Heads lexeme.spelling lexeme.rest := by
  obtain ⟨symbol, spelled, ends⟩ := symbol_ends text lexeme found
  have carries : lexeme.token.SpelledBy lexeme.spelling := by
    refine ⟨(matches_symbol_iff _ symbol _).mpr spelled, ?_⟩
    cases token : lexeme.token with
    | identifier name => rw [token] at symbol; simp [symbolTokens] at symbol
    | number value => rw [token] at symbol; simp [symbolTokens] at symbol
    | _ => trivial
  exact heads_of_endsBefore _ _ _ carries ends

private theorem sign_ne_none (rest : List Char) :
    symbol? ('=' :: rest) ≠ none ∧ symbol? ('>' :: rest) ≠ none ∧ symbol? ('<' :: rest) ≠ none := by
  by_cases equals : ∃ behind, rest = '=' :: behind
  · obtain ⟨behind, rfl⟩ := equals
    exact ⟨Option.some_ne_none _, Option.some_ne_none _, Option.some_ne_none _⟩
  · obtain ⟨assign, greater, less⟩ :=
      symbol_alone rest (not_equals_of_alone rest fun behind same => equals ⟨behind, same⟩)
    rw [assign, greater, less]
    exact ⟨Option.some_ne_none _, Option.some_ne_none _, Option.some_ne_none _⟩

private theorem symbol_ne_none (token : Token) (symbol : token ∈ symbolTokens) (rest : List Char) :
    symbol? (token.spelling ++ rest) ≠ none := by
  cases token with
  | identifier name => simp [symbolTokens] at symbol
  | number value => simp [symbolTokens] at symbol
  | endOfInput => exact absurd symbol (by decide)
  | assign => exact (sign_ne_none rest).1
  | operator op =>
    cases op with
    | greater => exact (sign_ne_none rest).2.1
    | less => exact (sign_ne_none rest).2.2
    | _ => exact Option.some_ne_none _
  | _ => exact Option.some_ne_none _

/-- A token that is taken is the longest word at its place. -/
theorem heads_of_scan (start : Position) (text : List Char) (lexeme : Lexeme)
    (scanned : scan start text = .ok lexeme) (word : lexeme.token.isEnd = false) :
    lexeme.token.Heads lexeme.spelling lexeme.rest := by
  cases scan_taken start text lexeme scanned with
  | symbol _ _ found => exact heads_of_symbol _ lexeme found
  | finish => contradiction
  | name c behind isStart => exact heads_of_name c behind isStart
  | number c behind value digit fits => exact heads_of_number c behind value digit fits

theorem refuses_of_scan (start : Position) (text : List Char) (fault : LexError)
    (scanned : scan start text = .error fault) (notBlank : ∀ c ∈ text.head?, isBlank c = false) :
    fault.position = start ∧ fault.Refuses text := by
  have whole := scanned
  unfold scan at scanned
  split at scanned
  · cases scanned
  · cases scanned
  · rename_i c behind none
    split at scanned
    · contradiction
    · rename_i notStart
      split at scanned
      · rename_i digit
        exact refuses_of_number start c behind fault digit whole
      · rename_i notDigit
        cases scanned
        refine ⟨rfl, rfl, ?_, ?_⟩
        · intro blank
          have isBlank := (isBlank_iff c).mpr blank
          rw [notBlank c rfl] at isBlank
          contradiction
        · intro kind word stands fits
          obtain ⟨rest, split⟩ := stands
          obtain ⟨first, others, rfl, sort⟩ := sort_of_matches kind word fits
          obtain ⟨rfl, _⟩ := List.cons.inj split
          have isSymbol : kind.wordSort = .symbol := by
            rw [← sort, WordSort.ofLead, if_neg notStart, if_neg notDigit]
          obtain ⟨token, symbol, spelled⟩ := symbol_of_wordSort kind _ fits isSymbol
          rw [spelled] at split
          exact symbol_ne_none token symbol rest (split ▸ none)

theorem scan_of_heads (start : Position) (token : Token) (spelling behind : List Char)
    (heads : token.Heads spelling behind) :
    scan start (spelling ++ behind) = .ok ⟨token, spelling, behind⟩ := by
  obtain ⟨⟨fits, carries⟩, ends, _⟩ := heads
  have ofSymbol (symbol : token ∈ symbolTokens) (writable : token.Writable) :
      scan start (spelling ++ behind) = .ok ⟨token, spelling, behind⟩ := by
    obtain rfl := (matches_symbol_iff token symbol spelling).mp fits
    exact scan_written start token behind writable ends
  cases token with
  | endOfInput => exact fits.elim
  | identifier name =>
    obtain rfl : name.toList = spelling := carries
    exact scan_name start name behind fits fun c next => (Bool.not_eq_true' _).mp (ends c next)
  | number value =>
    have same : value.toInt = Nat.ofDigitChars 10 spelling 0 := carries
    have small : Nat.ofDigitChars 10 spelling 0 ≤ 9223372036854775807 := by
      rw [← largest_number, ← Int.toNat_natCast (Nat.ofDigitChars 10 spelling 0), ← same]
      exact Int.toNat_le_toNat value.toInt_le
    have word : Int64.ofNat (Nat.ofDigitChars 10 spelling 0) = value := by
      apply Int64.toInt_inj.mp
      rw [Int64.toInt_ofNat_of_lt (by omega), same]
    rw [scan_numeral start spelling behind fits fun c next => (Bool.not_eq_true' _).mp (ends c next),
      if_pos small, word]
  | operator op => exact ofSymbol (operator_mem_symbolTokens op) trivial
  | _ => exact ofSymbol (by decide) trivial

private theorem symbol_none_of_noWord (text : List Char)
    (noWord : ∀ (kind : TokenKind) (word : List Char), word <+: text → ¬ kind.Matches word) :
    symbol? text = none := by
  cases found : symbol? text with
  | none => rfl
  | some lexeme =>
    obtain ⟨symbol, spelled, _⟩ := symbol_ends text lexeme found
    obtain ⟨split, _⟩ := symbol_spelling text lexeme found
    have fits := (matches_symbol_iff _ symbol _).mpr spelled
    exact absurd fits (noWord _ _ ⟨lexeme.rest, split.symm⟩)

theorem scan_of_refuses (text : List Char) (fault : LexError) (refuses : fault.Refuses text) :
    scan fault.position text = .error fault := by
  cases fault with
  | unexpectedCharacter c position =>
    obtain ⟨first, _, noWord⟩ := refuses
    obtain ⟨behind, rfl⟩ := List.head?_eq_some_iff.mp first
    have alone : [c] <+: c :: behind := ⟨behind, rfl⟩
    have notStart : ¬ isNameStart c = true := by
      intro isStart
      exact noWord .identifier [c] alone ⟨c, [], rfl, isStart, nofun⟩
    have notDigit : ¬ c.isDigit = true := by
      intro digit
      exact noWord .number [c] alone ⟨nofun, by simpa using digit⟩
    simp only [scan, symbol_none_of_noWord _ noWord, if_neg notStart, if_neg notDigit]
    rfl
  | numericOverflow literal position =>
    obtain ⟨isNumeral, large, behind, rfl, ends⟩ := refuses
    rw [scan_numeral _ _ behind isNumeral ends, if_neg (Nat.not_le_of_lt large), String.ofList_toList]
    rfl

end Lexeme

/-- What a lexer passes over to its next item: blanks, then the item's own word, if it
has one. -/
inductive Lexer.Passes : Lexer → LexItem → Lexer → Prop where
  | word (source : String) (blanks spelling behind : List Char) (cursor : Position) (token : Token)
      (blank : ∀ c ∈ blanks, c ∈ blankChars)
      (heads : token.Heads spelling behind) :
      Passes ⟨source, blanks ++ (spelling ++ behind), cursor, false⟩
        (.ok ⟨token, cursor.after blanks⟩)
        ⟨source, behind, (cursor.after blanks).after spelling, false⟩
  | finish (source : String) (blanks : List Char) (cursor : Position)
      (blank : ∀ c ∈ blanks, c ∈ blankChars) :
      Passes ⟨source, blanks, cursor, false⟩ (.ok ⟨.endOfInput, cursor.after blanks⟩)
        ⟨source, [], cursor.after blanks, true⟩
  | refusal (source : String) (blanks text : List Char) (cursor : Position) (fault : LexError)
      (blank : ∀ c ∈ blanks, c ∈ blankChars)
      (place : fault.position = cursor.after blanks) (refuses : fault.Refuses text) :
      Passes ⟨source, blanks ++ text, cursor, false⟩ (.error fault)
        ⟨source, text, cursor.after blanks, true⟩

private theorem Lexeme.scan_end (start : Position) (text : List Char) (lexeme : Lexeme)
    (scanned : scan start text = .ok lexeme) (ends : lexeme.token.isEnd = true) :
    text = [] ∧ lexeme = ⟨.endOfInput, [], []⟩ := by
  cases scan_taken start text lexeme scanned with
  | symbol _ _ found =>
    rw [(Lexeme.symbol_spelling _ lexeme found).2.2] at ends
    contradiction
  | finish => exact ⟨rfl, rfl⟩
  | name => contradiction
  | number => contradiction

theorem Lexer.next_passes (lexer after : Lexer) (item : LexItem)
    (read : lexer.next = (some item, after)) : lexer.Passes item after := by
  obtain ⟨source, rest, cursor, finished⟩ := lexer
  unfold next at read
  split at read
  · cases read
  · rename_i running
    obtain rfl : finished = false := Bool.eq_false_iff.mpr running
    have split : rest.takeWhile isBlank ++ rest.dropWhile isBlank = rest :=
      List.takeWhile_append_dropWhile
    have notBlank := Lexeme.ends_run isBlank rest
    have blank : ∀ c ∈ rest.takeWhile isBlank, c ∈ blankChars := by
      intro c member
      exact (isBlank_iff c).mp (List.all_eq_true.mp List.all_takeWhile c member)
    dsimp only at read
    generalize rest.takeWhile isBlank = blanks at *
    generalize rest.dropWhile isBlank = text at *
    subst split
    split at read
    · rename_i lexeme scanned
      cases read
      cases ends : lexeme.token.isEnd with
      | true =>
        obtain ⟨rfl, rfl⟩ := Lexeme.scan_end _ _ _ scanned ends
        rw [List.append_nil]
        exact .finish source blanks cursor blank
      | false =>
        obtain ⟨rfl, _⟩ := Lexeme.scan_spelling _ _ _ scanned
        exact .word source blanks _ _ cursor _ blank (Lexeme.heads_of_scan _ _ _ scanned ends)
    · rename_i fault scanned
      cases read
      obtain ⟨place, refuses⟩ := Lexeme.refuses_of_scan _ _ _ scanned notBlank
      exact .refusal source blanks text cursor fault blank place refuses

private theorem Lexer.next_at (source : String) (blanks text : List Char) (cursor : Position)
    (blank : ∀ c ∈ blanks, c ∈ blankChars)
    (notBlank : ∀ c ∈ text.head?, isBlank c = false) :
    next ⟨source, blanks ++ text, cursor, false⟩ =
      match Lexeme.scan (cursor.after blanks) text with
      | .ok lexeme => (some (.ok ⟨lexeme.token, cursor.after blanks⟩),
          ⟨source, lexeme.rest, (cursor.after blanks).after lexeme.spelling, lexeme.token.isEnd⟩)
      | .error fault => (some (.error fault), ⟨source, text, cursor.after blanks, true⟩) := by
  have allBlank : ∀ c ∈ blanks, isBlank c = true := fun c member => (isBlank_iff c).mpr (blank c member)
  cases scanned : Lexeme.scan (cursor.after blanks) text <;>
    simp only [next, takeWhile_run _ _ text allBlank notBlank, dropWhile_run _ _ text allBlank notBlank,
      scanned, Bool.false_eq_true, if_false]

private theorem Token.Heads.not_blank {token : Token} {spelling behind : List Char}
    (heads : token.Heads spelling behind) : ∀ c ∈ (spelling ++ behind).head?, isBlank c = false := by
  obtain ⟨first, others, rfl, _⟩ := sort_of_matches _ _ heads.spelled.1
  intro c next
  cases next
  exact not_blank_of_matches _ _ heads.spelled.1 _ (List.mem_cons_self ..)

private theorem LexError.Refuses.not_blank {text : List Char} {fault : LexError} (refuses : fault.Refuses text) :
    ∀ c ∈ text.head?, isBlank c = false := by
  cases fault with
  | unexpectedCharacter d position =>
    obtain ⟨first, notBlank, _⟩ := refuses
    intro c next
    cases first.symm.trans next
    exact Bool.eq_false_iff.mpr fun blank => notBlank ((isBlank_iff _).mp blank)
  | numericOverflow literal position =>
    obtain ⟨isNumeral, _, behind, rfl, _⟩ := refuses
    obtain ⟨first, others, split⟩ := List.exists_cons_of_ne_nil isNumeral.1
    rw [split] at isNumeral ⊢
    intro c next
    cases next
    exact not_isBlank_of_isDigit _ (isNumeral.2 _ (List.mem_cons_self ..))

theorem Token.Heads.isEnd {token : Token} {spelling behind : List Char}
    (heads : token.Heads spelling behind) : token.isEnd = false := by
  cases token with
  | endOfInput => exact heads.spelled.1.elim
  | _ => rfl

theorem Lexer.next_of_passes (lexer after : Lexer) (item : LexItem) (passes : lexer.Passes item after) :
    lexer.next = (some item, after) := by
  cases passes with
  | word source blanks spelling behind cursor token blank heads =>
    rw [next_at source blanks _ cursor blank heads.not_blank, Lexeme.scan_of_heads _ _ _ _ heads]
    simp only [heads.isEnd]
  | finish source blanks cursor blank =>
    have read := next_at source blanks [] cursor blank nofun
    rw [List.append_nil] at read
    exact read
  | refusal source blanks text cursor fault blank place refuses =>
    rw [next_at source blanks _ cursor blank refuses.not_blank, ← place,
      Lexeme.scan_of_refuses text fault refuses]

/-- Whether a lexer is where another one is, but with a longer text. Behind the end of
its own text it is nowhere. -/
structure Lexer.Extends (tail : List Char) (lexer longer : Lexer) : Prop where
  rest : longer.rest = lexer.rest ++ tail
  cursor : longer.cursor = lexer.cursor
  finished : longer.finished = lexer.finished
  whole : lexer.finished = true → tail = []

theorem Lexer.Extends.next_none {tail : List Char} {lexer longer : Lexer}
    (further : lexer.Extends tail longer) (finished : lexer.finished = true) :
    longer.next = (none, longer) ∧ longer.position = lexer.position := by
  obtain ⟨rest, cursor, ends, whole⟩ := further
  have finishedToo := ends.trans finished
  refine ⟨next_of_finished longer finishedToo, ?_⟩
  rw [position, position, if_pos finished, if_pos finishedToo, rest, cursor, whole finished, List.append_nil]

theorem Lexer.Passes.append {tail : List Char} {lexer longer after : Lexer} {item : LexItem}
    (passes : lexer.Passes item after) (further : lexer.Extends tail longer)
    (separated : ∀ c ∈ tail.head?, isBlank c = true) :
    (tail ≠ [] ∧ after.finished = true ∧ ∃ place, item = .ok ⟨.endOfInput, place⟩) ∨
      ∃ ahead, longer.Passes item ahead ∧ ∀ word, item = .ok word → after.Extends tail ahead := by
  obtain ⟨own, text, cursor, finished⟩ := longer
  obtain ⟨rest, place, ends, _⟩ := further
  cases passes with
  | word source blanks spelling behind cursor token blank heads =>
    cases place
    cases ends
    obtain rfl : text = blanks ++ (spelling ++ (behind ++ tail)) := by simpa using rest
    exact .inr ⟨_, .word own blanks spelling _ _ token blank (heads.append tail separated),
      fun _ _ => ⟨rfl, rfl, rfl, nofun⟩⟩
  | finish source blanks cursor blank =>
    cases place
    cases ends
    by_cases more : tail = []
    · subst more
      obtain rfl : text = blanks := by simpa using rest
      exact .inr ⟨_, .finish own text _ blank, fun _ _ => ⟨rfl, rfl, rfl, fun _ => rfl⟩⟩
    · exact .inl ⟨more, rfl, _, rfl⟩
  | refusal source blanks refused cursor fault blank stands refuses =>
    cases place
    cases ends
    obtain rfl : text = blanks ++ (refused ++ tail) := by simpa using rest
    exact .inr ⟨_, .refusal own blanks _ _ fault blank stands (refuses.append tail separated), nofun⟩

end ExprLang
