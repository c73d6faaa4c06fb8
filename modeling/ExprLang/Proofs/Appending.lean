import ExprLang.Proofs.SameSteps
import ExprLang.Proofs.Verdicts

/-! What a failed parse says of longer texts. More text behind a blank changes nothing
about what was read before, so an error stands unless it is for the end or for the limit,
and a tree that is too tall only grows. -/
namespace ExprLang

private theorem Lexer.Extends.supply {tail : List Char} {lexer longer : Lexer} (further : lexer.Extends tail longer)
    (separated : ∀ c ∈ tail.head?, isBlank c = true) (words : List Spanned) (last : LexItem)
    (items : lexer.takeRest.1 = words.map Except.ok ++ [last])
    (allWords : ∀ word ∈ words, word.token.isEnd = false) :
    ∃ rest, longer.supply = words.map Except.ok ++ₛ rest := by
  induction words generalizing lexer longer with
  | nil => exact ⟨_, rfl⟩
  | cons word words ih =>
    obtain ⟨after, read, later⟩ := takeRest_cons lexer (.ok word) _ items
    obtain ⟨_, _, place, isEnd⟩ | ⟨ahead, passes, furtherAfter⟩ :=
      (next_passes lexer after _ read).append further separated
    · have isWord := allWords word (List.mem_cons_self ..)
      cases isEnd
      contradiction
    · obtain ⟨rest, supplied⟩ := ih (furtherAfter word rfl) later
        (fun other member => allWords other (List.mem_cons_of_mem _ member))
      refine ⟨rest, ?_⟩
      rw [supply_some longer ahead _ (next_of_passes _ _ _ passes), supplied]
      rfl

section
variable (source tail : String) (separated : ∀ c ∈ tail.toList.head?, isBlank c = true)
include separated

private theorem wordsOf_append : ∃ more, wordsOf (source ++ tail) = wordsOf source ++ more := by
  obtain ⟨last, items, allWords, _⟩ := wordsOf_spec source
  obtain ⟨final, itemsLonger, _, isLast, _⟩ := wordsOf_spec (source ++ tail)
  have further : (Lexer.ofString source).Extends tail.toList (Lexer.ofString (source ++ tail)) :=
    ⟨String.toList_append, rfl, rfl, nofun⟩
  obtain ⟨rest, supplied⟩ := further.supply separated _ last items allWords
  obtain ⟨behind, same⟩ := supply_ofString (source ++ tail) .standard final itemsLonger
  obtain ⟨more, split, _⟩ := append_split _ _ final behind rest isLast allWords (same.symm.trans supplied)
  exact ⟨more, split⟩

theorem fails_of_tooDeep (options : Options) (bound : Nat) (position : Position)
    (parsed : parseWith source options = .error (.parse (.nestingTooDeep bound position))) :
    ∃ fault, parseWith (source ++ tail) options = .error fault := by
  obtain ⟨last, _, _, _, outcome⟩ := parseWith_outcome source options
  rw [parsed] at outcome
  obtain ⟨taken, between, split, _, _, state, ran, deep⟩ := outcome
  cases read : parseWith (source ++ tail) options with
  | error fault => exact ⟨fault, rfl⟩
  | ok tree =>
    obtain ⟨_, derived, room⟩ := parseWith_ok (source ++ tail) options tree read
    obtain ⟨more, longer⟩ := wordsOf_append source tail separated
    rw [longer, split, List.append_assoc, tokensOf, List.map_append] at derived
    have reached := Reading.reach_le_height _ _ tree state derived ran
    omega

end

private theorem separated_of_blank (blanks more : String) (apart : blanks ≠ "")
    (blank : ∀ c ∈ blanks.toList, c ∈ blankChars) :
    ∀ c ∈ (blanks ++ more).toList.head?, isBlank c = true := by
  obtain ⟨first, others, split⟩ := List.exists_cons_of_ne_nil (fun empty => apart (String.toList_eq_nil_iff.mp empty))
  rw [String.toList_append, split]
  rintro c ⟨⟩
  exact (isBlank_iff first).mpr (blank first (by rw [split]; exact List.mem_cons_self ..))

/-- A failed parse is decided by what was read of the text: behind a blank, nothing can be
added that repairs it. -/
theorem parseWith_not_repaired (source blanks more : String) (options : Options) (apart : blanks ≠ "")
    (blank : ∀ c ∈ blanks.toList, c ∈ blankChars) :
    (∀ cause, parseWith source options = .error (.lex cause) →
      parseWith (source ++ blanks ++ more) options = .error (.lex cause)) ∧
    (∀ expected found position,
      parseWith source options = .error (.parse (.unexpectedToken expected found position)) →
      parseWith (source ++ blanks ++ more) options =
        .error (.parse (.unexpectedToken expected found position))) ∧
    (∀ position, parseWith source options = .error (.parse (.invalidAssignmentTarget position)) →
      parseWith (source ++ blanks ++ more) options = .error (.parse (.invalidAssignmentTarget position))) ∧
    ∀ limit position, parseWith source options = .error (.parse (.nestingTooDeep limit position)) →
      ∃ fault, parseWith (source ++ blanks ++ more) options = .error fault := by
  have separated := separated_of_blank blanks more apart blank
  have stands := parseWith_stands source (blanks ++ more) options options separated (Nat.le_refl _)
  rw [String.append_assoc]
  refine ⟨?_, ?_, ?_, fails_of_tooDeep source (blanks ++ more) separated options⟩
  · intro cause parsed
    exact (stands _ parsed).2.resolve_left id
  · intro expected found position parsed
    exact (stands _ parsed).2.resolve_left id
  · intro position parsed
    exact (stands _ parsed).2.resolve_left id

/-- A name too many, a number as a target, a number that is too large and brackets below
the limit, each with a tab and more text behind it. -/
theorem parseWith_not_repaired_by_names :
    ("\t" ≠ "" ∧ ∀ c ∈ "\t".toList, c ∈ blankChars) ∧
    parseWith ("a b" ++ "\t" ++ "+ c") ⟨128⟩ =
      .error (.parse (.unexpectedToken [.endOfInput] (.identifier "b") ⟨2, 1, 3⟩)) ∧
    parseWith ("1 =" ++ "\t" ++ "$") ⟨128⟩ = .error (.parse (.invalidAssignmentTarget ⟨0, 1, 1⟩)) ∧
    parseWith ("a = 9223372036854775808" ++ "\t" ++ "= 1") ⟨128⟩ =
      .error (.lex (.numericOverflow "9223372036854775808" ⟨4, 1, 5⟩)) ∧
    ∃ fault, parseWith ("a[b[c" ++ "\t" ++ "]] = d") ⟨2⟩ = .error fault := by
  have apart : "\t" ≠ "" := by decide
  have blank : ∀ c ∈ "\t".toList, c ∈ blankChars := by simp [blankChars]
  have leftover : parseWith "a b" ⟨128⟩ =
      .error (.parse (.unexpectedToken [.endOfInput] (.identifier "b") ⟨2, 1, 3⟩)) := by
    decide +kernel
  have number : parseWith "1 =" ⟨128⟩ = .error (.parse (.invalidAssignmentTarget ⟨0, 1, 1⟩)) := by
    decide +kernel
  have large : parseWith "a = 9223372036854775808" ⟨128⟩ =
      .error (.lex (.numericOverflow "9223372036854775808" ⟨4, 1, 5⟩)) := by
    decide +kernel
  have deep : parseWith "a[b[c" ⟨2⟩ = .error (.parse (.nestingTooDeep 2 ⟨4, 1, 5⟩)) := by
    decide +kernel
  refine ⟨⟨apart, blank⟩, ?_, ?_, ?_, ?_⟩
  · exact (parseWith_not_repaired "a b" "\t" "+ c" ⟨128⟩ apart blank).2.1 _ _ _ leftover
  · exact (parseWith_not_repaired "1 =" "\t" "$" ⟨128⟩ apart blank).2.2.1 _ number
  · exact (parseWith_not_repaired _ "\t" "= 1" ⟨128⟩ apart blank).1 _ large
  · exact (parseWith_not_repaired "a[b[c" "\t" "]] = d" ⟨2⟩ apart blank).2.2.2 _ _ deep

end ExprLang
