import ExprLang.Proofs.Restarting
import ExprLang.Proofs.WrittenTexts

/-! The names of the language. Whether a text is one is found out by reading it, and the
answer is that of the rule: a letter or `_`, and then letters, decimal digits and `_`. So
a name that is read anywhere in a text is read as the same name where it stands alone. -/
namespace ExprLang

theorem isNameStart_iff (c : Char) :
    isNameStart c = true ↔ c = '_' ∨ Text.letters.Holds c.toNat := by
  rw [isNameStart, Bool.or_eq_true, decide_eq_true_eq, Text.isLetter_iff]

theorem isNamePart_iff (c : Char) :
    isNamePart c = true ↔
      c = '_' ∨ Text.letters.Holds c.toNat ∨ Text.decimalDigits.Holds c.toNat := by
  rw [isNamePart, Bool.or_eq_true, isNameStart_iff, Text.isDecimalDigit_iff, or_assoc]

theorem isName_iff (text : List Char) :
    IsName text ↔ ∃ first others, text = first :: others ∧
      (first = '_' ∨ Text.letters.Holds first.toNat) ∧
      ∀ c ∈ others, c = '_' ∨ Text.letters.Holds c.toNat ∨ Text.decimalDigits.Holds c.toNat := by
  simp only [IsName, isNameStart_iff, isNamePart_iff]

theorem isName_iff_yielded (name : String) :
    IsName name.toList ↔ ∃ (source : String) (calls : List LexerCall) (place : Position),
      ((Lexer.ofString source).performAll calls).next.1 = some (.ok ⟨.identifier name, place⟩) := by
  constructor
  · intro isName
    exact ⟨name, [], .start, congrArg Prod.fst (Lexer.next_name name isName)⟩
  · rintro ⟨source, calls, place, named⟩
    exact Lexer.isName_of_next _ name place named

theorem isName_iff_tokenize (name : String) :
    IsName name.toList ↔
      ∃ place, tokenize name = .ok [⟨.identifier name, .start⟩, ⟨.endOfInput, place⟩] := by
  constructor
  · intro isName
    exact ⟨_, tokenize_word name (.identifier name) ⟨isName, rfl⟩⟩
  · rintro ⟨place, tokenized⟩
    have words := words_of_tokenize name [⟨.identifier name, .start⟩] place tokenized
    exact wordsOf_writable name ⟨.identifier name, .start⟩ (by simp [words])

/-- A text is found to be a name just where it follows the rule. So do the texts of all
identifiers that lexers yield, whatever they read and however they are called; and a name
that stands alone is read as itself and nothing else. -/
theorem isIdentifier_decides_names (name : String) :
    (isIdentifier name = true ↔ ∃ first others, name.toList = first :: others ∧
      (first = '_' ∨ Text.letters.Holds first.toNat) ∧
      ∀ c ∈ others, c = '_' ∨ Text.letters.Holds c.toNat ∨ Text.decimalDigits.Holds c.toNat) ∧
    (isIdentifier name = true ↔
      ∃ (source : String) (calls : List LexerCall) (place : Position),
        ((Lexer.ofString source).performAll calls).next.1 = some (.ok ⟨.identifier name, place⟩)) ∧
    (isIdentifier name = true ↔
      ∃ place, tokenize name = .ok [⟨.identifier name, .start⟩, ⟨.endOfInput, place⟩]) := by
  refine ⟨?_, ?_, ?_⟩
  · exact (isIdentifier_iff name).trans (isName_iff name.toList)
  · exact (isIdentifier_iff name).trans (isName_iff_yielded name)
  · exact (isIdentifier_iff name).trans (isName_iff_tokenize name)

/-- A digit of any script may stand in a name but not begin one, and a newline behind a
name is skipped but no part of it. -/
example : isIdentifier "x९" = true ∧ isIdentifier "९x" = false ∧ isIdentifier "x\n" = false := by
  decide +kernel

end ExprLang
