import ExprLang.Lexer
import Mathlib.Data.Stream.Init

/-! What a lexer has in store: its items in order, and from then on the end of input.
A text of finite length has finitely many items, so the lexer comes to an end. -/
namespace ExprLang

theorem Lexeme.symbol_spelling (text : List Char) (lexeme : Lexeme)
    (found : Lexeme.symbol? text = some lexeme) :
    text = lexeme.spelling ++ lexeme.rest ∧ lexeme.spelling ≠ [] ∧ lexeme.token.isEnd = false := by
  unfold Lexeme.symbol? at found
  split at found <;> first
    | contradiction
    | cases found; exact ⟨rfl, by simp, rfl⟩

theorem Lexeme.takeWhile_ne_nil (part : Char → Bool) (c : Char) (text : List Char)
    (first : part c = true) : (c :: text).takeWhile part ≠ [] := by
  rw [List.takeWhile_cons_of_pos first]
  exact List.cons_ne_nil _ _

/-- What can be taken at the head of a text: a symbol, the end of the text, a name or a
number. -/
inductive Lexeme.Taken (start : Position) : List Char → Lexeme → Prop where
  | symbol (text : List Char) (lexeme : Lexeme) (found : Lexeme.symbol? text = some lexeme) :
      Taken start text lexeme
  | finish : Taken start [] ⟨.endOfInput, [], []⟩
  | name (c : Char) (behind : List Char) (isStart : isNameStart c = true) :
      Taken start (c :: behind) (Lexeme.name (c :: behind))
  | number (c : Char) (behind : List Char) (value : Nat) (digit : c.isDigit = true)
      (fits : decimal? Int64.maxValue.toInt.toNat ((c :: behind).takeWhile Char.isDigit) = some value) :
      Taken start (c :: behind) ⟨.number (Int64.ofNat value), (c :: behind).takeWhile Char.isDigit,
        (c :: behind).dropWhile Char.isDigit⟩

theorem Lexeme.scan_taken (start : Position) (text : List Char) (lexeme : Lexeme)
    (scanned : Lexeme.scan start text = .ok lexeme) : Lexeme.Taken start text lexeme := by
  unfold Lexeme.scan at scanned
  split at scanned
  · rename_i found
    cases scanned
    exact .symbol _ lexeme found
  · cases scanned
    exact .finish
  · rename_i c behind _
    split at scanned
    · rename_i isStart
      cases scanned
      exact .name c behind isStart
    · split at scanned
      · rename_i digit
        unfold Lexeme.number at scanned
        dsimp only at scanned
        split at scanned
        · rename_i value fits
          cases scanned
          exact .number c behind value digit fits
        · contradiction
      · contradiction

theorem Lexeme.scan_spelling (start : Position) (text : List Char) (lexeme : Lexeme)
    (scanned : Lexeme.scan start text = .ok lexeme) :
    text = lexeme.spelling ++ lexeme.rest ∧ (lexeme.token.isEnd = false → lexeme.spelling ≠ []) := by
  cases scan_taken start text lexeme scanned with
  | symbol _ _ found =>
    obtain ⟨split, spelled, _⟩ := Lexeme.symbol_spelling _ lexeme found
    exact ⟨split, fun _ => spelled⟩
  | finish => exact ⟨rfl, nofun⟩
  | name c behind isStart =>
    have part : isNamePart c = true := by simp [isNamePart, isStart]
    exact ⟨List.takeWhile_append_dropWhile.symm, fun _ => takeWhile_ne_nil isNamePart c behind part⟩
  | number c behind value digit =>
    exact ⟨List.takeWhile_append_dropWhile.symm, fun _ => takeWhile_ne_nil Char.isDigit c behind digit⟩

namespace Lexer

theorem next_of_finished (lexer : Lexer) (finished : lexer.finished = true) :
    lexer.next = (none, lexer) := by
  rw [next, if_pos finished]

theorem next_none (lexer after : Lexer) (read : lexer.next = (none, after)) :
    lexer.finished = true ∧ after = lexer := by
  unfold next at read
  split at read
  · rename_i finished
    cases read
    exact ⟨finished, rfl⟩
  · dsimp only at read
    split at read <;> cases read

theorem next_progress (lexer after : Lexer) (item : LexItem) (read : lexer.next = (some item, after)) :
    after.finished = true ∨ after.rest.length < lexer.rest.length := by
  unfold next at read
  split at read
  · cases read
  · have shorter := (List.dropWhile_suffix isBlank (l := lexer.rest)).length_le
    dsimp only at read
    split at read
    · rename_i lexeme scanned
      cases read
      obtain ⟨split, spelled⟩ := Lexeme.scan_spelling _ _ _ scanned
      cases ends : lexeme.token.isEnd with
      | true => exact .inl rfl
      | false =>
        have nonempty := List.length_pos_iff.mpr (spelled ends)
        have lengths := congrArg List.length split
        rw [List.length_append] at lengths
        exact .inr (by dsimp only; omega)
    · cases read
      exact .inl rfl

private theorem takeOnto_eq (items : Array LexItem) (count : Nat) (lexer : Lexer) :
    takeOnto items count lexer = (items ++ (takeOnto #[] count lexer).1, (takeOnto #[] count lexer).2) := by
  induction count generalizing items lexer with
  | zero => simp [takeOnto]
  | succ count ih =>
    unfold takeOnto
    split
    · rename_i item after _
      rw [ih (items.push item) after, ih (#[].push item) after]
      simp
    · simp

theorem take_none (lexer after : Lexer) (read : lexer.next = (none, after)) (count : Nat) :
    lexer.take count = ([], lexer) := by
  cases count with
  | zero => rfl
  | succ count => rw [take, takeOnto, read, (next_none lexer after read).2]

theorem take_some (lexer after : Lexer) (item : LexItem) (read : lexer.next = (some item, after))
    (count : Nat) : lexer.take (count + 1) = (item :: (after.take count).1, (after.take count).2) := by
  rw [take, takeOnto, read]
  dsimp only
  rw [takeOnto_eq]
  simp [take]

private theorem take_of_finished (lexer : Lexer) (finished : lexer.finished = true) (count : Nat) :
    lexer.take count = ([], lexer) :=
  take_none lexer lexer (next_of_finished lexer finished) count

theorem take_eq_take (count other : Nat) (lexer : Lexer)
    (enough : lexer.finished = true ∨ lexer.rest.length < count)
    (enoughToo : lexer.finished = true ∨ lexer.rest.length < other) :
    lexer.take count = lexer.take other := by
  induction count generalizing lexer other with
  | zero =>
    have finished := enough.resolve_right (Nat.not_lt_zero _)
    rw [take_of_finished lexer finished, take_of_finished lexer finished]
  | succ count ih =>
    cases read : lexer.next with
    | mk found after =>
      cases found with
      | none => rw [take_none lexer after read, take_none lexer after read]
      | some item =>
        have running : ¬ lexer.finished = true := by
          intro finished
          rw [next_of_finished lexer finished] at read
          cases read
        have long := enough.resolve_left running
        have longToo := enoughToo.resolve_left running
        have progress := next_progress lexer after item read
        obtain ⟨other, rfl⟩ := Nat.exists_eq_succ_of_ne_zero (by omega : other ≠ 0)
        rw [take_some lexer after item read, take_some lexer after item read,
          ih other after (progress.imp id (by omega)) (progress.imp id (by omega))]

theorem takeRest_none (lexer after : Lexer) (read : lexer.next = (none, after)) :
    lexer.takeRest = ([], lexer) :=
  take_none lexer after read _

theorem takeRest_some (lexer after : Lexer) (item : LexItem)
    (read : lexer.next = (some item, after)) :
    lexer.takeRest = (item :: after.takeRest.1, after.takeRest.2) := by
  have progress := next_progress lexer after item read
  rw [takeRest, take_some lexer after item read, take_eq_take lexer.rest.length (after.rest.length + 1) after
    progress (.inr (Nat.lt_succ_self _)), takeRest]

theorem takeRest_cons (lexer : Lexer) (item : LexItem) (items : List LexItem)
    (taken : lexer.takeRest.1 = item :: items) :
    ∃ after, lexer.next = (some item, after) ∧ after.takeRest.1 = items := by
  cases read : lexer.next with
  | mk found after =>
    cases found with
    | none =>
      rw [takeRest_none lexer after read] at taken
      contradiction
    | some first =>
      rw [takeRest_some lexer after first read] at taken
      cases taken
      exact ⟨after, rfl, rfl⟩

theorem takeRest_eq_of_next (lexer other : Lexer) (same : lexer.next = other.next) :
    lexer.takeRest.1 = other.takeRest.1 := by
  cases read : other.next with
  | mk found after =>
    rw [read] at same
    cases found with
    | none => rw [takeRest_none lexer after same, takeRest_none other after read]
    | some item => rw [takeRest_some lexer after item same, takeRest_some other after item read]

/-- The items to come: those of the text, then the end of input for ever. -/
def supply (lexer : Lexer) : Stream' LexItem :=
  lexer.takeRest.1 ++ₛ Stream'.const (.ok ⟨.endOfInput, lexer.takeRest.2.position⟩)

theorem supply_some (lexer after : Lexer) (item : LexItem)
    (read : lexer.next = (some item, after)) : lexer.supply = .cons item after.supply := by
  rw [supply, takeRest_some lexer after item read]
  rfl

theorem supply_none (lexer after : Lexer) (read : lexer.next = (none, after)) :
    lexer.supply = .cons (.ok ⟨.endOfInput, after.position⟩) after.supply := by
  rw [(next_none lexer after read).2, supply, takeRest_none lexer after read]
  exact Stream'.const_eq _

end Lexer

def LexItem.isLast : LexItem → Bool
  | .ok item => item.token.isEnd
  | .error _ => true

def LexItem.word? : LexItem → Option Spanned
  | .ok item => if item.token.isEnd then none else some item
  | .error _ => none

/-- The tokens of a text before its end, or before its first error. -/
def wordsOf (source : String) : List Spanned :=
  (Lexer.ofString source).takeRest.1.filterMap LexItem.word?

abbrev tokensOf (words : List Spanned) : List Token := words.map Spanned.token

theorem tokensOf_snoc (words : List Spanned) (token : Token) (position : Position) :
    tokensOf (words ++ [⟨token, position⟩]) = tokensOf words ++ [token] := by
  rw [tokensOf, List.map_append, List.map_singleton]

namespace Lexer

private theorem next_isLast (lexer after : Lexer) (item : LexItem) (read : lexer.next = (some item, after)) :
    after.finished = item.isLast := by
  unfold next at read
  split at read
  · cases read
  · dsimp only at read
    split at read <;> cases read <;> rfl

private theorem takeRest_words (lexer : Lexer) (running : lexer.finished = false) :
    ∃ (words : List Spanned) (last : LexItem), lexer.takeRest.1 = words.map Except.ok ++ [last] ∧
      (∀ word ∈ words, word.token.isEnd = false) ∧ last.isLast = true := by
  -- on the length of the unread text, which each token but the last makes shorter
  induction size : lexer.rest.length using Nat.strong_induction_on generalizing lexer with
  | h length ih =>
    cases read : lexer.next with
    | mk found after =>
      cases found with
      | none =>
        rw [(next_none lexer after read).1] at running
        contradiction
      | some item =>
        have isLast := next_isLast lexer after item read
        rw [takeRest_some lexer after item read]
        cases ends : item.isLast with
        | true =>
          rw [ends] at isLast
          refine ⟨[], item, ?_, by simp, ends⟩
          rw [takeRest, take_of_finished after isLast]
          rfl
        | false =>
          rw [ends] at isLast
          have shorter := (next_progress lexer after item read).resolve_left (by simp [isLast])
          obtain ⟨words, last, items, allWords, lastIsLast⟩ := ih _ (size ▸ shorter) after isLast rfl
          cases item with
          | error fault => contradiction
          | ok word =>
            refine ⟨word :: words, last, ?_, ?_, lastIsLast⟩
            · rw [items]
              rfl
            · intro other member
              obtain rfl | member := List.mem_cons.mp member
              · exact ends
              · exact allWords other member

end Lexer

private theorem words_append (words : List Spanned) (last : LexItem)
    (allWords : ∀ word ∈ words, word.token.isEnd = false) (isLast : last.isLast = true) :
    (words.map Except.ok ++ [last]).filterMap LexItem.word? = words := by
  induction words with
  | nil =>
    cases last with
    | ok item => simp [LexItem.word?, show item.token.isEnd = true from isLast]
    | error fault => rfl
  | cons word words ih =>
    have first : LexItem.word? (.ok word) = some word := by
      simp [LexItem.word?, allWords word (List.mem_cons_self ..)]
    rw [List.map_cons, List.cons_append, List.filterMap_cons_some first,
      ih (fun other member => allWords other (List.mem_cons_of_mem _ member))]

theorem mapM_append (words : List Spanned) (last : LexItem) :
    (words.map Except.ok ++ [last]).mapM id = last.map (fun item => words ++ [item]) := by
  induction words with
  | nil => cases last <;> rfl
  | cons word words ih =>
    rw [List.map_cons, List.cons_append, List.mapM_cons, ih]
    cases last <;> rfl

theorem wordsOf_spec (source : String) :
    ∃ last : LexItem, (Lexer.ofString source).takeRest.1 = (wordsOf source).map Except.ok ++ [last] ∧
      (∀ word ∈ wordsOf source, word.token.isEnd = false) ∧ last.isLast = true ∧
      tokenize source = last.map (fun item => wordsOf source ++ [item]) := by
  obtain ⟨words, last, items, allWords, isLast⟩ := Lexer.takeRest_words (.ofString source) rfl
  have same : wordsOf source = words := by
    rw [wordsOf, items, words_append words last allWords isLast]
  rw [same]
  refine ⟨last, items, allWords, isLast, ?_⟩
  rw [tokenize, items, mapM_append]

theorem words_of_tokenize (source : String) (words : List Spanned) (position : Position)
    (tokenized : tokenize source = .ok (words ++ [⟨.endOfInput, position⟩])) :
    wordsOf source = words := by
  obtain ⟨last, _, _, _, spec⟩ := wordsOf_spec source
  rw [tokenized] at spec
  cases last with
  | error cause => contradiction
  | ok item => exact (List.append_inj_left' (Except.ok.inj spec) rfl).symm

theorem append_split (words used : List Spanned) (last : LexItem) (behind rest : Stream' LexItem)
    (isLast : last.isLast = true) (allWords : ∀ word ∈ used, word.token.isEnd = false)
    (same : words.map Except.ok ++ₛ .cons last behind = used.map Except.ok ++ₛ rest) :
    ∃ between, words = used ++ between ∧ rest = between.map Except.ok ++ₛ .cons last behind := by
  induction used generalizing words with
  | nil => exact ⟨words, rfl, same.symm⟩
  | cons word used ih =>
    cases words with
    | nil =>
      have heads : last = .ok word := congrArg Stream'.head same
      rw [heads, LexItem.isLast, allWords word (List.mem_cons_self ..)] at isLast
      contradiction
    | cons first words =>
      have heads : first = word := Except.ok.inj (congrArg Stream'.head same)
      obtain ⟨between, rfl, split⟩ := ih words
        (fun other member => allWords other (List.mem_cons_of_mem _ member)) (congrArg Stream'.tail same)
      exact ⟨between, by rw [heads]; rfl, split⟩

end ExprLang
